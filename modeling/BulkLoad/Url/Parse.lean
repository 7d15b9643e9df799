import BulkLoad.Text.Blank
import BulkLoad.Url.Basic

/-!
Reading a URL that stands on its own.

Control characters and spaces at the ends are dropped, and tabs and line breaks everywhere. The
scheme decides how the rest is read.
-/
namespace BulkLoad.Url

def clean (cs : List Char) : List Char :=
  let isEdge (c : Char) : Bool := c.toNat ≤ 0x20
  (Text.dropEndWhile isEdge (cs.dropWhile isEdge)).filter fun c => c ∉ ['\t', '\n', '\r']

def isSchemeChar (c : Char) : Bool := c.isAlphanum || c ∈ ['+', '-', '.']

/-- The scheme in lower case, and what follows its colon. -/
def scheme? (cs : List Char) : Option (List Char × List Char) :=
  match cs.span isSchemeChar with
  | (c :: scheme, ':' :: rest) =>
    if c.isAlpha then some ((c :: scheme).map Char.toLower, rest) else none
  | _ => none

/-- Whether a character ends a segment: a slash, or a backslash in a web scheme. -/
def isSlash (special : Bool) (c : Char) : Bool := c = '/' || (special && c = '\\')

/-- Whether a character ends the path. -/
def isPathEnd (c : Char) : Bool := c = '?' || c = '#'

/-- Query and fragment, each behind its mark. -/
def addTail (u : Url) (cs : List Char) : Url :=
  let special := isSpecial u.scheme
  let (beforeHash, fromHash) := cs.span (· ≠ '#')
  let query :=
    match beforeHash with
    | '?' :: q =>
      some (encodeChars (if special then EncodeSet.specialQuery else EncodeSet.query) q)
    | _ => none
  let fragment :=
    match fromHash with
    | '#' :: f => some (encodeChars EncodeSet.fragment f)
    | _ => none
  { u with query, fragment }

/-- One or two points, also behind percent signs, that lead to this place or the one above. -/
def points (segment : List Char) : Option Nat :=
  let lower := segment.map Char.toLower
  if lower = ".".toList ∨ lower = "%2e".toList then some 1
  else if lower ∈ ["..".toList, ".%2e".toList, "%2e.".toList, "%2e%2e".toList] then some 2
  else none

/-- A letter and a colon, or a bar in place of the colon: a drive of a machine. -/
def isDriveLetter : List Char → Bool
  | [c, d] => c.isAlpha && (d = ':' || d = '|')
  | _ => false

/-- One segment less; a drive stays. -/
def shorten : List (List Char) → List (List Char)
  | [] => []
  | s :: before => if isDriveLetter s then s :: before else before

/-- A segment as it is written. The drive that begins the path of a file has a colon. -/
def segment (file : Bool) (before : List (List Char)) (s : List Char) : List Char :=
  if file && before.isEmpty && isDriveLetter s then s.take 1 ++ [':']
  else encodeChars EncodeSet.path s

/-- The segments of a path behind the reverse of those before. A path that ends in points ends in an
empty segment. -/
def segments (file : Bool) (before : List (List Char)) : List (List Char) → List (List Char)
  | [] => before.reverse
  | s :: rest =>
    match points s with
    | some 1 => segments file (if rest.isEmpty then [] :: before else before) rest
    | some _ =>
      let above := shorten before
      segments file (if rest.isEmpty then [] :: above else above) rest
    | none => segments file (segment file before s :: before) rest

/-- Segments that do not begin with empty ones, unless there is no other. -/
def withoutEmptyFirst : List (List Char) → List (List Char)
  | [] :: s :: rest => withoutEmptyFirst (s :: rest)
  | ss => ss

/-- A text cut at its slashes. -/
def cutSlashes (special : Bool) (cs : List Char) : List (List Char) :=
  Form.splitOn '/' (cs.map fun c => if isSlash special c then '/' else c)

/-- The path behind a host. A web scheme always has one. -/
def hostPath (special file : Bool) (cs : List Char) : Path :=
  if cs.isEmpty && !special then .segments []
  else
    let cs :=
      match cs with
      | c :: rest => if isSlash special c then rest else c :: rest
      | [] => []
    let parts := segments file [] (cutSlashes special cs)
    .segments (if file then withoutEmptyFirst parts else parts)

/-- Name and password, if one of them is there. -/
def readCredentials (info : List Char) : List Char × List Char :=
  let (name, password) := Form.cut ':' info
  (encodeChars EncodeSet.userinfo name, encodeChars EncodeSet.userinfo password)

/-- A text before and after the last occurrence of a character, if there is one. -/
def cutLast? (separator : Char) (cs : List Char) : Option (List Char × List Char) :=
  match cs.reverse.span (· ≠ separator) with
  | (after, _ :: before) => some (before.reverse, after.reverse)
  | _ => none

/-- The host before the colon of a port; a colon between brackets is part of the host. -/
def spanHost (inside : Bool) : List Char → List Char × List Char
  | [] => ([], [])
  | c :: cs =>
    if c = ':' && !inside then ([], c :: cs)
    else
      let (host, rest) := spanHost (c = '[' || (inside && c ≠ ']')) cs
      (c :: host, rest)

/-- A port, which is dropped if it is the one of the scheme, and what follows its digits. -/
def readPort (scheme : List Char) : List Char → Except ParseError (Option Nat × List Char)
  | ':' :: cs =>
    let (ds, rest) := cs.span Ipv4.isDigit
    let n := ds.foldl (fun n c => 10 * n + (c.toNat - '0'.toNat)) 0
    if 65535 < n then .error .port
    else if rest.isEmpty || rest.head? = some '\\' then
      .ok (if ds.isEmpty || defaultPort? scheme = some n then none else some n, rest)
    else .error .port
  | cs => .ok (none, cs)

/-- Host and port. A web scheme has a host, and so has a port and a name or password. -/
def readHost (scheme : List Char) (named : Bool) (cs : List Char) :
    Except ParseError (Host × Option Nat × List Char) := do
  let special := isSpecial scheme
  let (name, rest) := spanHost false cs
  if name.isEmpty && (special || named || rest.head? = some ':') then .error .emptyHost
  else
    let host ← if special then Host.ofDomain name else Host.ofName name
    let (port, rest) ← readPort scheme rest
    return (host, port, rest)

/-- What stands behind two slashes. -/
def withHost (scheme : List Char) (cs : List Char) : Except ParseError Url := do
  let special := isSpecial scheme
  let (authority, rest) := cs.span fun c => !isSlash special c && !isPathEnd c
  let marked := cutLast? '@' authority
  let (info, place) := marked.getD ([], authority)
  let (username, password) := readCredentials info
  let bare := marked.isSome && info.isEmpty && !rest.isEmpty
  let named := !username.isEmpty || !password.isEmpty || bare
  let (host, port, more) ← readHost scheme named place
  let (path, tail) := (more ++ rest).span fun c => !isPathEnd c
  let path := hostPath special false path
  return addTail { scheme, username, password, host := some host, port, path } tail

/-- The path of a file. -/
def filePath (cs : List Char) : Path := hostPath true true cs

/-- Whether a path begins with a drive. -/
def startsWithDrive : Path → Bool
  | .segments (s :: _) => isDriveLetter s
  | _ => false

/-- The machine of a file. This machine has no name, and a drive is a drive of this machine. -/
def machine (host : Host) (path : Path) : Option Host :=
  if host = .domain "localhost".toList || startsWithDrive path then none else some host

/-- A file on a named machine or on this one. -/
def file (cs : List Char) : Except ParseError Url := do
  let (before, tail) := cs.span fun c => !isPathEnd c
  let isBar := isSlash true
  match before with
  | a :: b :: rest =>
    if isBar a && isBar b then
      let (name, path) := rest.span fun c => !isBar c
      if name.isEmpty then return addTail { scheme := fileScheme, path := filePath path } tail
      else if isDriveLetter name then
        return addTail { scheme := fileScheme, path := filePath rest } tail
      else
        let host := machine (← Host.ofDomain name) (filePath path)
        return addTail { scheme := fileScheme, host, path := filePath path } tail
    else return addTail { scheme := fileScheme, path := filePath before } tail
  | _ => return addTail { scheme := fileScheme, path := filePath before } tail

/-- What stands behind the colon of a scheme. -/
def afterScheme (scheme rest : List Char) : Except ParseError Url :=
  if scheme = fileScheme then file rest
  else if isSpecial scheme then withHost scheme (rest.dropWhile (isSlash true))
  else
    match rest with
    | '/' :: '/' :: more => withHost scheme more
    | _ =>
      let (path, tail) := rest.span fun c => !isPathEnd c
      match path with
      | '/' :: more =>
        let path := .segments (segments false [] (cutSlashes false more))
        .ok (addTail { scheme, path } tail)
      | text => .ok (addTail { scheme, path := .plain (encodeChars EncodeSet.controls text) } tail)

def parse (s : String) : Except ParseError Url :=
  match scheme? (clean s.toList) with
  | none => .error .relative
  | some (scheme, rest) => afterScheme scheme rest

end BulkLoad.Url
