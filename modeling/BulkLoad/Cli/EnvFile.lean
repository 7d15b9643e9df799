import BulkLoad.Cli.Environment
import BulkLoad.Text.Alphanumeric
import BulkLoad.Text.Blank
import BulkLoad.Text.Utf8

/-!
A file of variables for the environment, one a line: `NAME=value`, with an optional `export` in
front.

In a value single quotes keep all as it is. Elsewhere a backslash escapes, and `$NAME` or the name
in braces stands for a variable. An open quote joins a line to the next. A line that cannot be read
ends the file; the variables before it count. A variable that is already there keeps its value.
-/
namespace BulkLoad.EnvFile

/-- Where a line stands between its quotes. -/
inductive Place where
  | plain
  | space
  | escape
  | weak
  | weakEscape
  | strong
  | strongEscape
  deriving DecidableEq, Repr

namespace Place

/-- After a character outside quotes. -/
def outside (c : Char) : Place :=
  if c = '\\' then .escape else if c = '"' then .weak else if c = '\'' then .strong else .plain

/-- The place after one more character. -/
def next (c : Char) : Place → Place
  | .plain => if Text.isBlank c && c != '\n' && c != '\r' then .space else outside c
  | .space => outside c
  | .escape => .plain
  | .weak => if c = '\\' then .weakEscape else if c = '"' then .plain else .weak
  | .weakEscape => .weak
  | .strong => if c = '\\' then .strongEscape else if c = '\'' then .plain else .strong
  | .strongEscape => .strong

end Place

/-- What of a line counts, and where the line ends; nowhere if a comment cuts it off. A comment
begins behind one blank. -/
def scan (place : Place) : List Char → List Char × Option Place
  | [] => ([], some place)
  | c :: cs =>
    if place = .space && c == '#' then ([], none)
    else
      let (kept, final) := scan (place.next c) cs
      (c :: kept, final)

/-- A line without its ending. -/
def withoutEnding (line : List Char) : List Char :=
  match line.reverse with
  | '\n' :: '\r' :: cs => cs.reverse
  | '\n' :: cs => cs.reverse
  | _ => line

def isCommentLine (line : List Char) : Bool := (line.dropWhile Text.isBlank).head? == some '#'

/-- The lines that can be read, joined where a quote is open. -/
def joined (place : Place) (begun : List Char) : List Bytes → List (List Char)
  | [] => []
  | bytes :: rest =>
    match Utf8.decode? bytes with
    | none => []
    | some text =>
      let line := begun ++ text.toList
      if isCommentLine line then joined .plain [] rest
      else
        match scan place text.toList with
        | (kept, none) => (begun ++ kept) :: joined .plain [] rest
        | (_, some .plain) => withoutEnding line :: joined .plain [] rest
        | (_, some place) => joined place line rest

def newline : UInt8 := 0x0A

/-- The lines of a text, with their endings. -/
def splitLines (content : Bytes) : List Bytes :=
  content.foldr
    (fun b lines =>
      if b = newline then [b] :: lines
      else
        match lines with
        | [] => [[b]]
        | line :: lines => (b :: line) :: lines)
    []

/-- The mark that may stand at the head of a text. -/
def withoutMark : Bytes → Bytes
  | 0xEF :: 0xBB :: 0xBF :: content => content
  | content => content

/-- How a character of a value is read. -/
inductive Reading where
  | plain
  | strong
  | escaped
  | name (reversed : List Char)
  | braced (reversed : List Char)
  | ended
  deriving DecidableEq, Repr

/-- A value while it is read; what is read of it stands in reverse. -/
structure Value where
  reading : Reading := .plain
  weak : Bool := false
  reversed : List Char := []

namespace Value

def push (v : Value) (c : Char) : Value := { v with reversed := c :: v.reversed }

def goto (v : Value) (reading : Reading) : Value := { v with reading }

/-- Writes a variable; one that is missing is empty. -/
def substitute (env : Environment) (v : Value) (name : List Char) : Value :=
  let value := (env.get? (String.ofList name.reverse)).getD ""
  { v with reading := .plain, reversed := value.toList.reverse ++ v.reversed }

/-- What a character stands for behind a backslash. -/
def unescape? (c : Char) : Option Char :=
  if c = 'n' then some '\n' else if ['\\', '\'', '"', '$', ' '].contains c then some c else none

def stepPlain (v : Value) (c : Char) : Value :=
  if c = '$' then v.goto (.name [])
  else if c = '\\' then v.goto .escaped
  else if c = '"' then { v with weak := !v.weak }
  else if v.weak then v.push c
  else if c = '\'' then v.goto .strong
  else if c = ' ' || c = '\t' then v.goto .ended
  else v.push c

/-- The character behind a name is no part of it, and stands for itself. -/
def stepName (env : Environment) (v : Value) (name : List Char) (c : Char) : Value :=
  if Text.isAlphanumeric c then v.goto (.name (c :: name))
  else if c = '\x7b' && name.isEmpty then v.goto (.braced [])
  else
    let v := v.substitute env name
    if c = '$' then v.goto (.name []) else v.push c

/-- Reads one more character; `none` if it cannot stand there. Behind a value only blanks and a
comment may follow, and all of a comment is skipped. -/
def step (env : Environment) (v : Value) (c : Char) : Option Value :=
  match v.reading with
  | .plain => some (v.stepPlain c)
  | .strong => some (if c = '\'' then v.goto .plain else v.push c)
  | .escaped => (unescape? c).map fun u => (v.goto .plain).push u
  | .name name => some (v.stepName env name c)
  | .braced name =>
    some (if c = '\x7d' then v.substitute env name else v.goto (.braced (c :: name)))
  | .ended => if c = ' ' || c = '\t' then some v else none

/-- What was read, unless a quote or a brace is open. -/
def finish (env : Environment) (v : Value) : Option String :=
  let close (v : Value) := if v.weak then none else some (String.ofList v.reversed.reverse)
  match v.reading with
  | .strong => none
  | .braced _ => none
  | .name name => close (v.substitute env name)
  | _ => close v

def read (env : Environment) (v : Value) : List Char → Option String
  | [] => v.finish env
  | c :: cs =>
    if v.reading = .ended && c == '#' then v.finish env
    else (v.step env c).bind fun v => read env v cs

end Value

def isNameStart (c : Char) : Bool := c.isAlpha || c = '_'

def isNamePart (c : Char) : Bool := c.isAlphanum || c = '_' || c = '.'

/-- A name, and what follows it and the blanks behind it. -/
def name? (cs : List Char) : Option (List Char × List Char) :=
  match cs with
  | [] => none
  | c :: _ =>
    if isNameStart c then
      let (name, rest) := cs.span isNamePart
      some (name, rest.dropWhile Text.isBlank)
    else none

/-- What follows an equals sign and the blanks behind it. -/
def afterEquals? : List Char → Option (List Char)
  | '=' :: cs => some (cs.dropWhile Text.isBlank)
  | _ => none

/-- The name that a line sets, and the text of its value. -/
def assignment? (cs : List Char) : Option (List Char × List Char) := do
  let (name, rest) ← name? cs
  match afterEquals? rest with
  | some text => return (name, text)
  | none =>
    if name = "export".toList then
      let (name, rest) ← name? rest
      return (name, ← afterEquals? rest)
    else none

/-- Whether nothing or a comment is left. -/
def isOver (cs : List Char) : Bool := cs.isEmpty || cs.head? == some '#'

/-- The environment with the variable of a line; `none` if the line cannot be read. -/
def addLine (env : Environment) (line : List Char) : Option Environment := do
  let cs := Text.trim line
  if isOver cs then return env
  let (name, text) ← assignment? cs
  let value ← if isOver text then some "" else Value.read env {} text
  return env.setNew (String.ofList name) value

/-- The environment with the variables of all lines up to the first that cannot be read. -/
def addLines (env : Environment) : List (List Char) → Environment
  | [] => env
  | line :: lines =>
    match addLine env line with
    | none => env
    | some env => addLines env lines

/-- The environment with the variables of a file. -/
def load (env : Environment) (content : Bytes) : Environment :=
  addLines env (joined .plain [] (splitLines (withoutMark content)))

/-- Words of a file that may be names of variables. -/
def words (content : Bytes) : List String :=
  let cs := (Utf8.decodeLossy content).toList
  ((cs.splitBy fun a b => isNamePart a == isNamePart b).filter fun w => w.any isNamePart).map
    String.ofList

end BulkLoad.EnvFile
