import BulkLoad.Url.Host

/-!
A URL by its parts, and its text.
-/
namespace BulkLoad

/-- The path of a URL: segments behind slashes, or one text as it is, where there is no host. -/
inductive Url.Path where
  | segments (parts : List (List Char))
  | plain (text : List Char)
  deriving DecidableEq, Repr

structure Url where
  scheme : List Char
  username : List Char := []
  password : List Char := []
  host : Option Url.Host := none
  port : Option Nat := none
  path : Url.Path := .segments []
  query : Option (List Char) := none
  fragment : Option (List Char) := none
  deriving DecidableEq, Repr

namespace Url

/-- The port that a scheme has when none is written. -/
def defaultPort? (scheme : List Char) : Option Nat :=
  if scheme = "http".toList ∨ scheme = "ws".toList then some 80
  else if scheme = "https".toList ∨ scheme = "wss".toList then some 443
  else if scheme = "ftp".toList then some 21
  else none

def fileScheme : List Char := "file".toList

/-- The schemes of the web, with a host and with backslashes for slashes. -/
def isSpecial (scheme : List Char) : Bool :=
  (defaultPort? scheme).isSome || scheme = fileScheme

/-- Name and password in front of the host. -/
def credentials (u : Url) : List Char :=
  let password := if u.password.isEmpty then [] else ':' :: u.password
  if u.username.isEmpty && u.password.isEmpty then [] else u.username ++ password ++ ['@']

def portChars (u : Url) : List Char :=
  match u.port with
  | none => []
  | some p => ':' :: Nat.toDigits 10 p

def authority (u : Url) : List Char :=
  match u.host with
  | none => if u.scheme = fileScheme then ['/', '/'] else []
  | some h => '/' :: '/' :: u.credentials ++ h.toChars ++ u.portChars

/-- A path without host that begins with two slashes must not look like a host. -/
def guard (u : Url) : List Char :=
  match u.host, u.path with
  | none, .segments ([] :: _ :: _) => if u.scheme = fileScheme then [] else ['/', '.']
  | _, _ => []

def pathChars (u : Url) : List Char :=
  match u.path with
  | .segments parts => parts.flatMap ('/' :: ·)
  | .plain text => text

def queryChars (u : Url) : List Char :=
  match u.query with
  | none => []
  | some q => '?' :: q

def fragmentChars (u : Url) : List Char :=
  match u.fragment with
  | none => []
  | some f => '#' :: f

def toChars (u : Url) : List Char :=
  u.scheme ++ ':' :: u.authority ++ u.guard ++ u.pathChars ++ u.queryChars ++ u.fragmentChars

def text (u : Url) : String := String.ofList u.toChars

/-- The same URL with further pairs at the end of its query. -/
def addPairs (u : Url) (pairs : List (String × String)) : Url :=
  { u with query := some (Form.append (u.query.getD []) pairs) }

/-- Whether what stands behind percent signs spells a text. -/
def spellsText (cs : List Char) : Bool := (Utf8.decode? (decodeChars cs)).isSome

/-- Name and password can be taken out of a URL if they are text. A name that is none keeps both in
their place, and so does a password that is none where there is no name. -/
def withoutCredentials (u : Url) : Url :=
  let readable := if u.username.isEmpty then spellsText u.password else spellsText u.username
  if readable then { u with username := [], password := [] } else u

def hasHost (u : Url) : Bool := u.host.any (· ≠ .domain [])

end Url
end BulkLoad
