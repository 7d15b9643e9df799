import BulkLoad.Json.Value
import BulkLoad.Text.Hex

/-!
Writing JSON, in one line or with one item a line.
-/
namespace BulkLoad.Json

open Decimal

/-- A character inside quotes. -/
def escape (c : Char) : List Char :=
  if c = '"' then ['\\', '"']
  else if c = '\\' then ['\\', '\\']
  else if c = '\x08' then ['\\', 'b']
  else if c = '\x0c' then ['\\', 'f']
  else if c = '\n' then ['\\', 'n']
  else if c = '\r' then ['\\', 'r']
  else if c = '\t' then ['\\', 't']
  else if c.toNat < 0x20 then '\\' :: 'u' :: Hex.fixed Hex.lower 4 c.toNat
  else [c]

def quote (cs : List Char) : List Char := '"' :: cs.flatMap escape ++ ['"']

/-- A string that is no text has no form of its own; it is written empty. -/
def quoteText (s : Option String) : List Char := quote ((s.getD "").toList)

mutual

/-- One line, without spaces. -/
def compact : Json → List Char
  | .null => "null".toList
  | .bool b => if b then "true".toList else "false".toList
  | .number n => n.toChars
  | .text s => quoteText s
  | .array items => '[' :: compactItems items ++ [']']
  | .object members => '\x7b' :: compactMembers members ++ ['\x7d']

def compactItems : List Json → List Char
  | [] => []
  | [v] => compact v
  | v :: vs => compact v ++ ',' :: compactItems vs

def compactMembers : List (Option String × Json) → List Char
  | [] => []
  | [(name, v)] => quoteText name ++ ':' :: compact v
  | (name, v) :: ms => quoteText name ++ ':' :: compact v ++ ',' :: compactMembers ms

end

/-- A new line, indented by two spaces a level. -/
def newLine (level : Nat) : List Char := '\n' :: List.replicate (2 * level) ' '

mutual

/-- One item or member a line, but `[]` and the empty object in place. -/
def pretty (level : Nat) : Json → List Char
  | .array [] => ['[', ']']
  | .array items => '[' :: prettyItems (level + 1) items ++ newLine level ++ [']']
  | .object [] => ['\x7b', '\x7d']
  | .object members => '\x7b' :: prettyMembers (level + 1) members ++ newLine level ++ ['\x7d']
  | .null => "null".toList
  | .bool b => if b then "true".toList else "false".toList
  | .number n => n.toChars
  | .text s => quoteText s

def prettyItems (level : Nat) : List Json → List Char
  | [] => []
  | [v] => newLine level ++ pretty level v
  | v :: vs => newLine level ++ pretty level v ++ ',' :: prettyItems level vs

def prettyMembers (level : Nat) : List (Option String × Json) → List Char
  | [] => []
  | [(name, v)] => newLine level ++ quoteText name ++ ':' :: ' ' :: pretty level v
  | (name, v) :: ms =>
    newLine level ++ quoteText name ++ ':' :: ' ' :: pretty level v
      ++ ',' :: prettyMembers level ms

end

def toLine (v : Json) : String := String.ofList (compact v)

def toPage (v : Json) : String := String.ofList (pretty 0 v)

end BulkLoad.Json
