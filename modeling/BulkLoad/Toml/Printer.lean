import BulkLoad.Decimal.Shortest
import BulkLoad.Text.Hex
import BulkLoad.Toml.Value

/-!
Writing TOML.

A text is written in the plainest form that holds it: in double quotes if nothing in it needs a
backslash, else in single quotes, else in three quotes of either kind, else with escapes.
-/
namespace BulkLoad.Toml

open Decimal

/-- A character that no form without escapes may hold. -/
def needsEscape (c : Char) : Bool := (c.toNat < 0x20 && c ≠ '\t' && c ≠ '\n') || c = '\x7f'

/-- The length of the longest run of a character; `run` is the length of the run before the rest. -/
def longestRun (c : Char) : Nat → List Char → Nat
  | run, [] => run
  | run, d :: ds => if d = c then longestRun c (run + 1) ds else max run (longestRun c 0 ds)

/-- A character after a backslash, where it needs one. -/
def escape? (multiLine : Bool) (c : Char) : Option (List Char) :=
  if c = '\\' then some ['\\', '\\']
  else if c = '\x08' then some ['\\', 'b']
  else if c = '\t' then some ['\\', 't']
  else if c = '\n' then (if multiLine then none else some ['\\', 'n'])
  else if c = '\x0c' then some ['\\', 'f']
  else if c = '\r' then some ['\\', 'r']
  else if needsEscape c then some ('\\' :: 'u' :: Hex.fixed Hex.upper 4 c.toNat)
  else none

/-- How many double quotes in a row stay as they are. -/
def freeQuotes (multiLine : Bool) : Nat := if multiLine then 2 else 0

/-- The inside of double quotes; `run` counts the quotes just written as they are. -/
def escapeAll (multiLine : Bool) : Nat → List Char → List Char
  | _, [] => []
  | run, c :: cs =>
    if c = '"' then
      if run < freeQuotes multiLine then '"' :: escapeAll multiLine (run + 1) cs
      else '\\' :: '"' :: escapeAll multiLine 0 cs
    else
      match escape? multiLine c with
      | some written => written ++ escapeAll multiLine 0 cs
      | none => c :: escapeAll multiLine 0 cs

/-- Three quotes on both sides; a text with line breaks begins on a line of its own. -/
def page (quote : Char) (multiLine : Bool) (inside : List Char) : List Char :=
  let marks := List.replicate 3 quote
  marks ++ (if multiLine then ['\n'] else []) ++ inside ++ marks

/-- A text in quotes. -/
def quote (cs : List Char) : List Char :=
  let multiLine := cs.any (· = '\n')
  let controls := cs.any needsEscape
  let doubles := longestRun '"' 0 cs
  let singles := longestRun '\'' 0 cs
  let backslash := cs.any (· = '\\')
  if !controls && !backslash && !multiLine && doubles = 0 then '"' :: cs ++ ['"']
  else if !controls && !multiLine && singles = 0 then '\'' :: cs ++ ['\'']
  else if !controls && !backslash && doubles ≤ 2 then page '"' multiLine cs
  else if !controls && singles ≤ 2 then page '\'' multiLine cs
  else if multiLine then page '"' true (escapeAll true 0 cs)
  else '"' :: escapeAll false 0 cs ++ ['"']

/-- A double always shows that it is one: by a point, or by having no digits. -/
def floatChars (x : Float) : List Char :=
  match Binary.ofFloat x with
  | .nan => "nan".toList
  | .infinite negative => sign negative ++ "inf".toList
  | .finite .. =>
    let cs := (plain x).toList
    if cs.contains '.' then cs else cs ++ ['.', '0']

mutual

/-- A value on the right of an equals sign. -/
def inline : Toml → List Char
  | .text s => quote s.toList
  | .integer n => (toString n).toList
  | .float x => floatChars x
  | .bool b => if b then "true".toList else "false".toList
  | .moment => []
  | .huge => []
  | .array [] => ['[', ']']
  | .array [v] => '[' :: inline v ++ [']']
  | .array items => '[' :: '\n' :: inlineItems items ++ [']']
  | .table entries => '\x7b' :: inlineEntries entries ++ ['\x7d']

/-- The items of an array, each on a line. -/
def inlineItems : List Toml → List Char
  | [] => []
  | v :: vs => "    ".toList ++ inline v ++ ',' :: '\n' :: inlineItems vs

def inlineEntries : List (String × Toml) → List Char
  | [] => [' ']
  | (key, v) :: rest => ' ' :: key.toList ++ " = ".toList ++ inline v ++ inlineEntries rest

end

/-- A key and its value on a line. -/
def line (e : String × Toml) : List Char := e.1.toList ++ " = ".toList ++ inline e.2 ++ ['\n']

/-- A table under a header; a blank line parts it from what stands before. -/
def headed (name : String) (entries : List (String × Toml)) : List Char :=
  '\n' :: '[' :: name.toList ++ ']' :: '\n' :: entries.flatMap line

/-- Entries in order: a table under its header, all else on its own line. The tables must stand
last, since a header takes every line below it. -/
def pageChars (entries : List (String × Toml)) : List Char :=
  entries.flatMap fun e =>
    match e.2 with
    | .table inner => headed e.1 inner
    | _ => line e

def toPage (entries : List (String × Toml)) : String := String.ofList (pageChars entries)

end BulkLoad.Toml
