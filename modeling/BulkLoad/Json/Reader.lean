import BulkLoad.Json.Value
import BulkLoad.Text.Hex

/-!
Reading JSON: characters to tokens, tokens to a value.

The tokens are read with a stack of the arrays and objects that are open, so that nesting may be as
deep as the text is long.
-/
namespace BulkLoad.Json

open Decimal

inductive Token where
  | openObject
  | closeObject
  | openArray
  | closeArray
  | comma
  | colon
  | null
  | bool (value : Bool)
  | number (value : Numeral)
  | text (value : Option String)
  deriving DecidableEq

/-- The character that a letter after a backslash stands for. -/
def escaped? : Char → Option Char
  | '"' => some '"'
  | '\\' => some '\\'
  | '/' => some '/'
  | 'b' => some '\x08'
  | 'f' => some '\x0c'
  | 'n' => some '\n'
  | 'r' => some '\r'
  | 't' => some '\t'
  | _ => none

def isHighSurrogate (n : Nat) : Bool := 0xD800 ≤ n && n < 0xDC00

def isLowSurrogate (n : Nat) : Bool := 0xDC00 ≤ n && n < 0xE000

/-- Adds a character to a text that is still sound. -/
def pushChar (c : Char) (out : Option (List Char)) : Option (List Char) := out.map (c :: ·)

/-- The rest of a string after its opening quote; `out` is what was read, in reverse. -/
def string? (out : Option (List Char)) : List Char → Option (Option String × List Char)
  | '"' :: rest => some (out.map fun cs => String.ofList cs.reverse, rest)
  | '\\' :: 'u' :: a :: b :: c :: d :: '\\' :: 'u' :: e :: f :: g :: h :: rest =>
    match Hex.number? [a, b, c, d], Hex.number? [e, f, g, h] with
    | some high, some low =>
      if isHighSurrogate high then
        if isLowSurrogate low then
          string?
            (pushChar (Char.ofNat (0x10000 + (high - 0xD800) * 0x400 + (low - 0xDC00))) out) rest
        else string? none rest
      else if isLowSurrogate high then string? none ('\\' :: 'u' :: e :: f :: g :: h :: rest)
      else string? (pushChar (Char.ofNat high) out) ('\\' :: 'u' :: e :: f :: g :: h :: rest)
    | _, _ => none
  | '\\' :: 'u' :: a :: b :: c :: d :: rest =>
    match Hex.number? [a, b, c, d] with
    | some n =>
      if isHighSurrogate n || isLowSurrogate n then string? none rest
      else string? (pushChar (Char.ofNat n) out) rest
    | none => none
  | '\\' :: c :: rest =>
    match escaped? c with
    | some c => string? (pushChar c out) rest
    | none => none
  | c :: rest => if c.toNat < 0x20 then none else string? (pushChar c out) rest
  | [] => none
termination_by cs => cs.length

/-- The word at the head of the text, if it is there. -/
def word? (word : List Char) (cs : List Char) : Option (List Char) :=
  if word.isPrefixOf cs then some (cs.drop word.length) else none

def isSpace (c : Char) : Bool := c = ' ' || c = '\t' || c = '\n' || c = '\r'

/-- The token at the head of a text that begins with no space. -/
def token? : List Char → Option (Token × List Char)
  | '\x7b' :: cs => some (.openObject, cs)
  | '\x7d' :: cs => some (.closeObject, cs)
  | '[' :: cs => some (.openArray, cs)
  | ']' :: cs => some (.closeArray, cs)
  | ',' :: cs => some (.comma, cs)
  | ':' :: cs => some (.colon, cs)
  | '"' :: cs => (string? (some []) cs).map fun (s, rest) => (.text s, rest)
  | '-' :: cs => (Numeral.read? true cs).map fun (n, rest) => (.number n, rest)
  | 'n' :: cs => (word? "ull".toList cs).map fun rest => (.null, rest)
  | 't' :: cs => (word? "rue".toList cs).map fun rest => (.bool true, rest)
  | 'f' :: cs => (word? "alse".toList cs).map fun rest => (.bool false, rest)
  | cs => (Numeral.read? false cs).map fun (n, rest) => (.number n, rest)

/-- The tokens of a text, behind the reverse of those already read. Each token takes at least one
character; the fuel is the length of the text. -/
def tokens? (read : List Token) : Nat → List Char → Option (List Token)
  | _, [] => some read.reverse
  | 0, _ => none
  | fuel + 1, c :: cs =>
    if isSpace c then tokens? read fuel cs
    else
      match token? (c :: cs) with
      | some (token, rest) => tokens? (token :: read) fuel rest
      | none => none

/-- What is open around a value: an array with the items before it, or an object with the members
before it and the name of the value, both in reverse. -/
inductive Frame where
  | items (before : List Json)
  | members (before : List (Option String × Json)) (name : Option String)

mutual

/-- A value is due. -/
def value? (frames : List Frame) : List Token → Option Json
  | .null :: ts => close? frames .null ts
  | .bool b :: ts => close? frames (.bool b) ts
  | .number n :: ts => close? frames (.number n) ts
  | .text s :: ts => close? frames (.text s) ts
  | .openArray :: .closeArray :: ts => close? frames (.array []) ts
  | .openArray :: ts => value? (.items [] :: frames) ts
  | .openObject :: .closeObject :: ts => close? frames (.object []) ts
  | .openObject :: .text name :: .colon :: ts => value? (.members [] name :: frames) ts
  | _ => none
termination_by ts => 2 * ts.length + 1

/-- A value is read, and what is open around it goes on or ends. -/
def close? (frames : List Frame) (v : Json) (ts : List Token) : Option Json :=
  match frames, ts with
  | [], [] => some v
  | .items before :: frames, .comma :: ts => value? (.items (v :: before) :: frames) ts
  | .items before :: frames, .closeArray :: ts => close? frames (.array (v :: before).reverse) ts
  | .members before name :: frames, .comma :: .text next :: .colon :: ts =>
    value? (.members ((name, v) :: before) next :: frames) ts
  | .members before name :: frames, .closeObject :: ts =>
    close? frames (.object ((name, v) :: before).reverse) ts
  | _, _ => none
termination_by 2 * ts.length

end

/-- The value that a text holds, alone but for spaces. -/
def ofChars? (cs : List Char) : Option Json := (tokens? [] cs.length cs).bind (value? [])

def parse? (s : String) : Option Json := ofChars? s.toList

end BulkLoad.Json
