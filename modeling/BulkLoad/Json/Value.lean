import BulkLoad.Decimal.Numeral

/-!
Values of the JSON data format.

A number keeps its digits, since what they mean depends on the reader; a string whose escapes spell
half of a surrogate pair is no text and is kept as `none`. Members keep their order and may repeat.
-/
namespace BulkLoad

open Decimal

inductive Json where
  | null
  | bool (value : Bool)
  | number (value : Numeral)
  | text (value : Option String)
  | array (items : List Json)
  | object (members : List (Option String × Json))

namespace Json

instance : Inhabited Json := ⟨.null⟩

def str (s : String) : Json := .text (some s)

def nat (n : Nat) : Json := .number (.ofNat n)

def int (n : Int) : Json := .number (.ofInt n)

/-- An object whose names are texts. -/
def record (members : List (String × Json)) : Json := .object (members.map fun m => (some m.1, m.2))

def option {α : Type} (write : α → Json) : Option α → Json
  | none => .null
  | some a => write a

/-- A double, or null if it is no number. -/
def float (x : Float) : Json := option Json.number (Numeral.ofFloat? x)

/-- The first member of that name. -/
def get? (name : String) : Json → Option Json
  | .object members => (members.find? fun m => m.1 == some name).map Prod.snd
  | _ => none

end Json
end BulkLoad
