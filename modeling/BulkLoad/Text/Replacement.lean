import BulkLoad.Text.Ranges

/-!
Tables of characters that stand for others.

An entry is a character or a range and what stands in its place, `DF:73+73` or `C0-D6:E0`. The
characters of a range stand for a row of as many.
-/
namespace BulkLoad.Text

structure Replacement where
  first : Nat
  last : Nat
  parts : List Nat
  deriving DecidableEq, Repr

namespace Replacement

/-- An entry of other form counts for nothing. -/
def ofWord? (word : String) : Option Replacement :=
  match word.splitOn ":" with
  | [range, parts] => do
    let (first, last) ← Ranges.range? range
    let parts ← (parts.splitOn "+").mapM fun part => Hex.number? part.toList
    return { first, last, parts }
  | _ => none

def ofText (text : String) : List Replacement := (Ranges.words text).filterMap ofWord?

def covers (r : Replacement) (c : Char) : Bool := r.first ≤ c.toNat && c.toNat ≤ r.last

/-- What stands in the place of a character that the entry covers. -/
def row (r : Replacement) (c : Char) : List Char :=
  r.parts.map fun n => Char.ofNat (n + (c.toNat - r.first))

/-- The first entry that covers a character tells what stands in its place. -/
def find? (table : List Replacement) (c : Char) : Option (List Char) :=
  (table.find? fun r => r.covers c).map fun r => r.row c

theorem find?_append (front back : List Replacement) (c : Char) :
    find? (front ++ back) c = (find? front c <|> find? back c) := by
  simp only [find?, List.find?_append]
  cases front.find? fun r => r.covers c <;> rfl

end Replacement
end BulkLoad.Text
