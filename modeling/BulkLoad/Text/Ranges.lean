import BulkLoad.Text.Hex

/-!
Classes of characters, as tables of code points.

A table is written as words on one or more lines: a range by its two ends in base sixteen with a
hyphen between, a single character by one number.
-/
namespace BulkLoad.Text

/-- Both ends belong to a range. -/
abbrev Ranges := List (Nat × Nat)

namespace Ranges

def contains (rs : Ranges) (c : Char) : Bool := rs.any fun r => r.1 ≤ c.toNat && c.toNat ≤ r.2

/-- The words of a table. -/
def words (text : String) : List String :=
  ((text.splitOn "\n").flatMap fun line => line.splitOn " ").filter (· ≠ "")

/-- A word that writes no range counts for nothing. -/
def range? (word : String) : Option (Nat × Nat) :=
  match (word.splitOn "-").map fun part => Hex.number? part.toList with
  | [some n] => some (n, n)
  | [some first, some last] => some (first, last)
  | _ => none

def ofText (text : String) : Ranges := (words text).filterMap range?

end Ranges
end BulkLoad.Text
