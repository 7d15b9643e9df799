import BulkLoad.Decimal.Read

/-!
Naturals up to a bound, as a person writes them.
-/
namespace BulkLoad.Decimal

def natOfDigits? (cs : List Char) : Option Nat :=
  if !cs.isEmpty && cs.all isDigit then some (natOfDigits cs) else none

/-- A natural up to a bound. It may have a plus sign, and if `minus` zero may have a minus sign. -/
def natural? (bound : Nat) (minus : Bool) (text : String) : Option Nat :=
  let value :=
    match text.toList with
    | '+' :: cs => natOfDigits? cs
    | '-' :: cs => if minus then (natOfDigits? cs).filter (· = 0) else none
    | cs => natOfDigits? cs
  value.filter (· ≤ bound)

end BulkLoad.Decimal
