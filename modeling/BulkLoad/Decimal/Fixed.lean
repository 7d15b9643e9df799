import BulkLoad.Decimal.Binary

/-!
A double with a fixed number of places after the point.

The exact value is rounded once, to the nearest number of units in the last place; a value half way
between two goes to the even one.
-/
namespace BulkLoad.Decimal

/-- The quotient rounded to the nearest natural, a tie to the even one. -/
def roundDiv (num den : Nat) : Nat :=
  let low := num / den
  let rest := num % den
  if 2 * rest < den then low
  else if den < 2 * rest then low + 1
  else if low % 2 = 0 then low else low + 1

/-- The digits of a natural, at least one. -/
def digits (n : Nat) : List Char := Nat.toDigits 10 n

/-- A natural number of units of 10^-places, with a point before the last `places` digits. -/
def pointed (places units : Nat) : List Char :=
  if places = 0 then digits units
  else
    let scale := Nat.pow 10 places
    let fraction := digits (units % scale)
    digits (units / scale) ++ '.' :: List.replicate (places - fraction.length) '0' ++ fraction

/-- The sign of a negative number, zero included. -/
def sign (negative : Bool) : List Char := if negative then ['-'] else []

/-- The value of a double with `places` places. -/
def fixed (places : Nat) (x : Float) : String :=
  match Binary.ofFloat x with
  | .nan => "NaN"
  | .infinite negative => String.ofList (sign negative ++ "inf".toList)
  | .finite negative m q =>
    let units := roundDiv (Binary.num m q * Nat.pow 10 places) (Binary.den q)
    String.ofList (sign negative ++ pointed places units)

end BulkLoad.Decimal
