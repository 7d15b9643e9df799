import BulkLoad.Json.Value

/-!
The double that a JSON number stands for.

The digits are gathered into a whole number of sixty-four bits, which is then scaled by one power of
ten. Both steps round, so the result may miss the nearest double by a unit in the last place.
-/
namespace BulkLoad.Json

open Decimal

/-- The greatest significand. -/
def maxSignificand : Nat := Nat.pow 2 64 - 1

/-- Adds digits to a significand until one no longer fits; also gives the number of digits left. -/
def gather (significand : Nat) : List Char → Nat × Nat
  | [] => (significand, 0)
  | c :: cs =>
    let next := 10 * significand + digitValue c
    if next ≤ maxSignificand then gather next cs else (significand, (c :: cs).length)

/-- The powers of ten that a double holds reach up to this one. -/
def maxPower : Nat := 308

def powerOfTen (n : Nat) : Float := Float.ofScientific 1 false n

/-- Divides by a power of ten, in steps; a number that has become zero stays zero. -/
def scaleDown (x : Float) (power : Nat) : Float :=
  if power ≤ maxPower then x / powerOfTen power
  else if x == 0.0 ∨ 4 * maxPower < power then 0.0
  else scaleDown (x / powerOfTen maxPower) (power - maxPower)
termination_by power
decreasing_by simp only [maxPower] at *; omega

/-- A number that no double reaches is refused. -/
def scale? (x : Float) (power : Int) : Option Float :=
  if power < 0 then some (scaleDown x power.natAbs)
  else if maxPower < power.natAbs then (if x == 0.0 then some x else none)
  else
    let scaled := x * powerOfTen power.natAbs
    if scaled.isInf then none else some scaled

/-- The double of a number. -/
def double? (n : Numeral) : Option Float :=
  let (significand, unread) := gather 0 n.whole
  let signed (x : Float) : Float := if n.negative then -x else x
  if n.isInteger && unread = 0 then some (signed (Float.ofNat significand))
  else
    let (significand, cut) := gather significand n.fraction
    let power : Int := n.power.getD 0 + unread - (n.fraction.length - cut : Nat)
    (scale? (Float.ofNat significand) power).map signed

end BulkLoad.Json
