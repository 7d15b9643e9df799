/-!
Decimal digits read as numbers.
-/
namespace BulkLoad.Decimal

def isDigit (c : Char) : Bool := '0' ≤ c && c ≤ '9'

def digitValue (c : Char) : Nat := c.toNat - '0'.toNat

/-- The number that digits write; no digits write zero. -/
def natOfDigits (cs : List Char) : Nat := cs.foldl (fun n c => 10 * n + digitValue c) 0

/-- The double nearest to `m` · 10^e, a tie to the even one. Powers too large or too small for any
double are settled before they are computed. -/
def nearest (m : Nat) (e : Int) : Float :=
  if m = 0 then 0.0
  else
    let top := e + (Nat.toDigits 10 m).length
    if 310 < top then 1.0 / 0.0
    else if top < -330 then 0.0
    else if 0 ≤ e then Float.ofScientific m false e.toNat
    else Float.ofScientific m true e.natAbs

/-- A number in decimal notation: its sign, its integer and fraction digits, its power of ten. -/
structure Numeral where
  negative : Bool
  whole : List Char
  fraction : List Char
  power : Option Int
  deriving DecidableEq, Repr

namespace Numeral

/-- Written without a point and without a power of ten. -/
def isInteger (n : Numeral) : Bool := n.fraction.isEmpty && n.power.isNone

/-- The double nearest to the number. -/
def toFloat (n : Numeral) : Float :=
  let size := nearest (natOfDigits (n.whole ++ n.fraction)) (n.power.getD 0 - n.fraction.length)
  if n.negative then -size else size

end Numeral
end BulkLoad.Decimal
