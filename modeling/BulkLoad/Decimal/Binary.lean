/-!
A double as an exact number.

A finite double is ± m · 2^q for naturals m < 2^53 and -1074 ≤ q ≤ 971. Every rule about the text
of a double is stated on m and q, so nothing here rounds.
-/
namespace BulkLoad.Decimal

/-- The value of a double. -/
inductive Binary where
  | nan
  | infinite (negative : Bool)
  | finite (negative : Bool) (m : Nat) (q : Int)
  deriving DecidableEq, Repr

namespace Binary

/-- Reads the three fields of the sixty-four bits: sign, eleven bits of exponent, the rest. -/
def ofBits (bits : UInt64) : Binary :=
  let negative := bits.toNat / Nat.pow 2 63 = 1
  let exponent : Nat := bits.toNat / Nat.pow 2 52 % Nat.pow 2 11
  let fraction := bits.toNat % Nat.pow 2 52
  if exponent = 2047 then
    if fraction = 0 then .infinite negative else .nan
  else if exponent = 0 then .finite negative fraction (-1074)
  else .finite negative (Nat.pow 2 52 + fraction) ((exponent : Int) - 1075)

def ofFloat (x : Float) : Binary := ofBits x.toBits

/-- The numerator of m · 2^q. -/
def num (m : Nat) (q : Int) : Nat := m * Nat.pow 2 q.toNat

/-- The denominator of m · 2^q. -/
def den (q : Int) : Nat := Nat.pow 2 (-q).toNat

theorem den_pos (q : Int) : 0 < den q := Nat.two_pow_pos _

end Binary
end BulkLoad.Decimal
