import BulkLoad.Decimal.Fixed

/-!
The shortest decimal that reads back as a given double.

The reals that round to m · 2^q form an interval around it. For one digit, two digits and so on,
the two neighbours of the value among the numbers with that many digits are tested exactly; the
first that lies in the interval is taken, of two the nearer, and of two equally near the even one.
-/
namespace BulkLoad.Decimal

/-- A decimal: `significand` · 10^`exponent`. -/
structure Scaled where
  significand : Nat
  exponent : Int
  deriving DecidableEq, Repr

/-- The least j with n < 10^j. -/
def digitCount (n : Nat) : Nat := if n = 0 then 0 else (digits n).length

/-- The k with 10^(k-1) ≤ num / den < 10^k, for a positive quotient. -/
def magnitude (num den : Nat) : Int :=
  if den ≤ num then digitCount (num / den) else 1 - digitCount ((den + num - 1) / num - 1)

/-- The interval of reals that round to m · 2^q, in quarters of 2^q: below a power of two the
neighbour is only half as far away. -/
structure Rounding where
  low : Nat
  high : Nat
  closed : Bool
  deriving DecidableEq, Repr

def Rounding.of (m : Nat) (q : Int) : Rounding :=
  { low := if m = Nat.pow 2 52 ∧ -1074 < q then 4 * m - 1 else 4 * m - 2
    high := 4 * m + 2
    closed := m % 2 = 0 }

/-- Whether `c` · 10^e lies in the interval around m · 2^q. -/
def Rounding.holds (r : Rounding) (q : Int) (c : Nat) (e : Int) : Bool :=
  let decimal := c * Nat.pow 10 e.toNat * Nat.pow 2 (2 - q).toNat
  let scale := Nat.pow 2 (q - 2).toNat * Nat.pow 10 (-e).toNat
  if r.closed then r.low * scale ≤ decimal ∧ decimal ≤ r.high * scale
  else r.low * scale < decimal ∧ decimal < r.high * scale

/-- The nearest number on the grid 10^e that reads back as m · 2^q, if one of the two neighbours
does. -/
def onGrid? (m : Nat) (q : Int) (e : Int) : Option Scaled :=
  let num := Binary.num m q * Nat.pow 10 (-e).toNat
  let den := Binary.den q * Nat.pow 10 e.toNat
  let low := num / den
  let rest := num % den
  let range := Rounding.of m q
  let lowHolds := low ≠ 0 ∧ range.holds q low e
  let highHolds := range.holds q (low + 1) e
  if lowHolds ∧ (¬ highHolds ∨ 2 * rest < den ∨ (2 * rest = den ∧ low % 2 = 0)) then some ⟨low, e⟩
  else if highHolds then some ⟨low + 1, e⟩
  else none

/-- The first grid with a hit, the coarsest first; the last grid tried holds the exact value or a
number closer to it than half the gap to its neighbours. -/
def searchGrids (m : Nat) (q : Int) (k : Int) : Nat → Nat → Scaled
  | 0, n =>
    let num := Binary.num m q * Nat.pow 10 (n - k).toNat
    let den := Binary.den q * Nat.pow 10 (k - n).toNat
    ⟨num / den, k - n⟩
  | more + 1, n => (onGrid? m q (k - n)).getD (searchGrids m q k more (n + 1))

/-- The same number without zeros at the right end of its significand. -/
def Scaled.trimZeros : Nat → Scaled → Scaled
  | 0, s => s
  | fuel + 1, s =>
    if s.significand ≠ 0 ∧ s.significand % 10 = 0 then
      trimZeros fuel ⟨s.significand / 10, s.exponent + 1⟩
    else s

/-- The shortest decimal that reads back as m · 2^q. -/
def shortest (m : Nat) (q : Int) : Scaled :=
  if m = 0 then ⟨0, 0⟩
  else
    Scaled.trimZeros 17
      (searchGrids m q (magnitude (Binary.num m q) (Binary.den q)) 17 1)

/-- All digits, with zeros up to the point and behind it; an integer has no point. -/
def Scaled.positional (s : Scaled) : List Char :=
  if 0 ≤ s.exponent then digits s.significand ++ List.replicate s.exponent.toNat '0'
  else pointed (-s.exponent).toNat s.significand

/-- A double as the shortest decimal, never with a power of ten. -/
def plain (x : Float) : String :=
  match Binary.ofFloat x with
  | .nan => "NaN"
  | .infinite negative => String.ofList (sign negative ++ "inf".toList)
  | .finite negative m q => String.ofList (sign negative ++ (shortest m q).positional)

end BulkLoad.Decimal
