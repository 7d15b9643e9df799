import BulkLoad.Decimal.Shortest
import BulkLoad.Decimal.Read

/-!
Numbers in decimal notation at the head of a text, and the numeral of a double.
-/
namespace BulkLoad.Decimal.Numeral

/-- The numeral of a natural. -/
def ofNat (n : Nat) : Numeral := ⟨false, digits n, [], none⟩

def ofInt (n : Int) : Numeral := ⟨decide (n < 0), digits n.natAbs, [], none⟩

def fractionChars (fraction : List Char) : List Char :=
  if fraction.isEmpty then [] else '.' :: fraction

/-- A power of ten always has a sign. -/
def powerChars : Option Int → List Char
  | none => []
  | some p => 'e' :: (if p < 0 then '-' else '+') :: digits p.natAbs

/-- The characters behind the sign. -/
def unsigned (n : Numeral) : List Char := n.whole ++ fractionChars n.fraction ++ powerChars n.power

def toChars (n : Numeral) : List Char := sign n.negative ++ n.unsigned

/-- A finite double with a point: positional from 10^-5 up to 10^16, else with a power of ten. -/
def ofShortest (negative : Bool) (s : Scaled) : Numeral :=
  let ds := digits s.significand
  let top : Int := s.exponent + ds.length
  if 0 ≤ s.exponent ∧ top ≤ 16 then
    ⟨negative, ds ++ List.replicate s.exponent.toNat '0', ['0'], none⟩
  else if 0 < top ∧ top ≤ 16 then ⟨negative, ds.take top.toNat, ds.drop top.toNat, none⟩
  else if -5 < top ∧ top ≤ 0 then ⟨negative, ['0'], List.replicate (-top).toNat '0' ++ ds, none⟩
  else ⟨negative, ds.take 1, ds.drop 1, some (top - 1)⟩

/-- A double that is a number has a numeral. -/
def ofFloat? (x : Float) : Option Numeral :=
  match Binary.ofFloat x with
  | .finite negative m q => some (ofShortest negative (shortest m q))
  | _ => none

/-- Digits at the head, and the rest. -/
def spanDigits (cs : List Char) : List Char × List Char := cs.span isDigit

/-- An optional sign at the head of a power. -/
def powerSign : List Char → Bool × List Char
  | '-' :: cs => (true, cs)
  | '+' :: cs => (false, cs)
  | cs => (false, cs)

/-- A fraction, if a point stands at the head: at least one digit must follow the point. -/
def fraction? : List Char → Option (List Char × List Char)
  | '.' :: cs =>
    match spanDigits cs with
    | ([], _) => none
    | found => some found
  | cs => some ([], cs)

/-- A power of ten, if the letter stands at the head: at least one digit must follow. -/
def power? : List Char → Option (Option Int × List Char)
  | [] => some (none, [])
  | c :: cs =>
    if c = 'e' ∨ c = 'E' then
      let (negative, cs) := powerSign cs
      match spanDigits cs with
      | ([], _) => none
      | (ds, rest) =>
        let n : Int := natOfDigits ds
        some (some (if negative then -n else n), rest)
    else some (none, c :: cs)

/-- The digits in front of a point: a zero stands at their head only when alone. -/
def whole? : List Char → Option (List Char × List Char)
  | '0' :: rest => some (['0'], rest)
  | cs =>
    match spanDigits cs with
    | ([], _) => none
    | found => some found

/-- A number at the head: no plus sign, no leading zeros, and digits on both sides of a point. -/
def read? (negative : Bool) (cs : List Char) : Option (Numeral × List Char) := do
  let (whole, rest) ← whole? cs
  let (fraction, rest) ← fraction? rest
  let (power, rest) ← power? rest
  return (⟨negative, whole, fraction, power⟩, rest)

end BulkLoad.Decimal.Numeral
