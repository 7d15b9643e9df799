/-!
Labels of a domain name in ASCII.

The characters outside ASCII are taken in ascending order; each is written as the number of places
passed since the one before, in digits of base 36 whose thresholds adapt as the text goes on.
-/
namespace BulkLoad.Url.Punycode

def digitChar (d : Nat) : Char :=
  if d < 26 then Char.ofNat ('a'.toNat + d) else Char.ofNat ('0'.toNat + (d - 26))

def digitValue? (c : Char) : Option Nat :=
  if 'a' ≤ c ∧ c ≤ 'z' then some (c.toNat - 'a'.toNat)
  else if 'A' ≤ c ∧ c ≤ 'Z' then some (c.toNat - 'A'.toNat)
  else if '0' ≤ c ∧ c ≤ '9' then some (c.toNat - '0'.toNat + 26)
  else none

/-- The threshold of the digit at place `k`. -/
def threshold (k bias : Nat) : Nat := if k ≤ bias then 1 else min 26 (k - bias)

theorem threshold_pos (k bias : Nat) : 1 ≤ threshold k bias := by
  unfold threshold; split <;> omega

def shrink (delta k : Nat) : Nat :=
  if 455 < delta then shrink (delta / 35) (k + 36) else k + 36 * delta / (delta + 38)
termination_by delta
decreasing_by exact Nat.div_lt_self (by omega) (by omega)

/-- The bias after a number, of `count` characters so far. -/
def adapt (delta count : Nat) (first : Bool) : Nat :=
  let delta := if first then delta / 700 else delta / 2
  shrink (delta + delta / count) 0

/-- A number as digits, the first at place `k`. -/
def digits (bias k q : Nat) : List Char :=
  let t := threshold k bias
  if q < t then [digitChar q]
  else digitChar (t + (q - t) % (36 - t)) :: digits bias (k + 36) ((q - t) / (36 - t))
termination_by q
decreasing_by
  have hPos := threshold_pos k bias
  have hDiv := Nat.div_le_self (q - threshold k bias) (36 - threshold k bias)
  omega

structure Encoder where
  out : List Char
  delta : Nat := 0
  bias : Nat := 72
  count : Nat

/-- Passes one character while those with number `n` are written; `basic` are in ASCII. -/
def Encoder.pass (basic n : Nat) (s : Encoder) (c : Char) : Encoder :=
  if c.toNat < n then { s with delta := s.delta + 1 }
  else if c.toNat = n then
    { out := s.out ++ digits s.bias 36 s.delta
      bias := adapt s.delta (s.count + 1) (s.count = basic)
      count := s.count + 1 }
  else s

/-- Writes the characters with the numbers listed in ascending order, from number `n` on. -/
def encodeFrom (label : List Char) (basic : Nat) : Nat → List Nat → Encoder → Encoder
  | _, [], s => s
  | n, m :: ms, s =>
    let s := { s with delta := s.delta + (m - n) * (s.count + 1) }
    let s := label.foldl (Encoder.pass basic m) s
    encodeFrom label basic (m + 1) ms { s with delta := s.delta + 1 }

def isBasic (c : Char) : Bool := c.toNat < 0x80

/-- A label without its mark. -/
def encode (label : List Char) : List Char :=
  let basic := label.filter isBasic
  let others := ((label.filter fun c => !isBasic c).map Char.toNat).mergeSort.eraseDups
  (encodeFrom label basic.length 0x80 others
    { out := if basic.isEmpty then [] else basic ++ ['-'], count := basic.length }).out

/-- One number from digits, and what follows; `w` is the weight of the digit at place `k`. -/
def number? (bias : Nat) : Nat → Nat → Nat → List Char → Option (Nat × List Char)
  | _, _, _, [] => none
  | k, w, sum, c :: cs =>
    match digitValue? c with
    | none => none
    | some d =>
      let t := threshold k bias
      if d < t then some (sum + d * w, cs)
      else number? bias (k + 36) (w * (36 - t)) (sum + d * w) cs

/-- Inserts the characters that the digits tell; the fuel is the number of digits. -/
def decodeFrom (basicCount : Nat) :
    Nat → Nat → Nat → Nat → List Char → List Char → Option (List Char)
  | 0, _, _, _, out, cs => if cs.isEmpty then some out else none
  | fuel + 1, n, i, bias, out, cs =>
    if cs.isEmpty then some out
    else
      match number? bias 36 1 0 cs with
      | none => none
      | some (delta, rest) =>
        let place := i + delta
        let count := out.length + 1
        let n := n + place / count
        if n.isValidChar then
          let i' := place % count
          decodeFrom basicCount fuel n (i' + 1) (adapt delta count (out.length = basicCount))
            (out.take i' ++ Char.ofNat n :: out.drop i') rest
        else none

/-- A label from its form without the mark. -/
def decode? (cs : List Char) : Option (List Char) :=
  match cs.reverse.span (· ≠ '-') with
  | (digits, _ :: basic) =>
    decodeFrom basic.length digits.length 0x80 0 72 basic.reverse digits.reverse
  | (digits, []) => decodeFrom 0 digits.length 0x80 0 72 [] digits.reverse

end BulkLoad.Url.Punycode
