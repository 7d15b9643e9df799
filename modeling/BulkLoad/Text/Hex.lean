import BulkLoad.Text.Utf8

/-!
Hexadecimal digits: of one number at a fixed width, of a byte string, and back.
-/
namespace BulkLoad.Hex

def lower : List Char := "0123456789abcdef".toList

def upper : List Char := "0123456789ABCDEF".toList

/-- The last `width` digits of a number. -/
def fixed (alphabet : List Char) : Nat → Nat → List Char
  | 0, _ => []
  | width + 1, n => fixed alphabet width (n / 16) ++ [alphabet.getD (n % 16) '0']

theorem fixed_length (alphabet : List Char) (width n : Nat) :
    (fixed alphabet width n).length = width := by
  induction width generalizing n with
  | zero => rfl
  | succ width ih => simp [fixed, ih]

/-- The value of a digit of either case. -/
def value? (c : Char) : Option Nat :=
  if '0' ≤ c ∧ c ≤ '9' then some (c.toNat - '0'.toNat)
  else if 'a' ≤ c ∧ c ≤ 'f' then some (c.toNat - 'a'.toNat + 10)
  else if 'A' ≤ c ∧ c ≤ 'F' then some (c.toNat - 'A'.toNat + 10)
  else none

/-- One more digit at the right end of a number. -/
def push (n : Option Nat) (c : Char) : Option Nat :=
  match n, value? c with
  | some n, some d => some (16 * n + d)
  | _, _ => none

/-- The number written by digits; no digits write zero. -/
def number? (cs : List Char) : Option Nat := cs.foldl push (some 0)

/-- Two digits a byte. -/
def ofBytes (s : Bytes) : String := String.ofList (s.flatMap fun b => fixed lower 2 b.toNat)

/-- The bytes written by pairs of digits, in front of the reverse of those already read. -/
def bytesOnto (read : Bytes) : List Char → Option Bytes
  | [] => some read.reverse
  | [_] => none
  | a :: b :: rest =>
    match number? [a, b] with
    | some n => bytesOnto (UInt8.ofNat n :: read) rest
    | none => none

def bytes? (s : String) : Option Bytes := bytesOnto [] s.toList

end BulkLoad.Hex
