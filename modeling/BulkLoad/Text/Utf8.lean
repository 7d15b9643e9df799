/-!
Bytes and the text they stand for.

A byte string is a list of bytes, so that statements about payloads are statements about lists.
`pieces` cuts it into the characters it spells and the ill-formed parts between them, each part as
long as it could still have become a character. Strict reading accepts the strings without
ill-formed parts; lenient reading puts U+FFFD in the place of each.
-/
namespace BulkLoad

abbrev Bytes := List UInt8

namespace Utf8

/-- The bytes of one character. -/
def encodeChar (c : Char) : Bytes :=
  let n := c.toNat
  if n < 0x80 then [UInt8.ofNat n]
  else if n < 0x800 then [UInt8.ofNat (0xC0 + n / 64), UInt8.ofNat (0x80 + n % 64)]
  else if n < 0x10000 then
    [UInt8.ofNat (0xE0 + n / 4096), UInt8.ofNat (0x80 + n / 64 % 64), UInt8.ofNat (0x80 + n % 64)]
  else
    [UInt8.ofNat (0xF0 + n / 262144), UInt8.ofNat (0x80 + n / 4096 % 64),
      UInt8.ofNat (0x80 + n / 64 % 64), UInt8.ofNat (0x80 + n % 64)]

def encodeChars (cs : List Char) : Bytes := cs.flatMap encodeChar

def encode (s : String) : Bytes := encodeChars s.toList

/-- The next byte, if it lies between the bounds. -/
def between (lo hi : UInt8) : Bytes → Option (UInt8 × Bytes)
  | [] => none
  | b :: rest => if lo ≤ b ∧ b ≤ hi then some (b, rest) else none

theorem between_length {lo hi b : UInt8} {s rest : Bytes}
    (hNext : between lo hi s = some (b, rest)) :
    rest.length < s.length := by
  cases s with
  | nil => simp [between] at hNext
  | cons a tail =>
      simp only [between] at hNext
      split at hNext
      · cases hNext; simp
      · simp at hNext

/-- What a first byte announces: the number of bytes still owed, and the bounds of the next one.
The bounds leave out overlong forms, surrogates and values above U+10FFFF. -/
def owed (b : UInt8) : Option (Nat × UInt8 × UInt8) :=
  if 0xC2 ≤ b ∧ b ≤ 0xDF then some (1, 0x80, 0xBF)
  else if b = 0xE0 then some (2, 0xA0, 0xBF)
  else if b = 0xED then some (2, 0x80, 0x9F)
  else if 0xE1 ≤ b ∧ b ≤ 0xEF then some (2, 0x80, 0xBF)
  else if b = 0xF0 then some (3, 0x90, 0xBF)
  else if 0xF1 ≤ b ∧ b ≤ 0xF3 then some (3, 0x80, 0xBF)
  else if b = 0xF4 then some (3, 0x80, 0x8F)
  else none

/-- The low bits a first byte contributes, by the number of bytes that follow it. -/
def leadBits (b : UInt8) : Nat → Nat
  | 1 => b.toNat % 32
  | 2 => b.toNat % 16
  | _ => b.toNat % 8

/-- Collects the bytes still owed; stops at the first that does not fit, which stays in the rest. -/
def follow (value : Nat) : Nat → UInt8 → UInt8 → Bytes → Option Char × Bytes
  | 0, _, _, s => (some (Char.ofNat value), s)
  | more + 1, lo, hi, s =>
    match between lo hi s with
    | none => (none, s)
    | some (b, rest) => follow (value * 64 + b.toNat % 64) more 0x80 0xBF rest

theorem follow_length (value more : Nat) (lo hi : UInt8) (s : Bytes) :
    (follow value more lo hi s).2.length ≤ s.length := by
  induction more generalizing value lo hi s with
  | zero => simp [follow]
  | succ more ih =>
      simp only [follow]
      split
      · simp
      · rename_i hNext
        exact Nat.le_trans (ih ..) (Nat.le_of_lt (between_length hNext))

/-- The first character or ill-formed part of the bytes, and what follows it. -/
def next (b : UInt8) (s : Bytes) : Option Char × Bytes :=
  if b < 0x80 then (some (Char.ofNat b.toNat), s)
  else
    match owed b with
    | none => (none, s)
    | some (more, lo, hi) => follow (leadBits b more) more lo hi s

theorem next_length (b : UInt8) (s : Bytes) : (next b s).2.length ≤ s.length := by
  unfold next
  split
  · simp
  · split
    · simp
    · exact follow_length ..

/-- The characters that the bytes spell, with `none` for each ill-formed part. -/
def pieces : Bytes → List (Option Char)
  | [] => []
  | b :: s => (next b s).1 :: pieces (next b s).2
termination_by s => s.length
decreasing_by exact Nat.lt_succ_of_le (next_length ..)

/-- The pieces in reverse, in front of those already found; long texts need no stack. -/
def piecesOnto (found : List (Option Char)) : Bytes → List (Option Char)
  | [] => found
  | b :: s => piecesOnto ((next b s).1 :: found) (next b s).2
termination_by s => s.length
decreasing_by exact Nat.lt_succ_of_le (next_length ..)

theorem piecesOnto_eq (found : List (Option Char)) (s : Bytes) :
    piecesOnto found s = (pieces s).reverse ++ found := by
  fun_induction piecesOnto found s with
  | case1 found => simp [pieces]
  | case2 found b s ih => rw [ih, pieces]; simp

/-- Lenient reading, as characters: every ill-formed part becomes one U+FFFD. -/
def decodeLossyChars (s : Bytes) : List Char :=
  (piecesOnto [] s).foldl (fun out piece => piece.getD '\uFFFD' :: out) []

theorem decodeLossyChars_eq (s : Bytes) :
    decodeLossyChars s = (pieces s).map fun piece => piece.getD '\uFFFD' := by
  simp [decodeLossyChars, piecesOnto_eq, List.foldl_reverse]

/-- Lenient reading. -/
def decodeLossy (s : Bytes) : String := String.ofList (decodeLossyChars s)

/-- Adds a piece in front of the characters that follow it, unless one part is ill-formed. -/
def join (out : Option (List Char)) (piece : Option Char) : Option (List Char) :=
  match out, piece with
  | some cs, some c => some (c :: cs)
  | _, _ => none

/-- Strict reading: only bytes without ill-formed parts are text. -/
def decode? (s : Bytes) : Option String :=
  ((piecesOnto [] s).foldl join (some [])).map String.ofList

end Utf8
end BulkLoad
