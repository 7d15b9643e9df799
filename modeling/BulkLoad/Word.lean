/-!
Machine words: the naturals below two to the power of sixty-four.

A computation has no word when its exact result is too great for one, or when it divides by zero;
the program breaks down there.
-/
namespace BulkLoad.Word

/-- How many words there are. -/
def size : Nat := Nat.pow 2 64

/-- A natural as a word. -/
def fit? (n : Nat) : Option Nat := if n < size then some n else none

def add? (a b : Nat) : Option Nat := fit? (a + b)

def mul? (a b : Nat) : Option Nat := fit? (a * b)

def rem? (a b : Nat) : Option Nat := if b = 0 then none else some (a % b)

@[simp] theorem fit?_eq_none {n : Nat} : fit? n = none ↔ size ≤ n := by
  simp only [fit?, ite_eq_right_iff, reduceCtorEq, imp_false, Nat.not_lt]

@[simp] theorem fit?_eq_some {n m : Nat} : fit? n = some m ↔ m = n ∧ m < size := by
  simp only [fit?, Option.ite_none_right_eq_some, Option.some.injEq]
  constructor
  · rintro ⟨hLt, rfl⟩
    exact ⟨rfl, hLt⟩
  · rintro ⟨rfl, hLt⟩
    exact ⟨hLt, rfl⟩

theorem fit?_of_lt {n : Nat} (hLt : n < size) : fit? n = some n := if_pos hLt

theorem rem?_of_pos {b : Nat} (a : Nat) (hPos : 0 < b) : rem? a b = some (a % b) :=
  if_neg (Nat.ne_of_gt hPos)

end BulkLoad.Word
