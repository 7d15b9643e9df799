import Mathlib.Algebra.Order.Ring.Nat
import BulkLoad.Decimal.Shortest
import BulkLoad.Decimal.Read

/-!
Digits of naturals, and of the shortest decimal of a double.

A natural is written without leading zeros and read from its digits as it was. The significand of
the shortest decimal is zero only where the double is.
-/
namespace BulkLoad.Decimal

theorem isDigit_of_mem_digits {n : Nat} {c : Char} (hMem : c ∈ digits n) : isDigit c = true :=
  Nat.isDigit_of_mem_toDigits (by decide) (by decide) hMem

theorem digits_ne_nil (n : Nat) : digits n ≠ [] := Nat.toDigits_ne_nil

theorem natOfDigits_digits (n : Nat) : natOfDigits (digits n) = n := Nat.ofDigitChars_ten_toDigits

theorem head_digits_ne_zero {n : Nat} (hPos : 0 < n) (ds : List Char) : digits n ≠ '0' :: ds := by
  induction n using Nat.strongRecOn generalizing ds with
  | ind n ih =>
      by_cases hShort : n < 10
      · have hDigit : ∀ d < 10, 0 < d → Nat.digitChar d ≠ '0' := by decide
        rw [digits, Nat.toDigits_of_lt_base hShort]
        intro hZero
        exact hDigit n hShort hPos (List.cons.inj hZero).1
      · have hLong : 10 ≤ n := Nat.le_of_not_lt hShort
        have hTens : 0 < n / 10 := Nat.div_pos hLong (by decide)
        rw [digits, Nat.toDigits_of_base_le (by decide) hLong]
        cases hFront : digits (n / 10) with
        | nil => exact absurd hFront (digits_ne_nil _)
        | cons d front =>
            intro hZero
            rw [← digits, hFront, List.cons_append] at hZero
            obtain ⟨rfl, -⟩ := List.cons.inj hZero
            exact ih _ (Nat.div_lt_self hPos (by decide)) hTens front hFront

/-- Only zero is written with a zero at the head. -/
theorem digits_of_head_zero {n : Nat} {ds : List Char} (hDigits : digits n = '0' :: ds) : ds = [] := by
  rcases Nat.eq_zero_or_pos n with rfl | hPos
  · rw [digits, Nat.toDigits_zero] at hDigits
    exact (List.cons.inj hDigits).2.symm
  · exact absurd hDigits (head_digits_ne_zero hPos ds)

theorem lt_pow_length_digits (n : Nat) : n < 10 ^ (digits n).length :=
  (Nat.length_toDigits_le_iff (by decide) Nat.length_toDigits_pos).mp (Nat.le_refl _)

theorem pow_length_digits_le {n : Nat} (hPos : 0 < n) : 10 ^ ((digits n).length - 1) ≤ n := by
  rcases Nat.eq_zero_or_pos ((digits n).length - 1) with hOne | hMore
  · rw [hOne]
    exact hPos
  · by_contra hLess
    have hLength := (Nat.length_toDigits_le_iff (by decide) hMore).mpr (Nat.lt_of_not_le hLess)
    rw [← digits] at hLength
    omega

/-! ### The shortest decimal -/

theorem significand_trimZeros_pos (fuel : Nat) {s : Scaled} (hPos : 0 < s.significand) :
    0 < (s.trimZeros fuel).significand := by
  induction fuel generalizing s with
  | zero => exact hPos
  | succ fuel ih =>
      rw [Scaled.trimZeros]
      split
      · rename_i hTens
        apply ih
        show 0 < s.significand / 10
        omega
      · exact hPos

theorem significand_onGrid_pos {m : Nat} {q e : Int} {s : Scaled} (hGrid : onGrid? m q e = some s) :
    0 < s.significand := by
  unfold onGrid? at hGrid
  simp only at hGrid
  split at hGrid
  · rename_i hLow
    obtain rfl := Option.some.inj hGrid
    exact Nat.pos_of_ne_zero hLow.1.1
  · split at hGrid
    · obtain rfl := Option.some.inj hGrid
      exact Nat.succ_pos _
    · cases hGrid

/-- If the last grid is fine enough to hold more than zero, so are all that are searched before. -/
theorem significand_searchGrids_pos {m : Nat} {q k : Int} (more n : Nat)
    (hLast : Binary.den q * 10 ^ (k - (n + more : Nat)).toNat ≤
      Binary.num m q * 10 ^ ((n + more : Nat) - k).toNat) :
    0 < (searchGrids m q k more n).significand := by
  induction more generalizing n with
  | zero =>
      apply Nat.div_pos hLast
      exact Nat.mul_pos (Binary.den_pos q) (Nat.pow_pos (by decide))
  | succ more ih =>
      rw [searchGrids]
      cases hGrid : onGrid? m q (k - n) with
      | none =>
          apply ih
          rwa [Nat.add_right_comm, Nat.add_assoc]
      | some s => exact significand_onGrid_pos hGrid

theorem lt_pow_digitCount (n : Nat) : n < 10 ^ digitCount n := by
  unfold digitCount
  split
  · omega
  · exact lt_pow_length_digits n

theorem pow_digitCount_le {n : Nat} (hPos : 0 < n) : 10 ^ (digitCount n - 1) ≤ n := by
  rw [digitCount, if_neg (Nat.ne_of_gt hPos)]
  exact pow_length_digits_le hPos

/-- No quotient is so far below its magnitude that the last grid does not show it. -/
theorem den_mul_le_of_magnitude {num den : Nat} (hNum : 0 < num) (hDen : 0 < den) :
    den * 10 ^ (magnitude num den - 18).toNat ≤ num * 10 ^ (18 - magnitude num den).toNat := by
  unfold magnitude
  split
  · rename_i hOne
    have hWhole : 0 < num / den := Nat.div_pos hOne hDen
    have hExponent : ((digitCount (num / den) : Int) - 18).toNat ≤ digitCount (num / den) - 1 := by
      omega
    calc den * 10 ^ ((digitCount (num / den) : Int) - 18).toNat
      _ ≤ den * (num / den) :=
        Nat.mul_le_mul_left den
          (Nat.le_trans (Nat.pow_le_pow_right (by decide) hExponent) (pow_digitCount_le hWhole))
      _ ≤ num := Nat.mul_div_le num den
      _ ≤ num * 10 ^ (18 - (digitCount (num / den) : Int)).toNat :=
        Nat.le_mul_of_pos_right num (Nat.pow_pos (by decide))
  · -- the quotient is below one, so its reciprocal, rounded up, is counted
    let times := (den + num - 1) / num
    have hTimes : den ≤ num * times := by
      have hSplit := Nat.div_add_mod (den + num - 1) num
      have hRest := Nat.mod_lt (den + num - 1) hNum
      show den ≤ num * ((den + num - 1) / num)
      omega
    have hCount : times ≤ 10 ^ digitCount (times - 1) := by
      have hBelow := lt_pow_digitCount (times - 1)
      omega
    have hFirst : (1 - (digitCount (times - 1) : Int) - 18).toNat = 0 := by omega
    have hSecond : digitCount (times - 1) ≤ (18 - (1 - (digitCount (times - 1) : Int))).toNat := by
      omega
    rw [hFirst, pow_zero, Nat.mul_one]
    calc den
      _ ≤ num * times := hTimes
      _ ≤ num * 10 ^ (18 - (1 - (digitCount (times - 1) : Int))).toNat :=
        Nat.mul_le_mul_left num (Nat.le_trans hCount (Nat.pow_le_pow_right (by decide) hSecond))

theorem significand_shortest_pos {m : Nat} (hPos : 0 < m) (q : Int) :
    0 < (shortest m q).significand := by
  have hNum : 0 < Binary.num m q := Nat.mul_pos hPos (Nat.two_pow_pos _)
  rw [shortest, if_neg (Nat.ne_of_gt hPos)]
  apply significand_trimZeros_pos
  apply significand_searchGrids_pos
  exact den_mul_le_of_magnitude hNum (Binary.den_pos q)

end BulkLoad.Decimal
