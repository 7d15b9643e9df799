import Mathlib
import BulkLoad.Decimal.Binary

/-!
Doubles and the numbers that they are.

The sixty-four bits of a double are taken apart once more here, to what comparing and the tests for
infinities work on. No number is below one just if it is at least one, but what is no number is
neither.
-/
namespace BulkLoad.Decimal.Binary

open Float.Model (UnpackedFloat Format)
open Float.Model.UnpackedFloat (Sign unpackExponent unpackMantissa unpackSign)

def signOf (negative : Bool) : Sign := if negative then .negative else .positive

/-- The same value in the terms of the arithmetic of doubles. -/
def unpacked : Binary → UnpackedFloat
  | .nan => .notANumber
  | .infinite negative => .infinity (signOf negative)
  | .finite negative m q => if h : 0 < m then .finite (signOf negative) m q h else .zero (signOf negative)

theorem toNat_unpackExponent (b : BitVec Format.binary64.numBits) :
    (unpackExponent b).toNat = b.toNat / 2 ^ 52 % 2 ^ 11 := by
  simp only [unpackExponent, BitVec.toNat_cast, BitVec.extractLsb_toNat, Nat.shiftRight_eq_div_pow]

theorem toNat_unpackMantissa (b : BitVec Format.binary64.numBits) :
    (unpackMantissa b).toNat = b.toNat % 2 ^ 52 := by
  simp [unpackMantissa, BitVec.extractLsb_toNat]

theorem toNat_unpackSign (b : BitVec Format.binary64.numBits) :
    (unpackSign b).toNat = b.toNat / 2 ^ 63 % 2 := by
  simp only [unpackSign, BitVec.toNat_cast, BitVec.extractLsb_toNat, Nat.shiftRight_eq_div_pow]

theorem signOf_eq (bits : UInt64) :
    Sign.ofBitVec (@unpackSign Format.binary64 bits.toBitVec) =
      signOf (bits.toNat / Nat.pow 2 63 = 1) := by
  have hSign := toNat_unpackSign bits.toBitVec
  have hWord : bits.toNat < 2 ^ 64 := bits.toNat_lt
  have hBits : bits.toBitVec.toNat = bits.toNat := rfl
  rw [hBits] at hSign
  unfold Sign.ofBitVec signOf
  by_cases hNegative : bits.toNat / 2 ^ 63 = 1
  · have hOne : @unpackSign Format.binary64 bits.toBitVec ≠ 0#1 := by
      intro hZero
      rw [hZero, hNegative] at hSign
      exact absurd hSign (by decide)
    rw [if_neg hOne]
    exact (if_pos (by simpa using hNegative)).symm
  · have hZero : @unpackSign Format.binary64 bits.toBitVec = 0#1 := by
      apply BitVec.eq_of_toNat_eq
      rw [hSign]
      show _ = 0
      omega
    rw [if_pos hZero]
    exact (if_neg (by simpa using hNegative)).symm

/-- The number behind the point of a normal double, with the one in front of it. -/
theorem toNat_implicit (m : BitVec 52) : (1#1 ++ m).toNat = 2 ^ 52 + m.toNat := by
  rw [BitVec.toNat_append, ← Nat.shiftLeft_add_eq_or_of_lt m.isLt]
  rfl

theorem unpack_toModel (x : Float) : x.toModel.unpack = (ofFloat x).unpacked := by
  have hExponent := toNat_unpackExponent x.toBits.toBitVec
  have hMantissa := toNat_unpackMantissa x.toBits.toBitVec
  have hSign := signOf_eq x.toBits
  have hBits : x.toBits.toBitVec.toNat = x.toBits.toNat := rfl
  rw [hBits] at hExponent hMantissa
  show UnpackedFloat.unpack Format.binary64 x.toBits.toBitVec = (ofBits x.toBits).unpacked
  have hFull : @unpackExponent Format.binary64 x.toBits.toBitVec = -1#11 ↔
      x.toBits.toNat / 2 ^ 52 % 2 ^ 11 = 2047 := by
    rw [← BitVec.toNat_inj, hExponent]
    rfl
  have hNone : @unpackExponent Format.binary64 x.toBits.toBitVec = 0#11 ↔
      x.toBits.toNat / 2 ^ 52 % 2 ^ 11 = 0 := by
    rw [← BitVec.toNat_inj, hExponent]
    rfl
  have hEmpty : @unpackMantissa Format.binary64 x.toBits.toBitVec = 0#52 ↔
      x.toBits.toNat % 2 ^ 52 = 0 := by
    rw [← BitVec.toNat_inj, hMantissa]
    rfl
  unfold UnpackedFloat.unpack ofBits
  simp only [Nat.pow_eq] at hSign ⊢
  by_cases hTop : x.toBits.toNat / 2 ^ 52 % 2 ^ 11 = 2047
  · rw [if_pos (hFull.mpr hTop), if_pos hTop]
    by_cases hFraction : x.toBits.toNat % 2 ^ 52 = 0
    · rw [if_pos (hEmpty.mpr hFraction), if_pos hFraction, hSign]
      rfl
    · rw [if_neg (mt hEmpty.mp hFraction), if_neg hFraction]
      rfl
  · rw [if_neg (mt hFull.mp hTop), if_neg hTop]
    by_cases hLeast : x.toBits.toNat / 2 ^ 52 % 2 ^ 11 = 0
    · rw [if_pos (hNone.mpr hLeast), if_pos hLeast]
      by_cases hFraction : x.toBits.toNat % 2 ^ 52 = 0
      · rw [dif_pos (hEmpty.mpr hFraction), hSign, unpacked, dif_neg (by omega)]
      · rw [dif_neg (mt hEmpty.mp hFraction), hSign, unpacked, dif_pos (by omega)]
        simp only [UnpackedFloat.finite.injEq, true_and]
        exact ⟨hMantissa, by rw [hExponent, hLeast]; rfl⟩
    · rw [if_neg (mt hNone.mp hLeast), if_neg hLeast, hSign, unpacked, dif_pos (by omega)]
      simp only [UnpackedFloat.finite.injEq, true_and]
      constructor
      · rw [← hMantissa]
        exact toNat_implicit _
      · rw [hExponent]
        rfl

theorem unpacked_isFinite (b : Binary) :
    b.unpacked.isFinite = true ↔ ∃ negative m q, b = .finite negative m q := by
  cases b with
  | nan => simp [unpacked, UnpackedFloat.isFinite]
  | infinite negative => simp [unpacked, UnpackedFloat.isFinite]
  | finite negative m q =>
      apply iff_of_true ?_ ⟨negative, m, q, rfl⟩
      rw [unpacked]
      split <;> rfl

theorem isFinite_iff (x : Float) :
    x.isFinite = true ↔ ∃ negative m q, ofFloat x = .finite negative m q := by
  rw [← unpacked_isFinite, ← unpack_toModel]
  rfl

theorem isNaN_iff (x : Float) : x.isNaN = true ↔ ofFloat x = .nan := by
  have hNaN : x.isNaN = (ofFloat x).unpacked.isNaN := by
    rw [← unpack_toModel]
    rfl
  rw [hNaN]
  cases ofFloat x with
  | nan => exact iff_of_true rfl rfl
  | infinite negative => exact iff_of_false Bool.false_ne_true nofun
  | finite negative m q =>
      apply iff_of_false ?_ nofun
      rw [unpacked]
      split <;> exact Bool.false_ne_true

theorem eq_of_isNaN {x y : Float} (hx : x.isNaN = true) (hy : y.isNaN = true) : x = y := by
  rw [Float.isNaN_eq_decide_eq_nan, decide_eq_true_iff] at hx hy
  rw [hx, hy]

theorem toNat_of_infinite {bits : UInt64} {negative : Bool}
    (hValue : ofBits bits = .infinite negative) :
    bits.toNat = (if negative then 2 ^ 63 else 0) + 2047 * 2 ^ 52 := by
  have hWord : bits.toNat < 2 ^ 64 := bits.toNat_lt
  simp only [ofBits, Nat.pow_eq] at hValue
  split at hValue
  · split at hValue
    · obtain rfl := (Binary.infinite.inj hValue)
      by_cases hNegative : bits.toNat / 2 ^ 63 = 1
      · simp only [hNegative, decide_true, if_true]
        omega
      · simp only [hNegative, decide_false, Bool.false_eq_true, if_false]
        omega
    · cases hValue
  · split at hValue <;> cases hValue

/-- There is one infinite double of each sign. -/
theorem eq_of_infinite {x y : Float} {negative : Bool} (hx : ofFloat x = .infinite negative)
    (hy : ofFloat y = .infinite negative) : x = y := by
  rw [← Float.toBits_inj, ← UInt64.toNat_inj, toNat_of_infinite hx, toNat_of_infinite hy]

/-! ### Comparing -/

theorem compare_swap (a b : UnpackedFloat) :
    UnpackedFloat.compare b a = (UnpackedFloat.compare a b).map Ordering.swap := by
  rcases a with (_ | _) | _ | (_ | _) | ⟨_ | _, m, q, hm⟩ <;>
    rcases b with (_ | _) | _ | (_ | _) | ⟨_ | _, n, p, hn⟩ <;>
    simp [UnpackedFloat.compare, Ordering.swap_then, Int.compare_swap, Nat.compare_swap] <;> rfl

theorem compare_eq_none {b : UnpackedFloat} {s : Sign} {m : Nat} {q : Int} {hm : 0 < m} :
    UnpackedFloat.compare (.finite s m q hm) b = none ↔ b.isNaN = true := by
  rcases b with (_ | _) | _ | (_ | _) | ⟨_ | _, n, p, hn⟩ <;> cases s <;>
    simp [UnpackedFloat.compare, UnpackedFloat.isNaN]

theorem unpack_one : (1.0 : Float).toModel.unpack =
    .finite .positive (2 ^ 52) (-52) (by decide) := by
  have hOne : ofFloat 1.0 = .finite false (2 ^ 52) (-52) := by decide +kernel
  rw [unpack_toModel, hOne]
  rfl

theorem lt_iff (x y : Float) :
    x < y ↔ UnpackedFloat.compare x.toModel.unpack y.toModel.unpack = some .lt := by
  show decide (x.toModel < y.toModel) = true ↔ _
  rw [decide_eq_true_iff]
  exact beq_iff_eq

theorem le_iff (x y : Float) :
    x ≤ y ↔ ∃ o, UnpackedFloat.compare x.toModel.unpack y.toModel.unpack = some o ∧
      o.isLE = true := by
  show decide (x.toModel ≤ y.toModel) = true ↔ _
  rw [decide_eq_true_iff]
  exact Option.any_eq_true _ _

/-- What is not below one is at least one or no number. -/
theorem not_lt_one_iff (x : Float) : ¬ x < 1.0 ↔ 1.0 ≤ x ∨ x.isNaN = true := by
  have hNaN : x.isNaN = true ↔
      UnpackedFloat.compare (1.0 : Float).toModel.unpack x.toModel.unpack = none := by
    rw [unpack_one, compare_eq_none]
    rfl
  rw [lt_iff, le_iff, hNaN, compare_swap (1.0 : Float).toModel.unpack]
  cases UnpackedFloat.compare (1.0 : Float).toModel.unpack x.toModel.unpack with
  | none => simp
  | some o => cases o <;> simp

/-! ### Values -/

/-- A significand times a power of two, as a fraction. -/
theorem num_div_den (m : Nat) (q : Int) :
    (num m q : ℚ) / den q = (m : ℚ) * 2 ^ q := by
  simp only [num, den, Nat.pow_eq, Nat.cast_mul, Nat.cast_pow, Nat.cast_ofNat]
  rcases le_total 0 q with hNatural | hNegative
  · obtain ⟨k, rfl⟩ := Int.eq_ofNat_of_zero_le hNatural
    simp
  · obtain ⟨k, hk⟩ := Int.eq_ofNat_of_zero_le (Int.neg_nonneg_of_nonpos hNegative)
    obtain rfl : q = -k := by omega
    simp [div_eq_mul_inv]

/-- The bounds of a double: its significand has fifty-three bits, all of them in use unless the
exponent is the least one. -/
theorem bounds_of_ofFloat {x : Float} {negative : Bool} {m : Nat} {q : Int}
    (hValue : ofFloat x = .finite negative m q) :
    m < 2 ^ 53 ∧ -1074 ≤ q ∧ q ≤ 971 ∧ (-1074 < q → 2 ^ 52 ≤ m) := by
  unfold ofFloat ofBits at hValue
  simp only [Nat.pow_eq] at hValue
  split at hValue
  · split at hValue <;> cases hValue
  · split at hValue
    · obtain ⟨-, rfl, rfl⟩ := Binary.finite.inj hValue
      omega
    · obtain ⟨-, rfl, rfl⟩ := Binary.finite.inj hValue
      omega

/-- Of two fractions of doubles, one of which is one, the greater has the greater exponent. -/
theorem den_le_num_iff {m : Nat} {q : Int} (hPos : 0 < m) (hHigh : m < 2 ^ 53)
    (hFull : -1074 < q → 2 ^ 52 ≤ m) :
    den q ≤ num m q ↔ -52 < q ∨ (q = -52 ∧ 2 ^ 52 ≤ m) := by
  simp only [den, num, Nat.pow_eq]
  rcases Int.lt_or_le q 0 with hNegative | hNatural
  · have hExponent : q.toNat = 0 := by omega
    rw [hExponent, Nat.pow_zero, Nat.mul_one]
    constructor
    · intro hLe
      have hAbove : 2 ^ (-q).toNat < 2 ^ 53 := by omega
      have hBelow := (Nat.pow_lt_pow_iff_right (by decide)).mp hAbove
      by_cases hLast : q = -52
      · subst hLast
        exact .inr ⟨rfl, hLe⟩
      · exact .inl (by omega)
    · intro hSize
      have hExponent : (-q).toNat ≤ 52 := by omega
      have hUnit : 2 ^ 52 ≤ m := by
        rcases hSize with hSize | ⟨-, hSize⟩
        · exact hFull (by omega)
        · exact hSize
      calc 2 ^ (-q).toNat ≤ 2 ^ 52 := Nat.pow_le_pow_right (by decide) hExponent
        _ ≤ m := hUnit
  · have hExponent : (-q).toNat = 0 := by omega
    rw [hExponent, Nat.pow_zero]
    exact iff_of_true (Nat.mul_pos hPos (Nat.two_pow_pos _)) (.inl (by omega))

/-- Exponents are compared first, and significands only if those are equal. -/
theorem isLE_then_iff (p q : Int) (m n : Nat) :
    ((compare p q).then (compare m n)).isLE = true ↔ p < q ∨ p = q ∧ m ≤ n := by
  rcases Int.lt_trichotomy p q with hLess | rfl | hMore
  · rw [Int.compare_eq_lt.mpr hLess]
    exact iff_of_true rfl (.inl hLess)
  · rw [Int.compare_eq_eq.mpr rfl, Ordering.eq_then, Nat.isLE_compare]
    simp
  · rw [Int.compare_eq_gt.mpr hMore]
    apply iff_of_false Bool.false_ne_true
    omega

theorem one_compare_isLE_iff {m : Nat} {q : Int} {hPos : 0 < m} {hOne : 0 < 2 ^ 52} :
    (∃ o, UnpackedFloat.compare (.finite .positive (2 ^ 52) (-52) hOne)
        (.finite .positive m q hPos) = some o ∧ o.isLE = true) ↔
      -52 < q ∨ (q = -52 ∧ 2 ^ 52 ≤ m) := by
  rw [eq_comm (a := q), ← isLE_then_iff]
  exact ⟨fun ⟨_, hSome, hLE⟩ => Option.some.inj hSome ▸ hLE, fun hLE => ⟨_, rfl, hLE⟩⟩

/-- A double of at least one is positive infinity or a fraction of at least one. -/
theorem one_le_iff (x : Float) : 1.0 ≤ x ↔ ofFloat x = .infinite false ∨
    ∃ m q, ofFloat x = .finite false m q ∧ den q ≤ num m q := by
  rw [le_iff, unpack_one, unpack_toModel]
  cases hValue : ofFloat x with
  | nan => simp [unpacked, UnpackedFloat.compare]
  | infinite negative => cases negative <;> simp [unpacked, UnpackedFloat.compare, signOf]
  | finite negative m q =>
      obtain ⟨hHigh, -, -, hFull⟩ := bounds_of_ofFloat hValue
      by_cases hPos : 0 < m
      · rw [unpacked, dif_pos hPos]
        cases negative with
        | true => simp [UnpackedFloat.compare, signOf]
        | false =>
            rw [signOf, if_neg Bool.false_ne_true, one_compare_isLE_iff,
              ← den_le_num_iff hPos hHigh hFull]
            constructor
            · intro hLe
              exact .inr ⟨m, q, rfl, hLe⟩
            · rintro (hInfinite | ⟨n, p, hSame, hLe⟩)
              · cases hInfinite
              · obtain ⟨-, rfl, rfl⟩ := Binary.finite.inj hSame
                exact hLe
      · have hZero : m = 0 := by omega
        have hDen := den_pos q
        subst hZero
        apply iff_of_false
        · cases negative <;> simp [unpacked, UnpackedFloat.compare]
        · rintro (hInfinite | ⟨n, p, hSame, hLe⟩)
          · cases hInfinite
          · obtain ⟨-, rfl, rfl⟩ := Binary.finite.inj hSame
            simp only [num, Nat.zero_mul] at hLe
            omega

end BulkLoad.Decimal.Binary
