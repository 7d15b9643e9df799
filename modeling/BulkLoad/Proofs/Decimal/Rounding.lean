import BulkLoad.Proofs.Decimal.Doubles

/-!
How far a rounded double is from the number it stands for.

A number of at least one is cut to fifty-three bits, and what is cut off decides whether one is
added to the last of them. However it decides, the result is off by at most one part in two to the
power of fifty-two. That is twice as much as there can be, and saves a look at what decides.
-/
namespace BulkLoad.Decimal.Binary

open Float.Model (UnpackedFloat Format totalExponent)
open Float.Model.UnpackedFloat (Accuracy ExtendedMantissa Sign roundWithAccuracy shiftToExponent
  shiftToTargetExponent packComponents)

/-- The distance of one from the next double: no rounding changes a greater part. -/
def ulp : ℚ := 1 / 2 ^ 52

theorem ulp_pos : 0 < ulp := by unfold ulp; positivity

theorem ulp_lt_one : ulp < 1 := by unfold ulp; norm_num

/-! ### Cutting off bits -/

theorem mantissa_shiftRight (em : ExtendedMantissa) (k : Nat) :
    (em >>> k).mantissa = em.mantissa / 2 ^ k := by
  induction k with
  | zero => rw [Nat.pow_zero, Nat.div_one]; rfl
  | succ k hCut =>
      have hOne : (em >>> (k + 1)).mantissa = (em >>> k).mantissa / 2 := rfl
      rw [hOne, hCut, Nat.div_div_eq_div_mul, Nat.pow_succ]

theorem mantissa_ofMantissaAndAccuracy (m : Nat) (accuracy : Accuracy) :
    (ExtendedMantissa.ofMantissaAndAccuracy m accuracy).mantissa = m := by
  rcases accuracy with _ | (_ | _ | _) <;> rfl

theorem roundedMantissa_bounds (em : ExtendedMantissa) :
    em.mantissa ≤ em.roundedMantissa ∧ em.roundedMantissa ≤ em.mantissa + 1 := by
  unfold ExtendedMantissa.roundedMantissa
  rcases em.accuracy with _ | (_ | _ | _) <;> simp only [Accuracy.roundToNearestEven] <;> omega

/-- A significand of more than fifty-three bits is cut to so many, if the number is at least one. -/
theorem shiftToTargetExponent_eq {m : Nat} {e : Int} (hLong : 2 ^ 52 ≤ m)
    (hOne : 0 ≤ (m.log2 : Int) + e) (accuracy : Accuracy) :
    shiftToTargetExponent .binary64 m e accuracy =
      (ExtendedMantissa.ofMantissaAndAccuracy m accuracy >>> (m.log2 - 52),
        e + (m.log2 - 52 : Nat)) := by
  have hLog : 52 ≤ m.log2 := (Nat.le_log2 (by omega)).mpr hLong
  have hTarget : Format.targetExponent .binary64 (totalExponent m e) - e = (m.log2 - 52 : Nat) := by
    simp only [Format.targetExponent, totalExponent, Format.minExponent, Format.mantissaBits]
    omega
  rw [shiftToTargetExponent, shiftToExponent, hTarget, Int.toNat_natCast]

/-- A significand with fifty-three bits, and an exponent that makes the number at least one. -/
structure Normal (m : Nat) (q : Int) : Prop where
  long : 2 ^ 52 ≤ m
  short : m < 2 ^ 53
  one : -52 ≤ q

theorem Normal.pos {m : Nat} {q : Int} (hNormal : Normal m q) : 0 < m :=
  Nat.lt_of_lt_of_le (by decide) hNormal.long

/-- The number that a significand and an exponent make. -/
def value (m : Nat) (q : Int) : ℚ := m * 2 ^ q

theorem value_add (m : Nat) (q : Int) (k : Nat) : value m (q + k) = value (m * 2 ^ k) q := by
  simp only [value, Nat.cast_mul, Nat.cast_pow, Nat.cast_ofNat, zpow_add₀ (two_ne_zero (α := ℚ)),
    zpow_natCast]
  ring

theorem value_pos {m : Nat} (hPos : 0 < m) (q : Int) : 0 < value m q :=
  mul_pos (Nat.cast_pos.mpr hPos) (zpow_pos two_pos q)

/-- One bit too many, which rounding up may have brought, is cut off without a loss. -/
theorem shiftToTargetExponent_carry {r : Nat} {e : Int} (hLong : 2 ^ 52 ≤ r) (hShort : r ≤ 2 ^ 53)
    (hOne : -52 ≤ e) :
    let cut := shiftToTargetExponent .binary64 r e .exact
    Normal cut.1.mantissa cut.2 ∧ value cut.1.mantissa cut.2 = value r e := by
  intro cut
  have hLog : 52 ≤ r.log2 := (Nat.le_log2 (by omega)).mpr hLong
  have hCut : cut = _ := shiftToTargetExponent_eq hLong (by omega) .exact
  rw [hCut]
  simp only [mantissa_shiftRight, mantissa_ofMantissaAndAccuracy]
  rcases Nat.lt_or_eq_of_le hShort with hLess | rfl
  · have hLogLess := (Nat.log2_lt (by omega)).mpr hLess
    have hSame : r.log2 - 52 = 0 := by omega
    rw [hSame, Nat.pow_zero, Nat.div_one, Nat.cast_zero, Int.add_zero]
    exact ⟨⟨hLong, hLess, hOne⟩, rfl⟩
  · rw [Nat.log2_two_pow]
    constructor
    · exact ⟨by decide, by decide, by omega⟩
    · rw [value_add]
      rfl

/-- Significands that differ by less than a last place make numbers that are as near. -/
theorem value_bounds {m n place : Nat} (hPlace : place * 2 ^ 52 ≤ m) (hLow : m ≤ n + place)
    (hHigh : n ≤ m + place) (e : Int) :
    value m e * (1 - ulp) ≤ value n e ∧ value n e ≤ value m e * (1 + ulp) := by
  have hPower : 0 ≤ (2 : ℚ) ^ e := (zpow_pos two_pos e).le
  have hPart : (place : ℚ) ≤ m * ulp := by
    rw [ulp, mul_one_div, le_div_iff₀ (by positivity)]
    exact_mod_cast hPlace
  have hLow' : (m : ℚ) ≤ n + place := by exact_mod_cast hLow
  have hHigh' : (n : ℚ) ≤ m + place := by exact_mod_cast hHigh
  simp only [value]
  constructor
  · calc (m : ℚ) * 2 ^ e * (1 - ulp) = (m - m * ulp) * 2 ^ e := by ring
      _ ≤ n * 2 ^ e := mul_le_mul_of_nonneg_right (by linarith) hPower
  · calc (n : ℚ) * 2 ^ e ≤ (m + m * ulp) * 2 ^ e := mul_le_mul_of_nonneg_right (by linarith) hPower
      _ = m * 2 ^ e * (1 + ulp) := by ring

/-- Fifty-three bits of a longer significand are left when the others are cut off. -/
theorem cut_bounds {m : Nat} (hLong : 2 ^ 52 ≤ m) :
    2 ^ (m.log2 - 52) * 2 ^ 52 ≤ m ∧ 2 ^ 52 ≤ m / 2 ^ (m.log2 - 52) ∧
      m / 2 ^ (m.log2 - 52) < 2 ^ 53 := by
  have hPos : m ≠ 0 := by omega
  have hLog : 52 ≤ m.log2 := (Nat.le_log2 hPos).mpr hLong
  have hPlace : 2 ^ (m.log2 - 52) * 2 ^ 52 ≤ m := by
    rw [← Nat.pow_add, Nat.sub_add_cancel hLog]
    exact Nat.log2_self_le hPos
  have hFew : m < 2 ^ (m.log2 - 52) * 2 ^ 53 := by
    rw [← Nat.pow_add, show m.log2 - 52 + 53 = m.log2 + 1 by omega]
    exact Nat.lt_log2_self
  refine ⟨hPlace, ?_, Nat.div_lt_of_lt_mul hFew⟩
  rwa [Nat.le_div_iff_mul_le (Nat.two_pow_pos _), Nat.mul_comm]

/-- Whichever way the last of the bits that are left is rounded, it stays within a last place. -/
theorem rounded_bounds {m place r : Nat} (hPlace : 0 < place) (hDown : m / place ≤ r)
    (hUp : r ≤ m / place + 1) : m ≤ r * place + place ∧ r * place ≤ m + place := by
  have hQuotient := Nat.div_add_mod m place
  have hRest := Nat.mod_lt m hPlace
  have hBelow : place * (m / place) ≤ r * place := by
    rw [Nat.mul_comm]
    exact Nat.mul_le_mul_right _ hDown
  have hAbove : r * place ≤ place * (m / place) + place := by
    rw [← Nat.mul_succ, Nat.mul_comm]
    exact Nat.mul_le_mul_left _ hUp
  omega

/-- What comes of rounding a number that is at least one: a normal double off by at most a last
place, in which the exponent may still be too great. -/
theorem roundWithAccuracy_bounds {m : Nat} {e : Int} (hLong : 2 ^ 52 ≤ m)
    (hOne : 0 ≤ (m.log2 : Int) + e) :
    ∃ r p, ∃ hNormal : Normal r p,
      roundWithAccuracy .binary64 .positive m e .exact = .finite .positive r p hNormal.pos ∧
      value m e * (1 - ulp) ≤ value r p ∧ value r p ≤ value m e * (1 + ulp) := by
  have hLog : 52 ≤ m.log2 := (Nat.le_log2 (by omega)).mpr hLong
  obtain ⟨hPlace, hMany, hFew⟩ := cut_bounds hLong
  generalize hPlaces : m.log2 - 52 = k at *
  let em := ExtendedMantissa.ofMantissaAndAccuracy m .exact >>> k
  have hCut : em.mantissa = m / 2 ^ k := mantissa_shiftRight _ k
  obtain ⟨hDown, hUp⟩ := roundedMantissa_bounds em
  rw [hCut] at hDown hUp
  obtain ⟨hNormal, hValue⟩ := shiftToTargetExponent_carry (r := em.roundedMantissa)
    (e := e + (k : Nat)) (by omega) (by omega) (by omega)
  obtain ⟨hLow, hHigh⟩ := rounded_bounds (Nat.two_pow_pos k) hDown hUp
  refine ⟨_, _, hNormal, ?_, ?_⟩
  · rw [roundWithAccuracy, shiftToTargetExponent_eq hLong hOne, hPlaces]
    exact dif_neg hNormal.pos.ne'
  · rw [hValue, value_add]
    exact value_bounds hPlace hLow hHigh e

/-! ### Reading back what was written -/

theorem log2_of_normal {m : Nat} {q : Int} (hNormal : Normal m q) : m.log2 = 52 :=
  (Nat.log2_eq_iff hNormal.pos.ne').mpr ⟨hNormal.long, hNormal.short⟩

theorem toNat_packComponents (exponent : BitVec 11) (fraction : BitVec 52) :
    (packComponents .binary64 .positive exponent fraction).toNat =
      exponent.toNat * 2 ^ 52 + fraction.toNat := by
  have hZero : (Sign.positive.toBitVec ++ exponent).toNat = exponent.toNat := by
    rw [BitVec.toNat_append, ← Nat.shiftLeft_add_eq_or_of_lt exponent.isLt]
    exact Nat.zero_add _
  rw [packComponents, BitVec.toNat_append, ← Nat.shiftLeft_add_eq_or_of_lt fraction.isLt]
  rw [Nat.shiftLeft_eq]
  exact congrArg (· * 2 ^ 52 + fraction.toNat) hZero

theorem ofFloat_of_pack_infinity {x : Float}
    (hModel : x.toModel = .pack (.infinity .positive)) : ofFloat x = .infinite false := by
  have hBits : x.toBits = (Float.Model.pack (.infinity .positive)).toBits :=
    congrArg Float.Model.toBits hModel
  rw [ofFloat, hBits]
  decide +kernel

/-- The bits of a normal number, or those of infinity. -/
theorem pack_of_normal {m : Nat} {q : Int} {hPos : 0 < m} (hNormal : Normal m q) :
    UnpackedFloat.pack .binary64 (.finite .positive m q hPos) =
      if q ≤ 971 then
        packComponents .binary64 .positive (BitVec.ofNat 11 (q + 1075).toNat) (BitVec.ofNat 52 m)
      else UnpackedFloat.pack .binary64 (.infinity .positive) := by
  have hOne := hNormal.one
  have hBias : (q + Format.exponentBias .binary64 + (52 : Nat)).toNat = (q + 1075).toNat := by
    have hValue : Format.exponentBias .binary64 = 1023 := rfl
    omega
  have hBits : m.log2 + 1 = Format.mantissaBits .binary64 := by
    rw [log2_of_normal hNormal]
    rfl
  simp only [UnpackedFloat.pack, hBias, hBits, if_true]
  split
  · rw [if_neg (by omega)]
  · rw [if_pos (by omega)]

/-- A normal double is read back, and one whose exponent is too great is infinite. -/
theorem ofFloat_of_pack {x : Float} {m : Nat} {q : Int} {hPos : 0 < m} (hNormal : Normal m q)
    (hModel : x.toModel = .pack (.finite .positive m q hPos)) :
    ofFloat x = if q ≤ 971 then .finite false m q else .infinite false := by
  have hLong := hNormal.long
  have hShort := hNormal.short
  have hOne := hNormal.one
  have hPack := @pack_of_normal m q hPos hNormal
  split
  · rename_i hFits
    have hBits : x.toBits.toNat = (q + 1075).toNat * 2 ^ 52 + (m - 2 ^ 52) := by
      have hPacked : x.toBits.toNat =
          (UnpackedFloat.pack .binary64 (.finite .positive m q hPos)).toNat := by
        rw [show x.toBits = x.toModel.toBits from rfl, hModel]
        rfl
      rw [hPacked, hPack, if_pos hFits, toNat_packComponents, BitVec.toNat_ofNat,
        BitVec.toNat_ofNat]
      omega
    have hSign : x.toBits.toNat / 2 ^ 63 ≠ 1 := by omega
    have hExponent : x.toBits.toNat / 2 ^ 52 % 2 ^ 11 = (q + 1075).toNat := by omega
    have hFraction : x.toBits.toNat % 2 ^ 52 = m - 2 ^ 52 := by omega
    simp only [ofFloat, ofBits, Nat.pow_eq, hExponent, hFraction, hSign, decide_false]
    rw [if_neg (by omega), if_neg (by omega), show 2 ^ 52 + (m - 2 ^ 52) = m by omega,
      show ((q + 1075).toNat : Int) - 1075 = q by omega]
  · rename_i hGreat
    apply ofFloat_of_pack_infinity
    rw [hModel, Float.Model.pack, Float.Model.pack]
    simp only [hPack, if_neg hGreat]

/-! ### Doubles near a number -/

/-- A double that stands for a number after some roundings. It has overflowed, or is a normal double
of at least one that is off by at most a last place for each. -/
inductive Near (x : Float) (v : ℚ) (roundings : Nat) : Prop
  | infinite (hValue : ofFloat x = .infinite false)
  | finite {m : Nat} {q : Int} (hValue : ofFloat x = .finite false m q) (hNormal : Normal m q)
      (hLow : v * (1 - ulp) ^ roundings ≤ value m q) (hHigh : value m q ≤ v * (1 + ulp) ^ roundings)

theorem Near.of_round {x : Float} {m : Nat} {e : Int} (hLong : 2 ^ 52 ≤ m)
    (hOne : 0 ≤ (m.log2 : Int) + e)
    (hModel : x.toModel = .pack (roundWithAccuracy .binary64 .positive m e .exact)) :
    Near x (value m e) 1 := by
  obtain ⟨r, p, hNormal, hRound, hLow, hHigh⟩ := roundWithAccuracy_bounds hLong hOne
  rw [hRound] at hModel
  have hValue := ofFloat_of_pack hNormal hModel
  split at hValue
  · apply Near.finite hValue hNormal
    · rwa [pow_one]
    · rwa [pow_one]
  · exact .infinite hValue

theorem value_mul (m n : Nat) (p q : Int) : value (m * n) (p + q) = value m p * value n q := by
  simp only [value, Nat.cast_mul, zpow_add₀ (two_ne_zero (α := ℚ))]
  ring

/-- The exact product of two normal doubles is long enough to be rounded. -/
theorem near_product {x y : Float} {m n : Nat} {p q : Int} (hx : ofFloat x = .finite false m p)
    (hy : ofFloat y = .finite false n q) (hM : Normal m p) (hN : Normal n q) :
    Near (x * y) (value m p * value n q) 1 := by
  have hLong : 2 ^ 52 * 2 ^ 52 ≤ m * n := Nat.mul_le_mul hM.long hN.long
  have hLog : 104 ≤ (m * n).log2 := (Nat.le_log2 (Nat.mul_pos hM.pos hN.pos).ne').mpr hLong
  have hP := hM.one
  have hQ := hN.one
  rw [← value_mul]
  apply Near.of_round
  · exact Nat.le_trans (by decide) hLong
  · omega
  · show Float.Model.pack (UnpackedFloat.mul .binary64 x.toModel.unpack y.toModel.unpack) = _
    rw [unpack_toModel, unpack_toModel, hx, hy, unpacked, unpacked, dif_pos hM.pos, dif_pos hN.pos]
    rfl

theorem pos_of_value_le {m : Nat} {q : Int} {v : ℚ} {roundings : Nat} (hNormal : Normal m q)
    (hHigh : value m q ≤ v * (1 + ulp) ^ roundings) : 0 < v := by
  have hPower : 0 < (1 + ulp) ^ roundings := pow_pos (add_pos one_pos ulp_pos) roundings
  exact (mul_pos_iff_of_pos_right hPower).mp ((value_pos hNormal.pos q).trans_le hHigh)

/-- A product is rounded once more than its factors. -/
theorem Near.mul {x y : Float} {v w : ℚ} {i j : Nat} (hx : Near x v i) (hy : Near y w j) :
    Near (x * y) (v * w) (i + j + 1) := by
  have hModel : (x * y).toModel =
      .pack (UnpackedFloat.mul .binary64 x.toModel.unpack y.toModel.unpack) := rfl
  simp only [unpack_toModel] at hModel
  cases hx with
  | infinite hX =>
      apply Near.infinite
      apply ofFloat_of_pack_infinity
      rw [hModel, hX]
      cases hy with
      | infinite hY => rw [hY]; rfl
      | finite hY hN => rw [hY, unpacked, unpacked, dif_pos hN.pos]; rfl
  | @finite m p hX hM hLowX hHighX =>
      cases hy with
      | infinite hY =>
          apply Near.infinite
          apply ofFloat_of_pack_infinity
          rw [hModel, hX, hY, unpacked, unpacked, dif_pos hM.pos]
          rfl
      | @finite n q hY hN hLowY hHighY =>
          have hPosX := value_pos hM.pos p
          have hPosY := value_pos hN.pos q
          have hUlp := ulp_pos
          have hRest : 0 < 1 - ulp := sub_pos.mpr ulp_lt_one
          have hV := pos_of_value_le hM hHighX
          have hW := pos_of_value_le hN hHighY
          cases near_product hX hY hM hN with
          | infinite hValue => exact .infinite hValue
          | finite hValue hNormal hLow hHigh =>
              rw [pow_one] at hLow hHigh
              apply Near.finite hValue hNormal
              · calc v * w * (1 - ulp) ^ (i + j + 1)
                  _ = (v * (1 - ulp) ^ i) * (w * (1 - ulp) ^ j) * (1 - ulp) := by ring
                  _ ≤ value m p * value n q * (1 - ulp) := by gcongr
                  _ ≤ _ := hLow
              · calc _ ≤ value m p * value n q * (1 + ulp) := hHigh
                  _ ≤ (v * (1 + ulp) ^ i) * (w * (1 + ulp) ^ j) * (1 + ulp) := by gcongr
                  _ = v * w * (1 + ulp) ^ (i + j + 1) := by ring

/-- More roundings allow for more. -/
theorem Near.mono {x : Float} {v : ℚ} {i j : Nat} (hx : Near x v i) (hLe : i ≤ j) : Near x v j := by
  cases hx with
  | infinite hValue => exact .infinite hValue
  | finite hValue hNormal hLow hHigh =>
      have hV := pos_of_value_le hNormal hHigh
      have hUlp := ulp_pos
      have hRest : 0 ≤ 1 - ulp := (sub_pos.mpr ulp_lt_one).le
      apply Near.finite hValue hNormal
      · refine le_trans (mul_le_mul_of_nonneg_left ?_ hV.le) hLow
        exact pow_le_pow_of_le_one hRest (by linarith) hLe
      · refine le_trans hHigh (mul_le_mul_of_nonneg_left ?_ hV.le)
        exact pow_le_pow_right₀ (by linarith) hLe

theorem near_one {x : Float} (hValue : ofFloat x = .finite false (2 ^ 52) (-52)) : Near x 1 0 := by
  have hOne : value (2 ^ 52) (-52) = 1 := by
    simp only [value]
    norm_num
  apply Near.finite hValue ⟨by decide, by decide, by decide⟩ <;> rw [hOne, pow_zero, mul_one]

/-- A positive natural is made at least fifty-three bits long, and rounded. -/
theorem near_of_round_nat {x : Float} {n : Nat} (hPos : 0 < n)
    (hModel : x.toModel = .pack (UnpackedFloat.round .binary64 .positive n 0)) : Near x n 1 := by
  generalize hShift : 52 - n.log2 = k
  have hAmount : (0 - Format.targetExponent .binary64 (totalExponent n 0)).toNat = k := by
    simp only [Format.targetExponent, totalExponent, Format.minExponent, Format.mantissaBits]
    omega
  have hLong : 2 ^ 52 ≤ n * 2 ^ k :=
    calc 2 ^ 52 ≤ 2 ^ (n.log2 + k) := Nat.pow_le_pow_right (by decide) (by omega)
      _ = 2 ^ n.log2 * 2 ^ k := Nat.pow_add ..
      _ ≤ n * 2 ^ k := Nat.mul_le_mul_right _ (Nat.log2_self_le hPos.ne')
  have hLog : k ≤ (n * 2 ^ k).log2 :=
    (Nat.le_log2 (by omega)).mpr (Nat.le_mul_of_pos_left _ hPos)
  have hValue : value (n * 2 ^ k) (-k) = n := by
    rw [← value_add, value, neg_add_cancel, zpow_zero, mul_one]
  rw [← hValue]
  apply Near.of_round hLong (by omega)
  rw [hModel, UnpackedFloat.round, UnpackedFloat.decreaseExponent, hAmount]
  rw [Nat.shiftLeft_eq, Int.zero_sub]

/-- A positive natural is rounded at most twice when it becomes a double. -/
theorem near_ofNat {n : Nat} (hPos : 0 < n) : Near (Float.ofNat n) n 2 := by
  by_cases hShort : n < 2 ^ 53
  · obtain ⟨y, hOne, hFloat⟩ : ∃ y, ofFloat y = .finite false (2 ^ 52) (-52) ∧
        Float.ofNat n = n.toUInt64.toFloat * y := by
      refine ⟨Float.exactlyRepresentablePowersOfTen[0], by decide +kernel, ?_⟩
      show Float.ofScientific n false 0 = _
      rw [Float.ofScientific, dif_pos ⟨hShort, Nat.zero_le _⟩, if_neg Bool.false_ne_true]
    have hWord : n.toUInt64.toNat = n := by
      rw [Nat.toUInt64_eq, UInt64.toNat_ofNat_of_lt' (Nat.lt_trans hShort (by decide))]
    have hWhole : Near n.toUInt64.toFloat n 1 := by
      apply near_of_round_nat hPos
      show Float.Model.pack (UnpackedFloat.normalize .binary64 n.toUInt64.toNat 0 .positive) = _
      rw [hWord, UnpackedFloat.normalize, Int.compare_eq_gt.mpr (Int.natCast_pos.mpr hPos)]
      rfl
    have hProduct := hWhole.mul (near_one hOne)
    rwa [mul_one, ← hFloat] at hProduct
  · have hModel : (Float.ofNat n).toModel =
        .pack (roundWithAccuracy .binary64 .positive (n * 2 ^ 53) (-53) .exact) := by
      show (Float.ofScientific n false 0).toModel = _
      rw [Float.ofScientific, dif_neg (fun hFast => hShort hFast.1), if_neg Bool.false_ne_true]
      show Float.Model.pack (UnpackedFloat.ofScientific .binary64 n 0) = _
      have hSmall : ¬ (0 : Int) < -((2 ^ Format.exponentBits .binary64 : Int) + n.log2) := by
        have hBits : (2 ^ Format.exponentBits .binary64 : Int) = 2048 := rfl
        omega
      rw [UnpackedFloat.ofScientific, dif_neg hPos.ne', if_neg (by decide), if_neg hSmall,
        if_pos (by decide), UnpackedFloat.mul]
      simp only [Nat.shiftLeft_eq, Int.toNat_zero, Nat.pow_zero, Nat.mul_one]
      rfl
    have hValue : value (n * 2 ^ 53) (-53) = n := by
      rw [show (-53 : Int) = -(53 : Nat) from rfl, ← value_add, neg_add_cancel, value, zpow_zero,
        mul_one]
    have hLog : 53 ≤ (n * 2 ^ 53).log2 :=
      (Nat.le_log2 (by omega)).mpr (Nat.le_mul_of_pos_left _ hPos)
    rw [← hValue]
    apply (Near.of_round ?_ ?_ hModel).mono (by decide)
    · omega
    · omega

/-! ### Order -/

/-- Of two normal numbers the one with the greater exponent is greater. -/
theorem value_le {m n : Nat} {p q : Int} (hM : Normal m p) (hN : Normal n q)
    (hOrder : p < q ∨ p = q ∧ m ≤ n) : value m p ≤ value n q := by
  rcases hOrder with hLess | ⟨rfl, hLe⟩
  · obtain ⟨k, rfl⟩ : ∃ k : Nat, q = p + (k + 1 : Nat) := ⟨(q - p - 1).toNat, by omega⟩
    have hLe : m ≤ n * 2 ^ (k + 1) :=
      calc m ≤ 2 ^ 52 * 2 ^ 1 := hM.short.le
        _ ≤ n * 2 ^ (k + 1) := Nat.mul_le_mul hN.long (Nat.pow_le_pow_right two_pos (by omega))
    rw [value_add]
    exact mul_le_mul_of_nonneg_right (Nat.cast_le.mpr hLe) (zpow_pos two_pos p).le
  · exact mul_le_mul_of_nonneg_right (Nat.cast_le.mpr hLe) (zpow_pos two_pos p).le

/-- A double that is not below a normal one is infinite, or a normal one of which the exponent or
the significand is not less. -/
theorem cases_of_le {x y : Float} {m : Nat} {p : Int} (hX : ofFloat x = .finite false m p)
    (hM : Normal m p) (hLe : x ≤ y) :
    ofFloat y = .infinite false ∨
      ∃ n q, ofFloat y = .finite false n q ∧ Normal n q ∧ (p < q ∨ p = q ∧ m ≤ n) := by
  rw [le_iff, unpack_toModel, unpack_toModel, hX, unpacked, dif_pos hM.pos] at hLe
  obtain ⟨o, hCompare, hIsLE⟩ := hLe
  cases hY : ofFloat y with
  | nan => rw [hY] at hCompare; cases hCompare
  | infinite negative =>
      cases negative with
      | false => exact .inl rfl
      | true =>
          rw [hY] at hCompare
          obtain rfl := Option.some.inj hCompare
          cases hIsLE
  | finite negative n q =>
      obtain ⟨hShort, -, -, hFull⟩ := bounds_of_ofFloat hY
      rw [hY, unpacked] at hCompare
      by_cases hPos : 0 < n
      · rw [dif_pos hPos] at hCompare
        cases negative with
        | true =>
            obtain rfl := Option.some.inj hCompare
            cases hIsLE
        | false =>
            obtain rfl := Option.some.inj hCompare
            have hOrder := (isLE_then_iff p q m n).mp hIsLE
            have hOne := hM.one
            have hLong := hM.long
            exact .inr ⟨n, q, rfl, ⟨by omega, hShort, by omega⟩, hOrder⟩
      · rw [dif_neg hPos] at hCompare
        obtain rfl := Option.some.inj hCompare
        cases hIsLE

/-- One is below what is not below a normal number greater than one. -/
theorem one_lt_of_le {x y : Float} {m : Nat} {p : Int} (hX : ofFloat x = .finite false m p)
    (hM : Normal m p) (hMore : -52 < p ∨ 2 ^ 52 < m) (hLe : x ≤ y) : 1.0 < y := by
  have hOne := hM.one
  rw [lt_iff, unpack_one, unpack_toModel]
  rcases cases_of_le hX hM hLe with hInfinite | ⟨n, q, hY, hN, hOrder⟩
  · rw [hInfinite]
    rfl
  · rw [hY, unpacked, dif_pos hN.pos]
    have hLong := hN.long
    show some ((compare (-52) q).then (compare (2 ^ 52) n)) = some .lt
    rcases Int.lt_or_eq_of_le hN.one with hLess | hSame
    · rw [Int.compare_eq_lt.mpr hLess]
      rfl
    · rw [Int.compare_eq_eq.mpr hSame, Nat.compare_eq_lt.mpr (by omega)]
      rfl

/-! ### Whole numbers -/

theorem roundToInt_eq (m : Nat) (q : Int) :
    UnpackedFloat.roundToInt .positive m q = (num m q / den q : Nat) := by
  have hLeft : (q - 0).toNat = q.toNat := by rw [Int.sub_zero]
  have hRight : (0 - (q - q.toNat)).toNat = (-q).toNat := by omega
  simp only [UnpackedFloat.roundToInt, UnpackedFloat.decreaseExponent, shiftToExponent, hLeft,
    hRight, mantissa_shiftRight, mantissa_ofMantissaAndAccuracy, Nat.shiftLeft_eq]
  rfl

/-- What lies behind the point is cut off, and what is too great for a word becomes the greatest. -/
theorem toNat_toUInt64 {x : Float} {m : Nat} {q : Int} (hValue : ofFloat x = .finite false m q)
    (hNormal : Normal m q) : x.toUInt64.toNat = min ⌊value m q⌋₊ (2 ^ 64 - 1) := by
  have hFloor : ⌊value m q⌋₊ = num m q / den q := by
    rw [value, ← num_div_den, Nat.floor_div_eq_div]
  have hWord : x.toUInt64 = UInt64.ofNatClamp (num m q / den q) := by
    show UInt64.ofNatClamp (x.toModel.unpack.toInt 0 (UInt64.size - 1)).toNat = _
    rw [unpack_toModel, hValue, unpacked, dif_pos hNormal.pos, UnpackedFloat.toInt]
    exact congrArg (fun n : Int => UInt64.ofNatClamp n.toNat) (roundToInt_eq m q)
  rw [hFloor, hWord]
  rcases Nat.lt_or_ge (num m q / den q) UInt64.size with hLess | hMore
  · rw [UInt64.toNat_ofNatClamp_of_lt hLess]
    exact (Nat.min_eq_left (Nat.le_pred_of_lt hLess)).symm
  · rw [UInt64.toNat_ofNatClamp_of_le hMore]
    exact (Nat.min_eq_right (Nat.le_trans (by decide) hMore)).symm

end BulkLoad.Decimal.Binary
