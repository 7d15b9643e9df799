import BulkLoad.Config.Rules
import BulkLoad.Proofs.Decimal.Rounding
import BulkLoad.Proofs.Write.Windows

/-!
Windows of delays as they are computed, with rounding.

Each multiplication on the way to a power may be off by a last place, so the power is off by as many
as its exponent says. A multiplier that adds two parts in a million outgrows that, and takes a base
delay of a millisecond on by more than a nanosecond each time: as long as the greatest delay is not
reached, the next delay is greater. A multiplier of one makes all delays alike.
-/
namespace BulkLoad

namespace DelayWindow

variable {s : Nat → Nat} {maxDelay attempt : Nat}

/-- A window below the greatest delay is empty just when the next delay is not greater. -/
theorem low_eq_high_iff (hBelow : (ofScale s maxDelay attempt).low < maxDelay) :
    (ofScale s maxDelay attempt).low = (ofScale s maxDelay attempt).high ↔
      s (min (attempt + 1) maxAttempt) ≤ s attempt := by
  rw [low_ofScale] at hBelow
  rw [ofScale_eq]
  simp only
  omega

/-- Each wait of a window is picked by some chance. -/
theorem exists_pick {w : DelayWindow} {d : Nat} (hLow : w.low ≤ d) (hHigh : d < w.high) :
    ∃ chance, w.pick chance = d := by
  refine ⟨d - w.low, ?_⟩
  rw [pick, if_pos (Nat.lt_of_le_of_lt hLow hHigh), Nat.mod_eq_of_lt (by omega)]
  omega

end DelayWindow

namespace RetryPolicy

open Decimal (Binary)
open Decimal.Binary (Near Normal ofFloat ulp value)

/-! ### Powers -/

/-- The lowest bit of an exponent decides on one multiplication. -/
theorem near_lowest {result x : Float} {v w : ℚ} {i j : Nat} (hResult : Near result v i)
    (hBase : Near x w j) (n : Nat) :
    Near (if n % 2 = 1 then result * x else result) (v * w ^ (n % 2)) (i + n % 2 * (j + 1)) := by
  rcases Nat.mod_two_eq_zero_or_one n with hEven | hOdd
  · rw [if_neg (by omega), hEven, pow_zero, mul_one, Nat.zero_mul]
    exact hResult
  · rw [if_pos hOdd, hOdd, pow_one, Nat.one_mul]
    exact hResult.mul hBase

/-- A power by repeated squaring is off as if it had been multiplied up one by one. -/
theorem near_powerOnto (result x : Float) (n : Nat) {v w : ℚ} {i j : Nat}
    (hResult : Near result v i) (hBase : Near x w j) :
    Near (powerOnto result x n) (v * w ^ n) (i + n * (j + 1)) := by
  fun_induction powerOnto result x n generalizing v w i j with
  | case1 result x n product =>
      rename_i hLast
      have hSame : n % 2 = n := by omega
      have hLowest := near_lowest hResult hBase n
      have hValue : v * w ^ (n % 2) = v * w ^ n := by rw [hSame]
      have hCount : i + n % 2 * (j + 1) = i + n * (j + 1) := by rw [hSame]
      rwa [hValue, hCount] at hLowest
  | case2 result x n product hMore =>
      rename_i ih
      have hLowest := near_lowest hResult hBase n
      have hPower := ih hLowest (hBase.mul hBase)
      have hSplit : n % 2 + 2 * (n / 2) = n := Nat.mod_add_div n 2
      have hValue : v * w ^ (n % 2) * (w * w) ^ (n / 2) = v * w ^ n := by
        rw [← pow_two, ← pow_mul, mul_assoc, ← pow_add, hSplit]
      have hCount : i + n % 2 * (j + 1) + n / 2 * (j + j + 1 + 1) = i + n * (j + 1) :=
        calc i + n % 2 * (j + 1) + n / 2 * (j + j + 1 + 1)
          _ = i + (n % 2 + 2 * (n / 2)) * (j + 1) := by ring
          _ = i + n * (j + 1) := by rw [hSplit]
      rwa [hValue, hCount] at hPower

theorem near_power {x : Float} {w : ℚ} (hBase : Near x w 0) (n : Nat) :
    Near (power x n) (w ^ n) n := by
  have hPower := near_powerOnto 1.0 x n (Binary.near_one (by decide +kernel)) hBase
  rwa [one_mul, Nat.zero_add, Nat.zero_add, Nat.mul_one] at hPower

/-- The nanoseconds that a power makes of the base delay, as they are computed. -/
def delay (p : RetryPolicy) (exponent : Nat) : Float :=
  Float.ofNat p.baseDelay * power p.multiplier exponent

theorem near_delay {p : RetryPolicy} {w : ℚ} (hBase : 0 < p.baseDelay)
    (hMultiplier : Near p.multiplier w 0) (n : Nat) :
    Near (p.delay n) (p.baseDelay * w ^ n) (n + 3) := by
  have hDelay := (Binary.near_ofNat hBase).mul (near_power hMultiplier n)
  rwa [show 2 + n + 1 = n + 3 by omega] at hDelay

/-! ### Spans -/

theorem span_of_infinite {x : Float} (hValue : ofFloat x = .infinite false) :
    span (nanosOfFloat? x) = maxSpan := by
  have hFinite : x.isFinite = false := by
    rw [Bool.eq_false_iff, ne_eq, Binary.isFinite_iff, hValue]
    rintro ⟨_, _, _, hOther⟩
    cases hOther
  rw [nanosOfFloat?, hFinite]
  rfl

theorem ofFloat_maxSpan : ofFloat (Float.ofNat maxSpan) = .finite false (2 ^ 52) 12 := by
  decide +kernel

/-- The greatest span becomes a double that is one too great for a span. -/
theorem span_of_finite {x : Float} {m : Nat} {q : Int} (hValue : ofFloat x = .finite false m q)
    (hNormal : Normal m q) : span (nanosOfFloat? x) = min ⌊value m q⌋₊ maxSpan := by
  have hFinite : x.isFinite = true := (Binary.isFinite_iff x).mpr ⟨_, _, _, hValue⟩
  have hLimit : Normal (2 ^ 52) 12 := ⟨by decide, by decide, by decide⟩
  rw [nanosOfFloat?, hFinite]
  by_cases hReached : Float.ofNat maxSpan ≤ x
  · have hOrder : 12 < q ∨ 12 = q ∧ 2 ^ 52 ≤ m := by
      rcases Binary.cases_of_le ofFloat_maxSpan hLimit hReached with
        hInfinite | ⟨n, r, hSame, -, hOrder⟩
      · rw [hValue] at hInfinite
        cases hInfinite
      · rw [hValue] at hSame
        obtain ⟨-, rfl, rfl⟩ := Binary.finite.inj hSame
        exact hOrder
    have hSpan : (maxSpan : ℚ) ≤ value m q :=
      calc (maxSpan : ℚ) ≤ value (2 ^ 52) 12 := by
            simp only [maxSpan, value]
            norm_num
        _ ≤ value m q := Binary.value_le hLimit hNormal hOrder
    rw [Nat.min_eq_right (Nat.le_floor hSpan)]
    simp only [hReached, decide_true, Bool.or_true, if_true]
    rfl
  · simp only [hReached, Bool.not_true, decide_false, Bool.or_false, Bool.false_eq_true, if_false,
      span, Option.getD_some, Binary.toNat_toUInt64 hValue hNormal]
    exact Nat.min_eq_left (Nat.min_le_right ..)

/-- A double whose span is not the greatest is the number that the span has of it. -/
theorem near_of_held {x : Float} {v : ℚ} {roundings : Nat} (hNear : Near x v roundings)
    (hHeld : span (nanosOfFloat? x) < maxSpan) :
    ∃ a : ℚ, 0 < a ∧ span (nanosOfFloat? x) = ⌊a⌋₊ ∧ a < 2 ^ 64 ∧
      v * (1 - ulp) ^ roundings ≤ a ∧ a ≤ v * (1 + ulp) ^ roundings := by
  cases hNear with
  | infinite hValue =>
      rw [span_of_infinite hValue] at hHeld
      exact absurd hHeld (Nat.lt_irrefl maxSpan)
  | @finite m q hValue hNormal hLow hHigh =>
      rw [span_of_finite hValue hNormal] at hHeld ⊢
      have hFloor : ⌊value m q⌋₊ < maxSpan := by omega
      have hSmall : value m q < 2 ^ 64 :=
        calc value m q < maxSpan := Nat.lt_of_floor_lt hFloor
          _ ≤ 2 ^ 64 := by
            simp only [maxSpan]
            norm_num
      have hPos := Binary.value_pos hNormal.pos q
      exact ⟨value m q, hPos, Nat.min_eq_left hFloor.le, hSmall, hLow, hHigh⟩

/-- A double that is greater than a span by one has a greater span. -/
theorem lt_span_of_near {x : Float} {v : ℚ} {roundings held : Nat} (hNear : Near x v roundings)
    (hHeld : held < maxSpan) (hMore : ∀ a, v * (1 - ulp) ^ roundings ≤ a → (held + 1 : ℚ) ≤ a) :
    held < span (nanosOfFloat? x) := by
  cases hNear with
  | infinite hValue => rwa [span_of_infinite hValue]
  | finite hValue hNormal hLow hHigh =>
      rw [span_of_finite hValue hNormal, Nat.lt_min]
      exact ⟨Nat.le_floor (by exact_mod_cast hMore _ hLow), hHeld⟩

/-! ### Growth -/

/-- The part that a delay shall at least grow by. -/
def growth : ℚ := 1 / 2 ^ 19

theorem one_sub_le_pow (k : Nat) : 1 - k * ulp ≤ (1 - ulp) ^ k := by
  have hUlp := Binary.ulp_lt_one
  calc 1 - k * ulp = 1 + k * -ulp := by ring
    _ ≤ (1 + -ulp) ^ k := one_add_mul_le_pow (by linarith) k
    _ = (1 - ulp) ^ k := by rw [sub_eq_add_neg]

/-- Rounding up and down again does not add anything. -/
theorem pow_mul_pow_le_one (k : Nat) : (1 + ulp) ^ k * (1 - ulp) ^ k ≤ 1 := by
  have hUlp := Binary.ulp_pos
  have hRest := sub_pos.mpr Binary.ulp_lt_one
  rw [← mul_pow]
  apply pow_le_one₀ (by positivity)
  calc (1 + ulp) * (1 - ulp) = 1 - ulp ^ 2 := by ring
    _ ≤ 1 := sub_le_self 1 (by positivity)

theorem two_pow_le_pow {x : ℚ} {n : Nat} (hPos : 0 < n) (hGrows : 1 + 1 / n ≤ x) (k : Nat) :
    2 ^ k ≤ x ^ (n * k) := by
  have hN : (0 : ℚ) < n := Nat.cast_pos.mpr hPos
  rw [pow_mul]
  apply pow_le_pow_left₀ two_pos.le
  calc (2 : ℚ) = 1 + n * (1 / n) := by rw [mul_one_div_cancel hN.ne']; norm_num
    _ ≤ (1 + 1 / n) ^ n := one_add_mul_le_pow (le_trans (by norm_num) (one_div_pos.mpr hN).le) n
    _ ≤ x ^ n := pow_le_pow_left₀ (by positivity) hGrows n

section Growing

variable {base w a b : ℚ} {n : Nat}

/-- Few roundings leave almost all of a number. -/
theorem one_sub_le_pow_of_few {k : Nat} (hFew : k ≤ 2 ^ 28) : 1 - 1 / 2 ^ 24 ≤ (1 - ulp) ^ k := by
  have hCount : (k : ℚ) ≤ 2 ^ 28 := by exact_mod_cast hFew
  calc (1 : ℚ) - 1 / 2 ^ 24 = 1 - 2 ^ 28 * ulp := by unfold ulp; norm_num
    _ ≤ 1 - k * ulp := sub_le_sub_left (mul_le_mul_of_nonneg_right hCount Binary.ulp_pos.le) 1
    _ ≤ (1 - ulp) ^ k := one_sub_le_pow k

/-- A delay that a span can hold belongs to an exponent of at most twenty-six bits. -/
theorem exponent_lt (hBase : 10 ^ 6 ≤ base) (hGrows : 1 + growth ≤ w)
    (hHeld : base * w ^ n * (1 - ulp) ^ (n + 3) < 2 ^ 64) : n < 2 ^ 26 := by
  by_contra hMore
  have hRest := sub_pos.mpr Binary.ulp_lt_one
  have hFactor : 1 + 1 / (2 ^ 20 : Nat) ≤ w * (1 - ulp) :=
    calc (1 : ℚ) + 1 / (2 ^ 20 : Nat) ≤ (1 + growth) * (1 - ulp) := by unfold growth ulp; norm_num
      _ ≤ w * (1 - ulp) := mul_le_mul_of_nonneg_right hGrows hRest.le
  have hPower : 2 ^ 64 ≤ (w * (1 - ulp)) ^ n := by
    have hOne : 1 ≤ w * (1 - ulp) := le_trans (by norm_num) hFactor
    apply (two_pow_le_pow (by decide) hFactor 64).trans
    exact pow_le_pow_right₀ hOne (by omega)
  have hThree : 1 ≤ base * (1 - ulp) ^ 3 :=
    calc (1 : ℚ) ≤ 10 ^ 6 * (1 - 1 / 2 ^ 24) := by norm_num
      _ ≤ base * (1 - ulp) ^ 3 :=
        mul_le_mul hBase (one_sub_le_pow_of_few (by decide)) (by norm_num) (by linarith)
  have hTogether : (2 : ℚ) ^ 64 ≤ base * w ^ n * (1 - ulp) ^ (n + 3) :=
    calc (2 : ℚ) ^ 64 ≤ (w * (1 - ulp)) ^ n := hPower
      _ ≤ (w * (1 - ulp)) ^ n * (base * (1 - ulp) ^ 3) :=
        le_mul_of_one_le_right (le_trans (by positivity) hPower) hThree
      _ = base * w ^ n * (1 - ulp) ^ (n + 3) := by rw [mul_pow]; ring
  exact absurd hHeld (not_lt.mpr hTogether)

/-- Of two delays next to each other, each of them off by its roundings, the second is greater by a
nanosecond. -/
theorem add_one_le (hBase : 10 ^ 6 ≤ base) (hGrows : 1 + growth ≤ w) (hFew : n < 2 ^ 26)
    (hLow : base * w ^ n * (1 - ulp) ^ (n + 3) ≤ a) (hHigh : a ≤ base * w ^ n * (1 + ulp) ^ (n + 3))
    (hNext : base * w ^ (n + 1) * (1 - ulp) ^ (n + 4) ≤ b) : a + 1 ≤ b := by
  have hUlp := Binary.ulp_pos
  have hRest := sub_pos.mpr Binary.ulp_lt_one
  have hOne : 1 ≤ w := le_trans (by unfold growth; norm_num) hGrows
  have hExact : 10 ^ 6 ≤ base * w ^ n :=
    le_trans hBase (le_mul_of_one_le_right (by linarith) (one_le_pow₀ hOne))
  -- the delay is hardly less than the base delay
  have hLeast : 999999 ≤ a :=
    calc (999999 : ℚ) ≤ 10 ^ 6 * (1 - 1 / 2 ^ 24) := by norm_num
      _ ≤ base * w ^ n * (1 - ulp) ^ (n + 3) :=
        mul_le_mul hExact (one_sub_le_pow_of_few (by omega)) (by norm_num) (by linarith)
      _ ≤ a := hLow
  -- without its roundings it may be less, but by no more than they could add
  have hBare : a * (1 - ulp) ^ (n + 3) ≤ base * w ^ n :=
    calc a * (1 - ulp) ^ (n + 3)
      _ ≤ base * w ^ n * (1 + ulp) ^ (n + 3) * (1 - ulp) ^ (n + 3) :=
        mul_le_mul_of_nonneg_right hHigh (by positivity)
      _ = base * w ^ n * ((1 + ulp) ^ (n + 3) * (1 - ulp) ^ (n + 3)) := mul_assoc ..
      _ ≤ base * w ^ n := mul_le_of_le_one_right (by linarith) (pow_mul_pow_le_one (n + 3))
  calc a + 1 ≤ a * ((1 + growth) * (1 - 1 / 2 ^ 24)) := by unfold growth; linarith
    _ ≤ a * (w * (1 - ulp) ^ (n + 3 + (n + 4))) := by
      apply mul_le_mul_of_nonneg_left _ (by linarith)
      exact mul_le_mul hGrows (one_sub_le_pow_of_few (by omega)) (by norm_num) (by linarith)
    _ = a * (1 - ulp) ^ (n + 3) * (w * (1 - ulp) ^ (n + 4)) := by rw [pow_add]; ring
    _ ≤ base * w ^ n * (w * (1 - ulp) ^ (n + 4)) :=
      mul_le_mul_of_nonneg_right hBare (by positivity)
    _ = base * w ^ (n + 1) * (1 - ulp) ^ (n + 4) := by rw [pow_succ]; ring
    _ ≤ b := hNext

end Growing

theorem scaled_eq (p : RetryPolicy) (n : Nat) :
    p.scaled n = span (nanosOfFloat? (p.delay (min n maxExponent))) := rfl

/-- A delay that a span can hold is followed by a greater one. -/
theorem scaled_lt_scaled_succ {p : RetryPolicy} {w : ℚ} (hBase : 10 ^ 6 ≤ p.baseDelay)
    (hMultiplier : Near p.multiplier w 0) (hGrows : 1 + growth ≤ w) {n : Nat}
    (hHeld : p.scaled n < maxSpan) : n < 2 ^ 26 ∧ p.scaled n < p.scaled (n + 1) := by
  have hPos : 0 < p.baseDelay := Nat.lt_of_lt_of_le (by decide) hBase
  have hBaseValue : (10 ^ 6 : ℚ) ≤ p.baseDelay := by exact_mod_cast hBase
  have hLast : 2 ^ 26 < maxExponent := by decide
  rw [scaled_eq] at hHeld
  obtain ⟨a, hPosA, hSpan, hSmall, hLow, hHigh⟩ :=
    near_of_held (near_delay hPos hMultiplier _) hHeld
  have hFew := exponent_lt hBaseValue hGrows (hLow.trans_lt hSmall)
  have hSame : min n maxExponent = n := by omega
  have hNextSame : min (n + 1) maxExponent = n + 1 := by omega
  rw [hSame] at hHeld hSpan hLow hHigh hFew
  refine ⟨hFew, ?_⟩
  rw [scaled_eq, scaled_eq, hSame, hNextSame]
  apply lt_span_of_near (near_delay hPos hMultiplier (n + 1)) hHeld
  intro b hNext
  have hMore := add_one_le hBaseValue hGrows hFew hLow hHigh hNext
  have hFloor : (⌊a⌋₊ : ℚ) ≤ a := Nat.floor_le hPosA.le
  rw [hSpan]
  linarith

/-! ### Multipliers -/

theorem ofFloat_two_millionths : ofFloat 1.000002 = .finite false 4503608634569751 (-52) := by
  decide +kernel

theorem normal_two_millionths : Normal 4503608634569751 (-52) := ⟨by decide, by decide, by decide⟩

/-- A multiplier that adds two parts in a million is greater than one, and is itself what it stands
for; one that is infinite stands for any number. -/
theorem near_multiplier {c : RetryConfig} (hMultiplier : 1.000002 ≤ c.multiplier) :
    ∃ w, 1 + growth ≤ w ∧ Near (ofConfig c).multiplier w 0 := by
  have hOne : 1.0 < c.multiplier :=
    Binary.one_lt_of_le ofFloat_two_millionths normal_two_millionths (.inr (by decide)) hMultiplier
  have hSame : (ofConfig c).multiplier = c.multiplier := if_pos hOne
  rw [hSame]
  rcases Binary.cases_of_le ofFloat_two_millionths normal_two_millionths hMultiplier with
    hInfinite | ⟨m, q, hValue, hNormal, hOrder⟩
  · exact ⟨_, le_refl _, .infinite hInfinite⟩
  · refine ⟨value m q, ?_, .finite hValue hNormal ?_ ?_⟩
    · calc 1 + growth ≤ value 4503608634569751 (-52) := by
            simp only [growth, value]
            norm_num
        _ ≤ value m q := Binary.value_le normal_two_millionths hNormal hOrder
    · rw [pow_zero, mul_one]
    · rw [pow_zero, mul_one]

theorem powerOnto_one (n : Nat) : powerOnto 1.0 1.0 n = 1.0 := by
  have hOne : (1.0 : Float) * 1.0 = 1.0 := by decide +kernel
  induction n using Nat.strongRecOn with
  | ind n ih =>
      rw [powerOnto, hOne, ite_self]
      split
      · rfl
      · exact ih _ (by omega)

/-- Without growth each delay is the first. -/
theorem scaled_eq_zero {p : RetryPolicy} (hMultiplier : p.multiplier = 1.0) (n : Nat) :
    p.scaled n = p.scaled 0 := by
  rw [scaled_eq, scaled_eq, delay, delay, hMultiplier, power, power, powerOnto_one, powerOnto_one]

theorem window_of_one {p : RetryPolicy} (hMultiplier : p.multiplier = 1.0) (n : Nat) :
    p.window n = ⟨min (p.scaled 0) p.maxDelay, min (p.scaled 0) p.maxDelay⟩ := by
  rw [window, DelayWindow.ofScale_eq, scaled_eq_zero hMultiplier n,
    scaled_eq_zero hMultiplier (min ..), Nat.max_self]

theorem baseDelay_ge {c : RetryConfig} (hBase : 1 ≤ c.baseDelayMs) :
    10 ^ 6 ≤ (ofConfig c).baseDelay :=
  Nat.mul_le_mul_right Span.nanosPerMilli hBase

theorem low_eq_high_iff (p : RetryPolicy) (n : Nat) (hBelow : (p.window n).low < p.maxDelay) :
    (p.window n).low = (p.window n).high ↔
      p.scaled (min (n + 1) DelayWindow.maxAttempt) ≤ p.scaled n := by
  unfold window at hBelow ⊢
  exact DelayWindow.low_eq_high_iff hBelow

/-- A delay that grows opens the window that it begins. -/
theorem low_lt_high {p : RetryPolicy} {w : ℚ} (hBase : 10 ^ 6 ≤ p.baseDelay)
    (hMultiplier : Near p.multiplier w 0) (hGrows : 1 + growth ≤ w) {n : Nat}
    (hBelow : (p.window n).low < p.maxDelay) (hHeld : (p.window n).low < maxSpan) :
    (p.window n).low < (p.window n).high := by
  have hLow : (p.window n).low = min (p.scaled n) p.maxDelay := DelayWindow.low_ofScale ..
  have hScaled : p.scaled n < maxSpan := by omega
  obtain ⟨hFew, hNext⟩ := scaled_lt_scaled_succ hBase hMultiplier hGrows hScaled
  have hAttempt : min (n + 1) DelayWindow.maxAttempt = n + 1 :=
    Nat.min_eq_left (Nat.le_trans hFew (by decide))
  have hApart : (p.window n).low ≠ (p.window n).high := by
    rw [ne_eq, p.low_eq_high_iff n hBelow, hAttempt, Nat.not_le]
    exact hNext
  exact Nat.lt_of_le_of_ne (DelayWindow.low_le_high_ofScale ..) hApart

/-- Let the base delay be at least a millisecond, and let a window begin below the greatest delay.
It is empty just when the next delay, as it is computed, is not greater than its own. If the
multiplier is at least 1.000002, that happens only to a window that begins at the greatest span
there is; each of the other windows is open, and every wait in it may be picked. A multiplier that
is not greater than one, which includes the least one that is accepted, gives all attempts the same
window, with one wait in it. -/
theorem windows_below_cap (c : RetryConfig) (hBase : 1 ≤ c.baseDelayMs) :
    let p := ofConfig c
    let w := p.window
    (∀ n, (w n).low < p.maxDelay → ((w n).low = (w n).high ↔
      p.scaled (min (n + 1) DelayWindow.maxAttempt) ≤ p.scaled n)) ∧
    (1.000002 ≤ c.multiplier → ∀ n, (w n).low < p.maxDelay → (w n).low < maxSpan →
      (w n).low < (w n).high ∧
        ∀ wait, (w n).low ≤ wait → wait < (w n).high → ∃ chance, (w n).pick chance = wait) ∧
    (¬ 1.0 < c.multiplier → ∀ n, w n = w 0 ∧ (w n).low = (w n).high ∧
      ∀ chance, (w n).pick chance = (w n).low) := by
  refine ⟨(ofConfig c).low_eq_high_iff, fun hMultiplier n hBelow hHeld => ?_, fun hOne n => ?_⟩
  · obtain ⟨growing, hGrows, hNear⟩ := near_multiplier hMultiplier
    constructor
    · exact low_lt_high (baseDelay_ge hBase) hNear hGrows hBelow hHeld
    · intro wait
      exact DelayWindow.exists_pick
  · rw [window_of_one (if_neg hOne) n, window_of_one (if_neg hOne) 0]
    exact ⟨rfl, rfl, fun chance => if_neg (Nat.lt_irrefl _)⟩

/-- By default the base delay doubles, so the first window is open. -/
theorem windows_below_cap_default :
    let c : RetryConfig := {}
    1 ≤ c.baseDelayMs ∧ 1.000002 ≤ c.multiplier ∧
      ((ofConfig c).window 0).low < ((ofConfig c).window 0).high := by
  intro c
  have hBase : 1 ≤ c.baseDelayMs := by decide
  have hMultiplier : 1.000002 ≤ c.multiplier := by decide +kernel
  have hBelow : ((ofConfig c).window 0).low < (ofConfig c).maxDelay := by decide +kernel
  have hHeld : ((ofConfig c).window 0).low < maxSpan := by decide +kernel
  exact ⟨hBase, hMultiplier, ((windows_below_cap c hBase).2.1 hMultiplier 0 hBelow hHeld).1⟩

/-- The least multiplier that is accepted leaves one wait to the first window, far below the
greatest delay. So does one that adds a tenth of a millionth. -/
theorem single_wait_below_cap :
    let least : Config := { retry := { multiplier := 1.0 } }
    let next : Config := { retry := { multiplier := 1.0000001 } }
    (least.validate = .ok () ∧ (ofConfig least.retry).maxDelay = 125000000 ∧
        (ofConfig least.retry).window 0 = ⟨5000000, 5000000⟩) ∧
      (next.validate = .ok () ∧ (ofConfig next.retry).maxDelay = 125000000 ∧
        (ofConfig next.retry).window 0 = ⟨5000000, 5000000⟩) := by
  intro least next
  have hLeast : least.violations = [] := by decide +kernel
  have hNext : next.violations = [] := by decide +kernel
  rw [Config.validate, hLeast, Config.validate, hNext]
  decide +kernel

end RetryPolicy
end BulkLoad
