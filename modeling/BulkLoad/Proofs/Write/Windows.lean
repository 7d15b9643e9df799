import Mathlib.Algebra.Order.Floor.Semifield
import Mathlib.Data.Rat.Floor
import BulkLoad.Proofs.Decimal.Doubles
import BulkLoad.Write.Retry

/-!
Windows of delays under exact arithmetic.

When the powers of the multiplier are taken without rounding, the delays that belong to them do not
shrink. Then each window ends where the next one begins, whatever is cut off at the greatest power,
the greatest span and the greatest delay.
-/
namespace BulkLoad

namespace DelayWindow

variable {s : Nat → Nat} {maxDelay : Nat}

/-- A window reaches from its own delay to that of the next attempt, both cut at the greatest. -/
theorem ofScale_eq (s : Nat → Nat) (maxDelay attempt : Nat) :
    ofScale s maxDelay attempt =
      ⟨min (s attempt) maxDelay,
        max (min (s (min (attempt + 1) maxAttempt)) maxDelay) (min (s attempt) maxDelay)⟩ := by
  simp only [ofScale]
  split
  · rename_i hReached
    rw [Nat.min_eq_right hReached, Nat.max_eq_right (Nat.min_le_right ..)]
  · rename_i hBelow
    rw [Nat.min_eq_left (Nat.le_of_not_le hBelow)]

/-- Two delays have one window where they agree for its attempt and for the next. -/
theorem ofScale_congr {s t : Nat → Nat} {attempt : Nat} (hHere : s attempt = t attempt)
    (hNext : s (min (attempt + 1) maxAttempt) = t (min (attempt + 1) maxAttempt)) (maxDelay : Nat) :
    ofScale s maxDelay attempt = ofScale t maxDelay attempt := by
  rw [ofScale_eq, ofScale_eq, hHere, hNext]

theorem low_ofScale (s : Nat → Nat) (maxDelay attempt : Nat) :
    (ofScale s maxDelay attempt).low = min (s attempt) maxDelay := by
  rw [ofScale_eq]

theorem low_le_high_ofScale (s : Nat → Nat) (maxDelay attempt : Nat) :
    (ofScale s maxDelay attempt).low ≤ (ofScale s maxDelay attempt).high := by
  rw [ofScale_eq]
  exact Nat.le_max_right ..

theorem high_ofScale_le (s : Nat → Nat) (maxDelay attempt : Nat) :
    (ofScale s maxDelay attempt).high ≤ maxDelay := by
  rw [ofScale_eq]
  exact Nat.max_le.mpr ⟨Nat.min_le_right .., Nat.min_le_right ..⟩

/-- A wait lies below the end of its window unless the window has one wait only. -/
theorem pick_le_high {w : DelayWindow} (hOrdered : w.low ≤ w.high) (chance : Nat) :
    w.pick chance ≤ w.high := by
  by_cases hOpen : w.low < w.high
  · exact Nat.le_of_lt (pick_lt_high hOpen chance)
  · rw [pick, if_neg hOpen]
    exact hOrdered

/-- Delays that do not shrink have windows that adjoin. -/
theorem high_ofScale (hMono : Monotone s) {attempt : Nat} (hNext : attempt < maxAttempt) :
    (ofScale s maxDelay attempt).high = (ofScale s maxDelay (attempt + 1)).low := by
  have hStep : min (s attempt) maxDelay ≤ min (s (attempt + 1)) maxDelay :=
    min_le_min_right maxDelay (hMono (Nat.le_succ attempt))
  rw [low_ofScale, ofScale_eq, Nat.min_eq_left (show attempt + 1 ≤ maxAttempt from hNext)]
  exact Nat.max_eq_left hStep

/-- A later attempt waits at least as long. -/
theorem pick_ofScale_le (hMono : Monotone s) {i j : Nat} (hBefore : i < j) (hLast : j ≤ maxAttempt)
    (a b : Nat) : (ofScale s maxDelay i).pick a ≤ (ofScale s maxDelay j).pick b :=
  calc (ofScale s maxDelay i).pick a
    _ ≤ (ofScale s maxDelay i).high := pick_le_high (low_le_high_ofScale s maxDelay i) a
    _ = min (s (i + 1)) maxDelay := by
      rw [high_ofScale hMono (Nat.lt_of_lt_of_le hBefore hLast), low_ofScale]
    _ ≤ min (s j) maxDelay := min_le_min_right maxDelay (hMono hBefore)
    _ = (ofScale s maxDelay j).low := (low_ofScale s maxDelay j).symm
    _ ≤ (ofScale s maxDelay j).pick b := low_le_pick _ b

/-- Once the greatest delay is reached there is no other. -/
theorem pick_ofScale_of_reached (hMono : Monotone s) {n k : Nat} (hReached : maxDelay ≤ s n)
    (hAfter : n ≤ k) (chance : Nat) : (ofScale s maxDelay k).pick chance = maxDelay := by
  have hLow : (ofScale s maxDelay k).low = maxDelay := by
    rw [low_ofScale]
    exact Nat.min_eq_right (Nat.le_trans hReached (hMono hAfter))
  apply Nat.le_antisymm
  · exact Nat.le_trans (pick_le_high (low_le_high_ofScale s maxDelay k) chance)
      (high_ofScale_le s maxDelay k)
  · exact hLow.symm.trans_le (low_le_pick _ chance)

end DelayWindow

namespace RetryPolicy

open Decimal (Binary)

/-- The whole nanoseconds of the base delay times a power of the multiplier, without rounding. The
zeroth power is one, and no other power of an infinite multiplier gives a number. -/
def exactNanos? (p : RetryPolicy) (exponent : Nat) : Option Nat :=
  match Binary.ofFloat p.multiplier with
  | .finite _ m q =>
    some (p.baseDelay * Binary.num m q ^ exponent / Binary.den q ^ exponent)
  | _ => if exponent = 0 then some p.baseDelay else none

def exactlyScaled (p : RetryPolicy) : Nat → Nat := scaledBy p.exactNanos?

/-- The window of the wait after an attempt, by exact powers. -/
def exactWindow (p : RetryPolicy) (attempt : Nat) : DelayWindow :=
  .ofScale p.exactlyScaled p.maxDelay attempt

/-- Where the delays are computed without an error, the window that is computed is the exact one. -/
theorem window_eq_exactWindow {p : RetryPolicy} {attempt : Nat}
    (hHere : p.scaled attempt = p.exactlyScaled attempt)
    (hNext : p.scaled (min (attempt + 1) DelayWindow.maxAttempt) =
      p.exactlyScaled (min (attempt + 1) DelayWindow.maxAttempt)) :
    p.window attempt = p.exactWindow attempt :=
  DelayWindow.ofScale_congr hHere hNext p.maxDelay

/-- By default the base delay is multiplied by powers of two, so that nothing is rounded. -/
example : (ofConfig {}).window 4 = (ofConfig {}).exactWindow 4 :=
  window_eq_exactWindow (by decide +kernel) (by decide +kernel)

/-- A span does not shrink when the nanoseconds grow out of all bounds. -/
theorem span_le_span {a b : Option Nat} (hGrows : ∀ n ∈ b, ∃ m ∈ a, m ≤ n) : span a ≤ span b := by
  cases b with
  | none => exact Nat.min_le_right ..
  | some n =>
      obtain ⟨m, rfl, hLe⟩ := hGrows n rfl
      exact min_le_min_right maxSpan hLe

theorem scaledBy_mono {nanos? : Nat → Option Nat}
    (hGrows : ∀ i j, i ≤ j → ∀ n ∈ nanos? j, ∃ m ∈ nanos? i, m ≤ n) : Monotone (scaledBy nanos?) := by
  intro i j hLe
  exact span_le_span (hGrows _ _ (min_le_min_right maxExponent hLe))

/-- A fraction of at least one does not shrink what it is multiplied to. -/
theorem mul_pow_div_pow_le {num den : Nat} (hDen : 0 < den) (hOne : den ≤ num) (base : Nat)
    {i j : Nat} (hLe : i ≤ j) : base * num ^ i / den ^ i ≤ base * num ^ j / den ^ j := by
  obtain ⟨k, rfl⟩ := Nat.exists_eq_add_of_le hLe
  rw [Nat.le_div_iff_mul_le (Nat.pow_pos hDen)]
  calc base * num ^ i / den ^ i * den ^ (i + k)
    _ = base * num ^ i / den ^ i * den ^ i * den ^ k := by rw [pow_add, Nat.mul_assoc]
    _ ≤ base * num ^ i * num ^ k :=
      Nat.mul_le_mul (Nat.div_mul_le_self ..) (Nat.pow_le_pow_left hOne k)
    _ = base * num ^ (i + k) := by rw [pow_add, Nat.mul_assoc]

theorem exactlyScaled_mono {p : RetryPolicy} (hMultiplier : 1.0 ≤ p.multiplier) :
    Monotone p.exactlyScaled := by
  apply scaledBy_mono
  intro i j hLe n hn
  rcases (Binary.one_le_iff p.multiplier).mp hMultiplier with hValue | ⟨m, q, hValue, hOne⟩
  · simp only [exactNanos?, hValue] at hn ⊢
    by_cases hZero : j = 0
    · obtain rfl : i = 0 := by omega
      rw [hZero] at hn
      exact ⟨n, hn, Nat.le_refl n⟩
    · rw [if_neg hZero] at hn
      cases hn
  · simp only [exactNanos?, hValue] at hn ⊢
    obtain rfl := Option.some.inj hn
    exact ⟨_, rfl, mul_pow_div_pow_le (Binary.den_pos q) hOne _ hLe⟩

theorem exactlyScaled_of_finite {p : RetryPolicy} {negative : Bool} {m : Nat} {q : Int}
    (hValue : Binary.ofFloat p.multiplier = .finite negative m q) (n : Nat) :
    p.exactlyScaled n =
      min ⌊(p.baseDelay : ℚ) * ((m : ℚ) * 2 ^ q) ^ min n (2 ^ 31 - 1)⌋₊ (2 ^ 64 - 1) := by
  have hFloor : ∀ k, ⌊(p.baseDelay : ℚ) * ((m : ℚ) * 2 ^ q) ^ k⌋₊ =
      p.baseDelay * Binary.num m q ^ k / Binary.den q ^ k := by
    intro k
    rw [← Binary.num_div_den, div_pow, mul_div_assoc', ← Nat.floor_div_eq_div (K := ℚ)]
    push_cast
    rfl
  rw [hFloor, exactlyScaled, scaledBy, exactNanos?, hValue]
  rfl

theorem exactlyScaled_of_infinite {p : RetryPolicy} {negative : Bool}
    (hValue : Binary.ofFloat p.multiplier = .infinite negative) (n : Nat) :
    p.exactlyScaled n = if n = 0 then min p.baseDelay (2 ^ 64 - 1) else 2 ^ 64 - 1 := by
  have hPos : 0 < maxExponent := by decide
  have hZero : min n maxExponent = 0 ↔ n = 0 := by omega
  simp only [exactlyScaled, scaledBy, exactNanos?, hValue, hZero]
  split <;> rfl

/-- Let `s n` be the whole nanoseconds of the base delay times the `n`-th power of the multiplier,
without rounding but cut off at the greatest power and the greatest span. If the multiplier is at
least one, then the window of each attempt begins at `s n` and ends where the next one begins, both
cut at the greatest delay. So a later attempt never waits less than an earlier one, each wait lies in
its window, and from where `s n` reaches the greatest delay on it is the only wait there is. -/
theorem exact_windows_tile (p : RetryPolicy) (hMultiplier : 1.0 ≤ p.multiplier) :
    let s := p.exactlyScaled
    let w := p.exactWindow
    ((∃ m q, Binary.ofFloat p.multiplier = .finite false m q ∧ ∀ n,
        s n = min ⌊(p.baseDelay : ℚ) * ((m : ℚ) * 2 ^ q) ^ min n (2 ^ 31 - 1)⌋₊ (2 ^ 64 - 1)) ∨
      (Binary.ofFloat p.multiplier = .infinite false ∧ ∀ n,
        s n = if n = 0 then min p.baseDelay (2 ^ 64 - 1) else 2 ^ 64 - 1)) ∧
    (∀ n, (w n).low = min (s n) p.maxDelay ∧ (w n).low ≤ (w n).high ∧ (w n).high ≤ p.maxDelay) ∧
    (∀ n, n < DelayWindow.maxAttempt → (w n).high = (w (n + 1)).low) ∧
    (∀ i j, i < j → j ≤ DelayWindow.maxAttempt → ∀ a b, (w i).pick a ≤ (w j).pick b) ∧
    (∀ n chance, (w n).low ≤ (w n).pick chance ∧ (w n).pick chance ≤ p.maxDelay ∧
      ((w n).low ≠ (w n).high → (w n).pick chance < (w n).high)) ∧
    (∀ n, p.maxDelay ≤ s n → ∀ k, n ≤ k → ∀ chance, (w k).pick chance = p.maxDelay) := by
  intro s w
  have hMono : Monotone s := exactlyScaled_mono hMultiplier
  have hOrdered : ∀ n, (w n).low ≤ (w n).high := DelayWindow.low_le_high_ofScale s p.maxDelay
  have hMost : ∀ n, (w n).high ≤ p.maxDelay := DelayWindow.high_ofScale_le s p.maxDelay
  refine ⟨?_, ?_, ?_, ?_, ?_, ?_⟩
  · rcases (Binary.one_le_iff p.multiplier).mp hMultiplier with hValue | ⟨m, q, hValue, -⟩
    · exact .inr ⟨hValue, exactlyScaled_of_infinite hValue⟩
    · exact .inl ⟨m, q, hValue, exactlyScaled_of_finite hValue⟩
  · intro n
    exact ⟨DelayWindow.low_ofScale s p.maxDelay n, hOrdered n, hMost n⟩
  · intro n hNext
    exact DelayWindow.high_ofScale hMono hNext
  · intro i j hBefore hLast a b
    exact DelayWindow.pick_ofScale_le hMono hBefore hLast a b
  · intro n chance
    have hPick := DelayWindow.pick_le_high (hOrdered n) chance
    refine ⟨DelayWindow.low_le_pick (w n) chance, Nat.le_trans hPick (hMost n), fun hOpen => ?_⟩
    exact DelayWindow.pick_lt_high (Nat.lt_of_le_of_ne (hOrdered n) hOpen) chance
  · intro n hReached k hAfter chance
    exact DelayWindow.pick_ofScale_of_reached hMono hReached hAfter chance

/-- The rules that are set by default double five milliseconds, and wait for a hundred and
twenty-five from the fifth attempt on. -/
theorem exact_windows_tile_default :
    let p := ofConfig {}
    1.0 ≤ p.multiplier ∧ ∀ k, 5 ≤ k → ∀ chance, (p.exactWindow k).pick chance = 125000000 := by
  intro p
  have hMultiplier : 1.0 ≤ p.multiplier := by decide +kernel
  have hReached : p.maxDelay ≤ p.exactlyScaled 5 := by decide +kernel
  obtain ⟨-, -, -, -, -, hLast⟩ := exact_windows_tile p hMultiplier
  exact ⟨hMultiplier, fun k hAfter chance => hLast 5 hReached k hAfter chance⟩

end RetryPolicy
end BulkLoad
