import BulkLoad.Config.Basic

/-!
How long to wait before a refused write is tried again.

The wait after an attempt lies in a window. The windows follow the powers of a multiplier, the end
of one being the beginning of the next, until the greatest delay is reached.
-/
namespace BulkLoad

/-- The waits from `low` up to, but not including, `high`; only `low` if the two are equal. -/
structure DelayWindow where
  low : Nat
  high : Nat
  deriving DecidableEq, Repr

namespace DelayWindow

/-- The wait that a chance number picks. -/
def pick (w : DelayWindow) (chance : Nat) : Nat :=
  if w.low < w.high then w.low + chance % (w.high - w.low) else w.low

theorem low_le_pick (w : DelayWindow) (chance : Nat) : w.low ≤ w.pick chance := by
  unfold pick; split <;> omega

theorem pick_lt_high {w : DelayWindow} (hOpen : w.low < w.high) (chance : Nat) :
    w.pick chance < w.high := by
  have hMod := Nat.mod_lt chance (Nat.sub_pos_of_lt hOpen)
  simp only [pick, hOpen, if_true]
  omega

/-- The greatest attempt number. -/
def maxAttempt : Nat := Nat.pow 2 32 - 1

/-- The window after an attempt, by the delay that belongs to each power. -/
def ofScale (scaled : Nat → Nat) (maxDelay attempt : Nat) : DelayWindow :=
  let low := scaled attempt
  let high := min (scaled (min (attempt + 1) maxAttempt)) maxDelay
  if maxDelay ≤ low then ⟨maxDelay, maxDelay⟩ else ⟨low, max high low⟩

end DelayWindow

/-- The rules for trying again; the delays are spans of time. -/
structure RetryPolicy where
  maxRetries : Nat
  baseDelay : Nat
  multiplier : Float
  maxDelay : Nat

namespace RetryPolicy

/-- At least one attempt is made, and the delays do not shrink. -/
def ofConfig (c : RetryConfig) : RetryPolicy where
  maxRetries := max c.maxRetries 1
  baseDelay := Span.ofMillis c.baseDelayMs
  multiplier := if 1.0 < c.multiplier then c.multiplier else 1.0
  maxDelay := Span.ofMillis c.maxDelayMs

instance : Inhabited RetryPolicy := ⟨ofConfig {}⟩

/-- A power by repeated squaring: the bits of the exponent from the lowest up. -/
def powerOnto (result x : Float) (n : Nat) : Float :=
  let result := if n % 2 = 1 then result * x else result
  if n / 2 = 0 then result else powerOnto result (x * x) (n / 2)
termination_by n
decreasing_by omega

def power (x : Float) (n : Nat) : Float := powerOnto 1.0 x n

/-- The greatest power taken. -/
def maxExponent : Nat := Nat.pow 2 31 - 1

/-- The greatest delay that can be written down. -/
def maxSpan : Nat := Nat.pow 2 64 - 1

/-- A number of whole nanoseconds as a span; what is too large, or no number, is the greatest. -/
def span (nanos : Option Nat) : Nat := min (nanos.getD maxSpan) maxSpan

/-- The whole nanoseconds of a double, if a span can hold them. -/
def nanosOfFloat? (x : Float) : Option Nat :=
  if !x.isFinite || Float.ofNat maxSpan ≤ x then none else some x.toUInt64.toNat

/-- The delay that belongs to each power, by the nanoseconds that a power makes of the base delay. -/
def scaledBy (nanos? : Nat → Option Nat) (exponent : Nat) : Nat :=
  span (nanos? (min exponent maxExponent))

/-- The base delay times a power of the multiplier. -/
def scaled (p : RetryPolicy) : Nat → Nat :=
  scaledBy fun exponent => nanosOfFloat? (Float.ofNat p.baseDelay * power p.multiplier exponent)

/-- The window of the wait after the attempt of that number. -/
def window (p : RetryPolicy) (attempt : Nat) : DelayWindow :=
  .ofScale p.scaled p.maxDelay attempt

/-- Whether another attempt may follow so many. -/
def allowsRetry (p : RetryPolicy) (attempts : Nat) : Bool := attempts < p.maxRetries

end RetryPolicy
end BulkLoad
