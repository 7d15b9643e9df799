import BulkLoad.Proofs.Write.Settling

/-!
What a write tells its tracker, and when.

Each overload is signalled as soon as it is met, and the answer that settles the write is signalled
last, as the end of all overload. The times follow from the answers: an answer is dealt with when the
pause before its request is over and it has come. A pause that lasts longer than it should cannot be
told from an answer that takes longer to come, so the answers stand for all clocks.
-/
namespace BulkLoad

namespace Journal

/-- What was recorded in a histogram of that name. -/
def sampled (name : String) (j : Journal) : List Float :=
  j.filterMap fun e =>
    match e with
    | .sample other value => if other = name then some value else none
    | _ => none

@[simp] theorem sampled_append (name : String) (a b : Journal) :
    sampled name (a ++ b) = sampled name a ++ sampled name b :=
  List.filterMap_append

end Journal

namespace Tracker

def hear (t : Tracker) (signals : List Signal) : Tracker :=
  signals.foldl (fun t s => t.signal s.time s.overloaded) t

/-- A tracker that has told all it has to tell. -/
def silent (t : Tracker) : Tracker := t.pause.1

theorem hear_append (t : Tracker) (signals more : List Signal) :
    t.hear (signals ++ more) = (t.hear signals).hear more := by
  simp [hear]

/-- What is left to tell makes no difference to what a signal does. -/
theorem silent_signal {t u : Tracker} (hSame : t.silent = u.silent) (now : Nat)
    (overloaded : Bool) : (t.signal now overloaded).silent = (u.signal now overloaded).silent := by
  rcases t with ⟨worker, started, total, episodes, untold⟩
  rcases u with ⟨worker', started', total', episodes', untold'⟩
  simp only [silent, pause, mk.injEq, and_true] at hSame
  obtain ⟨rfl, rfl, rfl, rfl⟩ := hSame
  cases overloaded <;> cases started <;> rfl

end Tracker

namespace Controller

variable {c : Controller} {r : Answers} {w : Writing} {n : Nat}

/-- How long a write waits after an answer to this attempt that leaves it open. -/
def pause (c : Controller) (attempt : Nat) (x : Exchange) : Nat :=
  match x.reply.verdict with
  | .overloaded => c.backoff
  | .refused _ => (c.policy.window attempt).pick x.chance
  | _ => 0

/-- What a write signals on an answer to this attempt. -/
def signalled (c : Controller) (attempt : Nat) (x : Exchange) : List Bool :=
  match x.reply.verdict with
  | .overloaded => [true]
  | .written => [false]
  | .refused _ => if c.policy.allowsRetry attempt then [] else [false]
  | .crashed => []

theorem signals_step (c : Controller) (w : Writing) (x : Exchange) :
    (c.step w x).2.signalsNewestFirst =
      ((c.signalled w.attempt x).map (⟨w.clock + x.took, ·⟩)).reverse ++ w.signalsNewestFirst := by
  unfold step signalled
  cases x.reply.verdict with
  | written => rfl
  | crashed => rfl
  | overloaded => rfl
  | refused message =>
      by_cases hLeft : c.policy.allowsRetry w.attempt = true
      · simp only [hLeft, if_true]
        rfl
      · rw [Bool.not_eq_true] at hLeft
        simp only [hLeft, Bool.false_eq_true, if_false]
        rfl

namespace Writing

/-- A property of writings that telling, signalling and waiting keep. What a tracker has to tell is
told by waiting only. -/
structure Kept (P : Writing → Prop) : Prop where
  later : ∀ {w}, P w → ∀ clock, P { w with clock }
  again : ∀ {w}, P w → ∀ attempt, P { w with attempt }
  tell : ∀ {w}, P w → ∀ told, Journal.sampled Tracker.histogram told = [] → P (w.tell told)
  signal : ∀ {w}, P w → ∀ overloaded, P (w.signal overloaded)
  wait : ∀ {w}, P w → ∀ span, P (w.wait span)

variable {P : Writing → Prop}

theorem Kept.step (hKept : Kept P) (hBefore : P w) (c : Controller) (x : Exchange) :
    P (c.step w x).2 := by
  unfold Controller.step
  have hLater := hKept.later hBefore (w.clock + x.took)
  cases x.reply.verdict with
  | written => exact hKept.signal hLater false
  | crashed => exact hLater
  | overloaded =>
      have hSignalled := hKept.signal (hKept.tell hLater [.count overloadCounter 1] rfl) true
      exact hKept.again (hKept.wait (hKept.tell hSignalled [c.toldOverload] rfl) c.backoff) 1
  | refused message =>
      by_cases hLeft : c.policy.allowsRetry w.attempt = true
      · simp only [hLeft, if_true]
        refine hKept.again (hKept.wait (hKept.tell hLater _ ?_) _) _
        rfl
      · rw [Bool.not_eq_true] at hLeft
        simp only [hLeft, Bool.false_eq_true, if_false]
        exact hKept.signal (hKept.tell hLater [c.toldExhausted w.attempt message] rfl) false

theorem Kept.follow (hKept : Kept P) (hBefore : P w) (c : Controller) (sentAt : List Nat)
    (xs : List Exchange) : P (c.follow w sentAt xs).writing := by
  induction xs generalizing w sentAt with
  | nil => exact hBefore
  | cons x xs ih =>
      have hNext := hKept.step hBefore c x
      rw [Controller.follow]
      split
      · simp_all
      · simp_all

/-- The tracker knows all that a write has signalled, and nothing else. -/
def Tracked (t : Tracker) (w : Writing) : Prop :=
  w.tracker.silent = (t.hear w.signalsNewestFirst.reverse).silent

theorem kept_tracked (t : Tracker) : Kept (Tracked t) where
  later hTracked _ := hTracked
  again hTracked _ := hTracked
  tell hTracked _ _ := hTracked
  wait hTracked _ := hTracked
  signal {w} hTracked overloaded := by
    rw [Tracked, Writing.signal, List.reverse_cons, Tracker.hear_append]
    exact Tracker.silent_signal hTracked w.clock overloaded

end Writing

theorem clock_step {x : Exchange} (hOpen : (c.step w x).1 = none) :
    (c.step w x).2.clock = w.clock + x.took + c.pause w.attempt x := by
  unfold step at hOpen ⊢
  unfold pause
  cases hVerdict : x.reply.verdict with
  | written => simp [hVerdict] at hOpen
  | crashed => simp [hVerdict] at hOpen
  | overloaded => rfl
  | refused message =>
      by_cases hLeft : c.policy.allowsRetry w.attempt = true
      · simp only [hLeft, if_true]
        rfl
      · simp [hVerdict, hLeft] at hOpen

/-- When a request is due: at once, or when the pause after the answer before is over. -/
def due (c : Controller) (clock : Nat) (r : Answers) : Nat → Nat
  | 0 => clock
  | i + 1 => due c clock r i + (r i).took + c.pause (r.streak i + 1) (r i)

/-- When the answer of that index is dealt with. -/
def heard (c : Controller) (clock : Nat) (r : Answers) (i : Nat) : Nat :=
  c.due clock r i + (r i).took

/-- What a write has signalled on its first `n` answers. -/
def signals (c : Controller) (clock : Nat) (r : Answers) (n : Nat) : List Signal :=
  (List.range n).flatMap fun i =>
    (c.signalled (r.streak i + 1) (r i)).map (⟨c.heard clock r i, ·⟩)

variable {clock : Nat}

theorem due_congr {s : Answers} (hSame : ∀ i < n, s i = r i) (c : Controller) (clock : Nat) :
    c.due clock s n = c.due clock r n := by
  induction n with
  | zero => rfl
  | succ n ih =>
      have hBefore : ∀ i < n, s i = r i := fun i hi => hSame i (Nat.lt_succ_of_lt hi)
      have hStreak := Answers.streak_congr fun i hi => congrArg (·.reply.verdict) (hBefore i hi)
      rw [due, due, ih hBefore, hStreak, hSame n (Nat.lt_succ_self n)]

/-- The times are those of the answers and the pauses, whatever the tracker knows. -/
@[simp] theorem due_withTracker (t : Tracker) (clock : Nat) (r : Answers) (n : Nat) :
    { c with tracker := t }.due clock r n = c.due clock r n := by
  induction n with
  | zero => rfl
  | succ n ih =>
      rw [due, due, ih]
      rfl

theorem heard_withTracker (t : Tracker) (clock : Nat) (r : Answers) (i : Nat) :
    { c with tracker := t }.heard clock r i = c.heard clock r i := by
  simp [heard]

theorem signals_withTracker (t : Tracker) (clock : Nat) (r : Answers) (n : Nat) :
    { c with tracker := t }.signals clock r n = c.signals clock r n := by
  simp only [signals, heard_withTracker]
  rfl

theorem signals_succ (n : Nat) : c.signals clock r (n + 1) = c.signals clock r n ++
    (c.signalled (r.streak n + 1) (r n)).map (⟨c.heard clock r n, ·⟩) := by
  simp [signals, List.range_succ]

/-- An open write keeps the times. -/
structure Timely (c : Controller) (clock : Nat) (r : Answers) (n : Nat) (w : Writing) : Prop where
  now : w.clock = c.due clock r n
  signals : w.signalsNewestFirst = (c.signals clock r n).reverse

/-- One more answer to a timely write is signalled in time. -/
theorem Timely.signals_step (hTimely : Timely c clock r n w) (hAttempt : w.attempt = r.streak n + 1) :
    (c.step w (r n)).2.signalsNewestFirst = (c.signals clock r (n + 1)).reverse := by
  rw [Controller.signals_step, hTimely.now, hTimely.signals, hAttempt, signals_succ,
    List.reverse_append, heard]

theorem timely_of_open (hQuiet : c.tracker.Quiet) (hReplies : ∀ i < n, r.verdict i ≠ .crashed)
    (hOpen : r.Open c.policy.maxRetries n) (clock : Nat) :
    Timely c clock r n (c.after clock r n).writing := by
  induction n with
  | zero => exact ⟨rfl, rfl⟩
  | succ n ih =>
      have hNone := (standing_of_open hQuiet hReplies hOpen clock).ended
      have hBefore := hOpen.mono (Nat.le_succ n)
      have hRepliesBefore : ∀ i < n, r.verdict i ≠ .crashed :=
        fun i hi => hReplies i (Nat.lt_succ_of_lt hi)
      have hStanding := standing_of_open hQuiet hRepliesBefore hBefore clock
      have hTimely := ih hRepliesBefore hBefore
      rw [after_succ_of_open hStanding.ended] at hNone ⊢
      refine ⟨?_, hTimely.signals_step hStanding.attempt⟩
      rw [clock_step hNone, hTimely.now, hStanding.attempt, due]

/-- When a write is settled, that is signalled too. -/
theorem signals_of_settled (hQuiet : c.tracker.Quiet) (hReplies : ∀ i < n, r.verdict i ≠ .crashed)
    (hFirst : r.SettlesFirst c.policy.maxRetries n) (clock : Nat) :
    (c.after clock r n).writing.signalsNewestFirst = (c.signals clock r n).reverse := by
  cases n with
  | zero => exact absurd hFirst.1.1 (Nat.lt_irrefl 0)
  | succ n =>
      have hOpen := hFirst.open_of_succ
      have hBefore : ∀ i < n, r.verdict i ≠ .crashed :=
        fun i hi => hReplies i (Nat.lt_succ_of_lt hi)
      have hStanding := standing_of_open hQuiet hBefore hOpen clock
      rw [after_succ_of_open hStanding.ended]
      exact (timely_of_open hQuiet hBefore hOpen clock).signals_step hStanding.attempt

/-- An answer that leaves a write open is signalled if it is an overload. -/
theorem signalled_of_open (hReply : r.verdict n ≠ .crashed)
    (hOpen : r.Open c.policy.maxRetries (n + 1)) :
    c.signalled (r.streak n + 1) (r n) = if r.verdict n = .overloaded then [true] else [] := by
  have hNext := hOpen (n + 1) (Nat.le_refl _)
  rw [Answers.settles_succ_iff, not_or] at hNext
  unfold signalled
  cases hVerdict : r.verdict n with
  | crashed => exact absurd hVerdict hReply
  | written => exact absurd hVerdict hNext.1
  | overloaded =>
      rw [Answers.verdict] at hVerdict
      simp [hVerdict]
  | refused message =>
      have hStreak := Answers.streak_succ_of_refused (r := r) (n := n) (by rw [hVerdict]; rfl)
      have hLeft : r.streak n + 1 < c.policy.maxRetries := by omega
      rw [Answers.verdict] at hVerdict
      simp [hVerdict, RetryPolicy.allowsRetry, hLeft]

/-- The answer that settles a write is signalled as the end of overload. -/
theorem signalled_of_first (hReply : r.verdict n ≠ .crashed)
    (hPolicy : 1 ≤ c.policy.maxRetries) (hFirst : r.SettlesFirst c.policy.maxRetries (n + 1)) :
    c.signalled (r.streak n + 1) (r n) = [false] := by
  have hLast := hFirst.1
  have hLeft := hFirst.open_of_succ.streak_lt hPolicy
  rw [Answers.settles_succ_iff] at hLast
  unfold signalled
  cases hVerdict : r.verdict n with
  | crashed => exact absurd hVerdict hReply
  | written =>
      rw [Answers.verdict] at hVerdict
      simp [hVerdict]
  | overloaded =>
      have hStreak := Answers.streak_succ_of_not_refused (r := r) (n := n) (by rw [hVerdict]; rfl)
      rw [hVerdict, hStreak] at hLast
      exact absurd hLast (by simp; omega)
  | refused message =>
      have hStreak := Answers.streak_succ_of_refused (r := r) (n := n) (by rw [hVerdict]; rfl)
      have hNone : ¬r.streak n + 1 < c.policy.maxRetries := by
        have hFull : c.policy.maxRetries ≤ r.streak (n + 1) := by simpa [hVerdict] using hLast
        omega
      rw [Answers.verdict] at hVerdict
      simp [hVerdict, RetryPolicy.allowsRetry, hNone]

/-- While a write is open it has signalled its overloads, and nothing else. -/
theorem overloaded_signals_of_open (clock : Nat) (hReplies : ∀ i < n, r.verdict i ≠ .crashed)
    (hOpen : r.Open c.policy.maxRetries n) :
    (c.signals clock r n).map Signal.overloaded = List.replicate (r.overloads n) true := by
  induction n with
  | zero => rfl
  | succ n ih =>
      have hBefore := ih (fun i hi => hReplies i (Nat.lt_succ_of_lt hi)) (hOpen.mono (Nat.le_succ n))
      rw [signals_succ, List.map_append, hBefore, signalled_of_open (hReplies n (Nat.lt_succ_self n)) hOpen,
        Answers.overloads_succ]
      by_cases hOverloaded : r.verdict n = .overloaded
      · simp [hOverloaded, List.replicate_succ']
      · simp [hOverloaded]

/-- The first signal of an open write is that of its first overload. -/
theorem head?_signals_of_open (clock : Nat) (hReplies : ∀ i < n, r.verdict i ≠ .crashed)
    (hOpen : r.Open c.policy.maxRetries n) :
    (c.signals clock r n).head? = (r.firstOverload? n).map fun i => ⟨c.heard clock r i, true⟩ := by
  induction n with
  | zero => rfl
  | succ n ih =>
      have hBefore := ih (fun i hi => hReplies i (Nat.lt_succ_of_lt hi)) (hOpen.mono (Nat.le_succ n))
      rw [signals_succ, List.head?_append, hBefore,
        signalled_of_open (hReplies n (Nat.lt_succ_self n)) hOpen, Answers.firstOverload?_succ]
      by_cases hOverloaded : r.verdict n = .overloaded
      · cases hFirst : r.firstOverload? n <;> simp [hOverloaded]
      · cases hFirst : r.firstOverload? n <;> simp [hOverloaded]

/-- Each overload puts the next request off by the time for which the server is left alone, so the
first of them lies as far back as all of them together take. -/
theorem overloads_mul_backoff_le (c : Controller) (clock : Nat) {first : Nat}
    (hFirst : r.firstOverload? n = some first) :
    c.heard clock r first + r.overloads n * c.backoff ≤ c.due clock r n := by
  induction n with
  | zero => cases hFirst
  | succ n ih =>
      rw [Answers.overloads_succ, due]
      rw [Answers.firstOverload?_succ] at hFirst
      by_cases hOverloaded : r.verdict n = .overloaded
      · have hPause : c.pause (r.streak n + 1) (r n) = c.backoff := by
          rw [Answers.verdict] at hOverloaded
          simp [pause, hOverloaded]
        rw [if_pos hOverloaded] at hFirst ⊢
        rw [hPause, Nat.succ_mul]
        cases hBefore : r.firstOverload? n with
        | none =>
            obtain rfl : n = first := by simpa [hBefore] using hFirst
            rw [Answers.firstOverload?_eq_none_iff.mp hBefore, heard]
            omega
        | some earlier =>
            obtain rfl : earlier = first := by simpa [hBefore] using hFirst
            have hSum := ih hBefore
            omega
      · rw [if_neg hOverloaded] at hFirst ⊢
        rw [Option.or_none] at hFirst
        have hSum := ih hFirst
        rw [Nat.add_zero]
        omega

/-- A write that is settled has signalled each overload, and then once the end. -/
theorem signals_of_first (clock : Nat) (hReplies : ∀ i < n + 1, r.verdict i ≠ .crashed)
    (hPolicy : 1 ≤ c.policy.maxRetries) (hFirst : r.SettlesFirst c.policy.maxRetries (n + 1)) :
    c.signals clock r (n + 1) = c.signals clock r n ++ [⟨c.heard clock r n, false⟩] ∧
      r.verdict n ≠ .overloaded := by
  have hLast := signalled_of_first (hReplies n (Nat.lt_succ_self n)) hPolicy hFirst
  refine ⟨by rw [signals_succ, hLast]; rfl, fun hOverloaded => ?_⟩
  rw [Answers.verdict] at hOverloaded
  simp [signalled, hOverloaded] at hLast

/-- The same answers, made to come at given times. -/
def delayed (c : Controller) (clock : Nat) (r : Answers) (times : Nat → Nat) : Answers
  | 0 => { r 0 with took := times 0 - clock }
  | i + 1 => { r (i + 1) with took := times (i + 1) - (times i + c.pause (r.streak i + 1) (r i)) }

@[simp] theorem reply_delayed (times : Nat → Nat) (i : Nat) :
    (c.delayed clock r times i).reply = (r i).reply := by
  cases i <;> rfl

@[simp] theorem chance_delayed (times : Nat → Nat) (i : Nat) :
    (c.delayed clock r times i).chance = (r i).chance := by
  cases i <;> rfl

theorem verdict_delayed (times : Nat → Nat) (i : Nat) :
    (c.delayed clock r times).verdict i = r.verdict i := by
  rw [Answers.verdict, reply_delayed, Answers.verdict]

/-- A pause goes by what was said and not by how long that took. -/
theorem pause_delayed (times : Nat → Nat) (attempt i : Nat) :
    c.pause attempt (c.delayed clock r times i) = c.pause attempt (r i) := by
  simp [pause]

/-- Any times that leave room for the pauses are the times of some answers: no clock is left out. -/
theorem heard_delayed {times : Nat → Nat} (hStart : clock ≤ times 0)
    (hNext : ∀ i, i + 1 < n → times i + c.pause (r.streak i + 1) (r i) ≤ times (i + 1)) :
    ∀ i < n, c.heard clock (c.delayed clock r times) i = times i := by
  intro i
  induction i with
  | zero =>
      intro _
      simp only [heard, due, delayed]
      omega
  | succ i ih =>
      intro hi
      have hBefore := ih (Nat.lt_of_succ_lt hi)
      have hRoom := hNext i hi
      rw [heard] at hBefore
      rw [heard, due, hBefore, pause_delayed,
        Answers.streak_congr fun j _ => verdict_delayed times j]
      simp only [delayed]
      omega

end Controller
end BulkLoad
