import BulkLoad.Write.Controller
import BulkLoad.Proofs.Write.Answers
import Mathlib.Tactic.Set

/-!
What one write does against any sequence of answers.

Each answer that leaves a write open moves it on in the same way, so where a write stands is known
from the answers alone. The main statement follows the write to the request that settles it, and
tells when there is none.
-/
namespace BulkLoad

namespace Journal

@[simp] theorem counted_cons (name : String) (e : Event) (j : Journal) :
    counted name (e :: j) = e.amount name + counted name j := rfl

@[simp] theorem counted_reverse (name : String) (j : Journal) :
    counted name j.reverse = counted name j := by
  induction j with
  | nil => rfl
  | cons e j ih => simp [ih, Nat.add_comm]

@[simp] theorem amount_say (name : String) (level : Level) (target message : String)
    (fields : List (String × Datum)) : (say level target message fields).amount name = 0 := rfl

@[simp] theorem amount_sample (name other : String) (value : Float) :
    (Event.sample other value).amount name = 0 := rfl

@[simp] theorem amount_count (name : String) (amount : Nat) :
    (Event.count name amount).amount name = amount := if_pos rfl

theorem amount_count_of_ne {name other : String} (hOther : other ≠ name) (amount : Nat) :
    (Event.count other amount).amount name = 0 := if_neg hOther

end Journal

open Journal

/-- What the tracker has left to tell is about times only and adds to no counter. -/
def Tracker.Quiet (t : Tracker) : Prop := ∀ name, counted name t.untold = 0

theorem Tracker.Quiet.signal {t : Tracker} (hQuiet : t.Quiet) (now : Nat) (overloaded : Bool) :
    (t.signal now overloaded).Quiet := by
  intro name
  have hBefore := hQuiet name
  unfold Tracker.signal
  split
  · exact hBefore
  · simp [hBefore, finished, amount_sample]
  · exact hBefore

namespace Controller

theorem quiet_ofConfig (destination : Destination) (config : RetryConfig) :
    (ofConfig destination config).tracker.Quiet := fun _ => rfl

namespace Writing

/-- What a write has added to a counter so far. -/
def counted (w : Writing) (name : String) : Nat := Journal.counted name w.toldNewestFirst

@[simp] theorem counted_tell (w : Writing) (told : Journal) (name : String) :
    (w.tell told).counted name = Journal.counted name told + w.counted name := by
  simp [counted, tell]

@[simp] theorem counted_clock (w : Writing) (clock : Nat) (name : String) :
    { w with clock }.counted name = w.counted name := rfl

@[simp] theorem counted_signal (w : Writing) (overloaded : Bool) (name : String) :
    (w.signal overloaded).counted name = w.counted name := rfl

theorem counted_wait {w : Writing} (hQuiet : w.tracker.Quiet) (span : Nat) (name : String) :
    (w.wait span).counted name = w.counted name := by
  simp [wait, Tracker.pause, tell, counted, hQuiet name]

theorem quiet_wait (w : Writing) (span : Nat) : (w.wait span).tracker.Quiet := fun _ => rfl

end Writing

variable {c : Controller} {r : Answers} {w : Writing} {n : Nat}

/-- What an answer leaves behind when the write goes on: the attempt that comes next, and what was
added to the counters. -/
structure Continues (w next : Writing) (attempt overloads refusals : Nat) : Prop where
  attempt : next.attempt = attempt
  quiet : next.tracker.Quiet
  overloads : next.counted overloadCounter = w.counted overloadCounter + overloads
  retries : next.counted retryCounter = w.counted retryCounter + refusals

/-- A write goes on with a pause, which tells nothing that counts. -/
theorem Continues.of_wait {told : Writing} {attempt overloads refusals : Nat} (span : Nat)
    (hQuiet : told.tracker.Quiet)
    (hOverloads : told.counted overloadCounter = w.counted overloadCounter + overloads)
    (hRefusals : told.counted retryCounter = w.counted retryCounter + refusals) :
    Continues w { told.wait span with attempt } attempt overloads refusals where
  attempt := rfl
  quiet := Writing.quiet_wait told span
  overloads := (Writing.counted_wait hQuiet span _).trans hOverloads
  retries := (Writing.counted_wait hQuiet span _).trans hRefusals

theorem retryCounter_ne_overloadCounter : retryCounter ≠ overloadCounter := by decide

theorem step_of_overloaded {x : Exchange} (hVerdict : x.reply.verdict = .overloaded)
    (hQuiet : w.tracker.Quiet) :
    (c.step w x).1 = none ∧ Continues w (c.step w x).2 1 1 0 := by
  simp only [step, hVerdict, true_and]
  refine .of_wait _ (hQuiet.signal _ _) ?_ ?_
  · simp [toldOverload, Nat.add_comm]
  · simp [toldOverload, amount_count_of_ne retryCounter_ne_overloadCounter.symm]

theorem step_of_refused {x : Exchange} {message : String}
    (hVerdict : x.reply.verdict = .refused message) (hQuiet : w.tracker.Quiet)
    (hLeft : w.attempt < c.policy.maxRetries) :
    (c.step w x).1 = none ∧ Continues w (c.step w x).2 (w.attempt + 1) 0 1 := by
  simp only [step, hVerdict, RetryPolicy.allowsRetry, hLeft, decide_true, if_true, true_and]
  refine .of_wait _ hQuiet ?_ ?_
  · simp [toldRetry, amount_count_of_ne retryCounter_ne_overloadCounter]
  · simp [toldRetry, Nat.add_comm]

/-- The refusal of the last attempt ends the write, and counts as no retry. -/
theorem step_of_last_refused {x : Exchange} {message : String}
    (hVerdict : x.reply.verdict = .refused message) (hQuiet : w.tracker.Quiet)
    (hLast : c.policy.maxRetries ≤ w.attempt) :
    (c.step w x).1 = some (.failed (.retriesExhausted w.attempt message)) ∧
      Continues w (c.step w x).2 w.attempt 0 0 := by
  have hNone : ¬w.attempt < c.policy.maxRetries := by omega
  simp only [step, hVerdict, RetryPolicy.allowsRetry, hNone, decide_false, Bool.false_eq_true,
    if_false, true_and]
  refine ⟨rfl, hQuiet.signal _ _, ?_, ?_⟩
  · simp [toldExhausted]
  · simp [toldExhausted]

theorem step_of_written {x : Exchange} (hVerdict : x.reply.verdict = .written)
    (hQuiet : w.tracker.Quiet) :
    (c.step w x).1 = some (.written x.took) ∧ Continues w (c.step w x).2 w.attempt 0 0 := by
  simp only [step, hVerdict, true_and]
  exact ⟨rfl, hQuiet.signal _ _, rfl, rfl⟩

theorem follow_single (w : Writing) (sentAt : List Nat) (x : Exchange) :
    c.follow w sentAt [x] = ⟨(c.step w x).1, (c.step w x).2, w.clock :: sentAt⟩ := by
  simp only [follow]
  split <;> simp_all

/-- A write that is going on meets the next answers where the earlier ones have left it. -/
theorem follow_append_of_open {sentAt : List Nat} {xs : List Exchange} (ys : List Exchange)
    (hOpen : (c.follow w sentAt xs).ended = none) :
    c.follow w sentAt (xs ++ ys) =
      c.follow (c.follow w sentAt xs).writing (c.follow w sentAt xs).sentAt ys := by
  induction xs generalizing w sentAt with
  | nil => rfl
  | cons x xs ih =>
      simp only [List.cons_append, follow] at hOpen ⊢
      split at hOpen
      · simp at hOpen
      · simp_all

/-- A write that has ended asks for no further answer. -/
theorem follow_append_of_ended {sentAt : List Nat} {xs : List Exchange} (ys : List Exchange)
    (hEnded : (c.follow w sentAt xs).ended ≠ none) :
    c.follow w sentAt (xs ++ ys) = c.follow w sentAt xs := by
  induction xs generalizing w sentAt with
  | nil => exact absurd rfl hEnded
  | cons x xs ih =>
      simp only [List.cons_append, follow] at hEnded ⊢
      split at hEnded
      · simp_all
      · simp_all

/-- A write before its first request. -/
def begin (c : Controller) (clock : Nat) : Writing := { tracker := c.tracker, clock }

/-- A write after the first `n` answers, or after those of them that it came to ask for. -/
def after (c : Controller) (clock : Nat) (r : Answers) (n : Nat) : Run :=
  c.follow (c.begin clock) [] ((List.range n).map r)

variable {clock : Nat}

theorem after_succ_of_open (hOpen : (c.after clock r n).ended = none) :
    c.after clock r (n + 1) =
      ⟨(c.step (c.after clock r n).writing (r n)).1, (c.step (c.after clock r n).writing (r n)).2,
        (c.after clock r n).writing.clock :: (c.after clock r n).sentAt⟩ := by
  rw [after, List.range_succ, List.map_append, follow_append_of_open _ hOpen]
  exact follow_single _ _ _

theorem after_eq_of_ended {k : Nat} (hEnded : (c.after clock r n).ended ≠ none) (hLe : n ≤ k) :
    c.after clock r k = c.after clock r n := by
  obtain ⟨more, rfl⟩ := Nat.exists_eq_add_of_le hLe
  rw [after, List.range_add, List.map_append]
  exact follow_append_of_ended _ hEnded

theorem after_congr {s : Answers} (hSame : ∀ i < n, s i = r i) :
    c.after clock s n = c.after clock r n := by
  have hMap : (List.range n).map s = (List.range n).map r :=
    List.map_congr_left fun i hi => hSame i (List.mem_range.mp hi)
  rw [after, hMap, after]

/-- Where a write stands that is open after `n` answers. -/
structure Standing (r : Answers) (n : Nat) (run : Run) : Prop where
  ended : run.ended = none
  requests : run.sentAt.length = n
  attempt : run.writing.attempt = r.streak n + 1
  quiet : run.writing.tracker.Quiet
  overloads : run.writing.counted overloadCounter = r.overloads n
  retries : run.writing.counted retryCounter = r.refusals n

/-- The next answer moves an open write on, unless it settles it. -/
theorem Standing.succ (hStanding : Standing r n (c.after clock r n))
    (hReply : r.verdict n ≠ .crashed) (hOpen : ¬r.Settles c.policy.maxRetries (n + 1)) :
    Standing r (n + 1) (c.after clock r (n + 1)) := by
  rw [Answers.settles_succ_iff, not_or] at hOpen
  obtain ⟨hWritten, hLeft⟩ := hOpen
  have hRequests := hStanding.requests
  have hAttempt := hStanding.attempt
  have hOverloads := hStanding.overloads
  have hRetries := hStanding.retries
  rw [after_succ_of_open hStanding.ended]
  cases hVerdict : r.verdict n with
  | written => exact absurd hVerdict hWritten
  | crashed => exact absurd hVerdict hReply
  | overloaded =>
      obtain ⟨hNone, hNext⟩ := step_of_overloaded (c := c) hVerdict hStanding.quiet
      have hStreak := Answers.streak_succ_of_not_refused (r := r) (n := n) (by rw [hVerdict]; rfl)
      refine ⟨hNone, by simp [hRequests], ?_, hNext.quiet, ?_, ?_⟩
      · rw [hNext.attempt, hStreak]
      · rw [hNext.overloads, hOverloads, Answers.overloads_succ, if_pos hVerdict]
      · rw [hNext.retries, hRetries, Answers.refusals_succ, hVerdict]; rfl
  | refused message =>
      have hStreak := Answers.streak_succ_of_refused (r := r) (n := n) (by rw [hVerdict]; rfl)
      obtain ⟨hNone, hNext⟩ := step_of_refused (c := c) hVerdict hStanding.quiet (by omega)
      refine ⟨hNone, by simp [hRequests], ?_, hNext.quiet, ?_, ?_⟩
      · rw [hNext.attempt, hAttempt, hStreak]
      · rw [hNext.overloads, hOverloads, Answers.overloads_succ, hVerdict]; rfl
      · rw [hNext.retries, hRetries, Answers.refusals_succ, hVerdict]; rfl

theorem standing_of_open (hQuiet : c.tracker.Quiet) (hReplies : ∀ i < n, r.verdict i ≠ .crashed)
    (hOpen : r.Open c.policy.maxRetries n) (clock : Nat) :
    Standing r n (c.after clock r n) := by
  induction n with
  | zero => exact ⟨rfl, rfl, rfl, hQuiet, rfl, rfl⟩
  | succ n ih =>
      rw [Answers.open_succ_iff] at hOpen
      exact (ih (fun i hi => hReplies i (Nat.lt_succ_of_lt hi)) hOpen.1).succ
        (hReplies n (Nat.lt_succ_self n)) hOpen.2

/-- How a write stands that its `n`-th answer has settled. -/
structure Settled (attempts : Nat) (r : Answers) (n : Nat) (run : Run) : Prop where
  ended : (r.verdict (n - 1) = .written ∧ run.ended = some (.written (r (n - 1)).took)) ∨
    ∃ message, r.verdict (n - 1) = .refused message ∧
      run.ended = some (.failed (.retriesExhausted attempts message))
  requests : run.sentAt.length = n
  attempt : run.writing.attempt ≤ attempts
  quiet : run.writing.tracker.Quiet
  overloads : run.writing.counted overloadCounter = r.overloads n
  retries : run.writing.counted retryCounter = r.refusals (n - 1)

theorem Settled.ended_ne_none {attempts : Nat} {run : Run} (hSettled : Settled attempts r n run) :
    run.ended ≠ none := by
  rcases hSettled.ended with ⟨-, hEnded⟩ | ⟨message, -, hEnded⟩ <;> simp [hEnded]

/-- An answer that settles an open write is a success or the refusal of its last attempt. -/
theorem Standing.settled (hStanding : Standing r n (c.after clock r n))
    (hReply : r.verdict n ≠ .crashed) (hPolicy : 1 ≤ c.policy.maxRetries)
    (hLeft : r.streak n < c.policy.maxRetries) (hSettles : r.Settles c.policy.maxRetries (n + 1)) :
    Settled c.policy.maxRetries r (n + 1) (c.after clock r (n + 1)) := by
  have hRequests := hStanding.requests
  have hAttempt := hStanding.attempt
  have hOverloads := hStanding.overloads
  have hRetries := hStanding.retries
  rw [Answers.settles_succ_iff] at hSettles
  rw [after_succ_of_open hStanding.ended]
  cases hVerdict : r.verdict n with
  | crashed => exact absurd hVerdict hReply
  | overloaded =>
      have hStreak := Answers.streak_succ_of_not_refused (r := r) (n := n) (by rw [hVerdict]; rfl)
      rw [hVerdict, hStreak] at hSettles
      exact absurd hSettles (by simp; omega)
  | written =>
      obtain ⟨hEnded, hNext⟩ := step_of_written (c := c) hVerdict hStanding.quiet
      refine ⟨.inl ⟨hVerdict, hEnded⟩, by simp [hRequests], ?_, hNext.quiet, ?_, ?_⟩
      · rw [hNext.attempt]; omega
      · rw [hNext.overloads, hOverloads, Answers.overloads_succ, hVerdict]; rfl
      · rw [hNext.retries, hRetries]; rfl
  | refused message =>
      have hStreak := Answers.streak_succ_of_refused (r := r) (n := n) (by rw [hVerdict]; rfl)
      have hFull : c.policy.maxRetries ≤ r.streak (n + 1) := by simpa [hVerdict] using hSettles
      have hLast : (c.after clock r n).writing.attempt = c.policy.maxRetries := by omega
      obtain ⟨hEnded, hNext⟩ :=
        step_of_last_refused (c := c) hVerdict hStanding.quiet (Nat.le_of_eq hLast.symm)
      rw [hLast] at hEnded
      refine ⟨.inr ⟨message, hVerdict, hEnded⟩, by simp [hRequests], ?_, hNext.quiet, ?_, ?_⟩
      · rw [hNext.attempt]; omega
      · rw [hNext.overloads, hOverloads, Answers.overloads_succ, hVerdict]; rfl
      · rw [hNext.retries, hRetries]; rfl

theorem settled_of_first (hQuiet : c.tracker.Quiet) (hPolicy : 1 ≤ c.policy.maxRetries)
    (hReplies : ∀ i < n, r.verdict i ≠ .crashed) (hFirst : r.SettlesFirst c.policy.maxRetries n)
    (clock : Nat) : Settled c.policy.maxRetries r n (c.after clock r n) := by
  cases n with
  | zero => exact absurd hFirst.1.1 (Nat.lt_irrefl 0)
  | succ n =>
      have hOpen := hFirst.open_of_succ
      have hStanding := standing_of_open hQuiet
        (fun i hi => hReplies i (Nat.lt_succ_of_lt hi)) hOpen clock
      exact hStanding.settled (hReplies n (Nat.lt_succ_self n)) hPolicy (hOpen.streak_lt hPolicy)
        hFirst.1

/-- No write ever counts an attempt beyond those it is allowed. -/
theorem attempt_after_le (hQuiet : c.tracker.Quiet) (hPolicy : 1 ≤ c.policy.maxRetries)
    (hReplies : ∀ i, r.verdict i ≠ .crashed) (clock n : Nat) :
    (c.after clock r n).writing.attempt ≤ c.policy.maxRetries := by
  by_cases hOpen : r.Open c.policy.maxRetries n
  · have hLeft := hOpen.streak_lt hPolicy
    have hStanding := standing_of_open hQuiet (fun i _ => hReplies i) hOpen clock
    rw [hStanding.attempt]
    omega
  · obtain ⟨first, hLe, hFirst⟩ := Answers.exists_first_of_not_open hOpen
    have hSettled := settled_of_first hQuiet hPolicy (fun i _ => hReplies i) hFirst clock
    rw [after_eq_of_ended hSettled.ended_ne_none hLe]
    exact hSettled.attempt

/-- The answers listed are the first ones. -/
theorem after_listed (c : Controller) (clock : Nat) (world : World) :
    c.after clock (world.answer c.destination) world.answers.length =
      c.follow (c.begin clock) [] world.answers := by
  have hMap := world.map_answer_range c.destination 0
  rw [Nat.add_zero, List.replicate_zero, List.append_nil] at hMap
  rw [after, hMap]

/-- Following a world is following a first part of its answers. What is left out of them cannot
settle the write: the repeated answer is asked for as often as it can make a difference. -/
theorem exists_followWorld_eq_after (clock : Nat) (world : World) (hQuiet : c.tracker.Quiet)
    (hPolicy : 1 ≤ c.policy.maxRetries) :
    ∃ asked, c.followWorld (c.begin clock) world = c.after clock (world.answer c.destination) asked ∧
      ((∀ i < asked, (world.answer c.destination).verdict i ≠ .crashed) →
        (world.answer c.destination).Open c.policy.maxRetries asked →
        ∀ k, (world.answer c.destination).Open c.policy.maxRetries k) := by
  set r := world.answer c.destination with hAnswer
  set listed := world.answers.length
  have hListed : c.after clock r listed = c.follow (c.begin clock) [] world.answers :=
    after_listed c clock world
  have hLater (i : Nat) (hFrom : listed ≤ i) :
      r.verdict i = (world.fallback c.destination).reply.verdict := by
    rw [Answers.verdict, hAnswer, World.answer_of_length_le world c.destination hFrom]
  rcases hRun : c.follow (c.begin clock) [] world.answers with ⟨ended, writing, sentAt⟩
  cases ended with
  | some ended =>
      refine ⟨listed, by rw [hListed, followWorld, hRun], fun hReplies hOpen => ?_⟩
      have hStanding := standing_of_open hQuiet hReplies hOpen clock
      rw [hListed, hRun] at hStanding
      cases hStanding.ended
  | none =>
      refine ⟨listed + c.patience writing.attempt (world.fallback c.destination), ?_, ?_⟩
      · rw [after, hAnswer, World.map_answer_range, follow_append_of_open _ (by rw [hRun]), hRun,
          followWorld, hRun]
      · intro hReplies hOpen
        have hBefore := hOpen.mono (Nat.le_add_right listed _)
        have hStanding := standing_of_open hQuiet
          (fun i hi => hReplies i (Nat.lt_add_right _ hi)) hBefore clock
        have hAttempt := hStanding.attempt
        rw [hListed, hRun] at hAttempt
        have hLeft := hOpen.streak_lt hPolicy
        have hFallback := hLater listed (Nat.le_refl _)
        cases hVerdict : (world.fallback c.destination).reply.verdict with
        | overloaded =>
            exact hBefore.of_overloaded_from hPolicy fun i hFrom => (hLater i hFrom).trans hVerdict
        | crashed =>
            have hAsked : listed < listed + c.patience writing.attempt
                (world.fallback c.destination) := by simp [patience, hVerdict]
            exact absurd (hFallback.trans hVerdict) (hReplies listed hAsked)
        | written =>
            have hOne : c.patience writing.attempt (world.fallback c.destination) = 1 := by
              simp [patience, hVerdict]
            rw [hOne, Answers.open_succ_iff, Answers.settles_succ_iff] at hOpen
            exact absurd (.inl (hFallback.trans hVerdict)) hOpen.2
        | refused message =>
            -- so many refusals in a row leave no attempt
            have hStreak : r.streak
                (listed + c.patience writing.attempt (world.fallback c.destination)) =
                  r.streak listed + c.patience writing.attempt (world.fallback c.destination) :=
              Answers.streak_add_of_refused fun i hFrom => by rw [hLater i hFrom, hVerdict]; rfl
            simp only [patience, hVerdict] at hStreak hLeft
            simp only at hAttempt
            omega

/-- What a write gives and leaves behind that its `n`-th answer settles. -/
structure Settlement (c : Controller) (r : Answers) (n : Nat) (world : World) (body : Bytes)
    (gzip : Bool) (out : Written) : Prop where
  ended : (r.verdict (n - 1) = .written ∧ out.ended = .written (r (n - 1)).took) ∨
    ∃ message, r.verdict (n - 1) = .refused message ∧
      out.ended = .failed (.retriesExhausted c.policy.maxRetries message)
  requests : out.world.requests =
    world.requests ++ List.replicate n ⟨c.destination, gzip, body⟩
  unasked : out.world.answers = world.answers.drop n
  overloads : counted overloadCounter out.told = r.overloads n
  retries : counted retryCounter out.told = r.refusals (n - 1)
  quiet : out.controller.tracker.Quiet

theorem requests_receive (world : World) (request : Request) (times : List Nat) :
    (world.receive request times).requests =
      world.requests ++ List.replicate times.length request := by
  simp [World.requests, World.deliveries, World.receive, Function.comp_def, List.map_const']

theorem Settled.settlement {world : World} {body : Bytes} {gzip : Bool}
    (hSettled : Settled c.policy.maxRetries r n (c.followWorld (c.begin world.clock) world)) :
    Settlement c r n world body gzip (c.write world body gzip) := by
  have hWrite : c.followWorld { tracker := c.tracker, clock := world.clock } world =
    c.followWorld (c.begin world.clock) world := rfl
  refine ⟨?_, ?_, ?_, ?_, ?_, hSettled.quiet⟩
  · rcases hSettled.ended with ⟨hVerdict, hEnded⟩ | ⟨message, hVerdict, hEnded⟩
    · exact .inl ⟨hVerdict, by rw [write, hWrite, hEnded]; rfl⟩
    · exact .inr ⟨message, hVerdict, by rw [write, hWrite, hEnded]; rfl⟩
  · rw [← hSettled.requests]
    exact requests_receive world _ _
  · rw [write, hWrite, hSettled.requests]
  · exact (counted_reverse _ _).trans hSettled.overloads
  · exact (counted_reverse _ _).trans hSettled.retries

/-- A write that is settled at all makes no request beyond the one that settles it. -/
theorem followWorld_eq_after {world : World} (hQuiet : c.tracker.Quiet)
    (hPolicy : 1 ≤ c.policy.maxRetries) (hReplies : ∀ i < n, r.verdict i ≠ .crashed)
    (hWorld : ∀ i < n, world.answer c.destination i = r i)
    (hFirst : r.SettlesFirst c.policy.maxRetries n) :
    c.followWorld (c.begin clock) world = c.after clock r n := by
  have hFirstWorld := hFirst.congr fun i hi => congrArg (·.reply.verdict) (hWorld i hi)
  obtain ⟨asked, hRun, hRest⟩ :=
    exists_followWorld_eq_after clock world hQuiet hPolicy
  have hSettled := settled_of_first hQuiet hPolicy hReplies hFirst clock
  rcases Nat.lt_or_ge asked n with hShort | hEnough
  · have hOpen : (world.answer c.destination).Open c.policy.maxRetries asked :=
      fun k hk => hFirstWorld.2 k (Nat.lt_of_le_of_lt hk hShort)
    have hRepliesWorld : ∀ i < asked, (world.answer c.destination).verdict i ≠ .crashed := by
      intro i hi
      have hBefore := Nat.lt_trans hi hShort
      rw [Answers.verdict, hWorld i hBefore]
      exact hReplies i hBefore
    exact absurd hFirstWorld.1 (hRest hRepliesWorld hOpen n n (Nat.le_refl n))
  · rw [hRun, after_eq_of_ended (n := n) (by rw [after_congr hWorld]; exact hSettled.ended_ne_none)
      hEnough, after_congr hWorld]

theorem settled_followWorld {world : World} (hQuiet : c.tracker.Quiet)
    (hPolicy : 1 ≤ c.policy.maxRetries) (hReplies : ∀ i < n, r.verdict i ≠ .crashed)
    (hWorld : ∀ i < n, world.answer c.destination i = r i)
    (hFirst : r.SettlesFirst c.policy.maxRetries n) :
    Settled c.policy.maxRetries r n (c.followWorld (c.begin clock) world) := by
  rw [followWorld_eq_after hQuiet hPolicy hReplies hWorld hFirst]
  exact settled_of_first hQuiet hPolicy hReplies hFirst clock

/-- A world whose answers never settle a write keeps it busy for ever. -/
theorem endless_of_never_settles {world : World} (body : Bytes) (gzip : Bool)
    (hQuiet : c.tracker.Quiet) (hPolicy : 1 ≤ c.policy.maxRetries)
    (hReplies : ∀ i, (world.answer c.destination).verdict i ≠ .crashed)
    (hNever : ∀ n, ¬(world.answer c.destination).Settles c.policy.maxRetries n) :
    (c.write world body gzip).ended = .endless := by
  obtain ⟨asked, hRun, -⟩ :=
    exists_followWorld_eq_after world.clock world hQuiet hPolicy
  have hStanding := standing_of_open hQuiet (fun i (_ : i < asked) => hReplies i)
    (fun k _ => hNever k) world.clock
  have hWrite : c.followWorld { tracker := c.tracker, clock := world.clock } world =
    c.followWorld (c.begin world.clock) world := rfl
  rw [write, hWrite, hRun, hStanding.ended]
  rfl

/-- A write makes as many requests as it takes to be settled, all of them alike, and no more; it ends
with the reply that settled it, and its counters tell the overloads and the refusals that it went on
from. If nothing settles it, it goes on for ever. It counts no attempt beyond those allowed, and
finitely many overloads put it off for finitely many requests only. -/
theorem write_until_settled (c : Controller) (hPolicy : 1 ≤ c.policy.maxRetries)
    (hQuiet : c.tracker.Quiet) (r : Answers) (hReplies : ∀ i, r.verdict i ≠ .crashed)
    (body : Bytes) (gzip : Bool) :
    (∀ n world, r.SettlesFirst c.policy.maxRetries n →
      (∀ i < n, world.answer c.destination i = r i) →
        Settlement c r n world body gzip (c.write world body gzip)) ∧
    ((∀ n, ¬r.Settles c.policy.maxRetries n) →
      (∀ clock n, (c.after clock r n).ended = none ∧ (c.after clock r n).sentAt.length = n) ∧
      ∀ world, (∀ i, world.answer c.destination i = r i) →
        (c.write world body gzip).ended = .endless) ∧
    (∀ clock n, (c.after clock r n).writing.attempt ≤ c.policy.maxRetries) ∧
    ∀ bound, (∀ n, r.overloads n ≤ bound) →
      ∃ n ≤ (bound + 1) * c.policy.maxRetries, r.SettlesFirst c.policy.maxRetries n := by
  refine ⟨?_, ?_, ?_, ?_⟩
  · intro n world hFirst hWorld
    exact (settled_followWorld hQuiet hPolicy (fun i _ => hReplies i) hWorld hFirst).settlement
  · intro hNever
    constructor
    · intro clock n
      have hStanding := standing_of_open hQuiet (fun i _ => hReplies i)
        (fun k (_ : k ≤ n) => hNever k) clock
      exact ⟨hStanding.ended, hStanding.requests⟩
    · intro world hWorld
      obtain rfl : world.answer c.destination = r := funext hWorld
      exact endless_of_never_settles body gzip hQuiet hPolicy hReplies hNever
  · exact attempt_after_le hQuiet hPolicy hReplies
  · intro bound hOverloads
    exact Answers.exists_first_of_overloads_le hPolicy hReplies hOverloads

/-- A refusal, an overload, and refusals without end. -/
def refusals : Answers := fun i =>
  if i = 1 then ⟨.response 500 (Utf8.encode "timeout"), 3, 0⟩
  else ⟨.transportError "connection refused", 1, 0⟩

/-- With two attempts the overload breaks the first row, and the fourth request is the last. -/
theorem write_until_settled_refusals :
    let c := ofConfig ⟨0, ""⟩ { maxRetries := 2 }
    let world : World := { answers := (List.range 4).map refusals }
    refusals.SettlesFirst 2 4 ∧
      Settlement c refusals 4 world [65] false (c.write world [65] false) := by
  intro c world
  have hReplies (i : Nat) : refusals.verdict i ≠ .crashed := by
    by_cases hOverload : i = 1
    · subst hOverload
      decide +kernel
    · simp [Answers.verdict, refusals, hOverload, Reply.verdict]
  have hFirst : refusals.SettlesFirst 2 4 := by decide +kernel
  have hWorld : ∀ i < 4, world.answer c.destination i = refusals i := by
    intro i hi
    simp [World.answer, world, hi]
  exact ⟨hFirst, (write_until_settled c (by decide) (quiet_ofConfig _ _) refusals hReplies
    [65] false).1 4 world hFirst hWorld⟩

end Controller
end BulkLoad
