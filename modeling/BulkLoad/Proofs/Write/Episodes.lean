import BulkLoad.Proofs.Write.Signals
import Mathlib.Data.List.Induction

/-!
How long a controller held back over its whole life.

The controller tells of overload again and again, and the tracker goes by the first signal and the
last. That is exact only if every write that signals an overload signals its end as well, whichever
way it ends. Then each write leaves the tracker as it found it, with one episode more or none.
-/
namespace BulkLoad

namespace Signal

/-- The time from the first signal to the last. -/
def span : List Signal → Nat
  | [] => 0
  | first :: more => (more.getLastD first).time - first.time

@[simp] theorem span_single (s : Signal) : span [s] = 0 := Nat.sub_self s.time

theorem span_cons_concat (first : Signal) (more : List Signal) (last : Signal) :
    span (first :: (more ++ [last])) = last.time - first.time := by
  simp [span]

end Signal

namespace Tracker

/-- While an episode goes on, more of the same makes no difference. -/
theorem hear_overloaded {t : Tracker} {start : Nat} (hOpen : t.started = some start)
    {signals : List Signal} (hSame : ∀ s ∈ signals, s.overloaded = true) : t.hear signals = t := by
  induction signals with
  | nil => rfl
  | cons s signals ih =>
      have hOverloaded := hSame s List.mem_cons_self
      have hSignal : t.signal s.time s.overloaded = t := by
        rw [hOverloaded]
        simp [signal, hOpen]
      change (t.signal s.time s.overloaded).hear signals = t
      rw [hSignal]
      exact ih fun x hx => hSame x (List.mem_cons_of_mem s hx)

/-- What one episode, or the lack of one, leaves of a tracker. -/
structure After (t : Tracker) (episodes : List Nat) (u : Tracker) : Prop where
  started : u.started = none
  total : u.total = t.total + sumOf id episodes
  episodes : u.episodes = t.episodes ++ episodes

/-- Overloads and their end are one episode; an end without an overload is none. -/
theorem hear_episode {t : Tracker} {signals : List Signal} {count : Nat}
    (hClosed : t.started = none)
    (hShape : signals.map Signal.overloaded = List.replicate count true ++ [false]) :
    After t (if count = 0 then [] else [Signal.span signals]) (t.hear signals) := by
  obtain ⟨raised, ended, rfl, hRaised, hEnded⟩ := List.map_eq_append_iff.mp hShape
  obtain ⟨last, rfl, hLast⟩ := List.map_eq_singleton_iff.mp hEnded
  rw [hear_append]
  cases count with
  | zero =>
      obtain rfl : raised = [] := by simpa using hRaised
      refine ⟨?_, ?_, ?_⟩ <;> simp [hear, signal, hLast, hClosed]
  | succ count =>
      rw [List.replicate_succ] at hRaised
      obtain ⟨first, more, rfl, hFirst, hMore⟩ := List.map_eq_cons_iff.mp hRaised
      have hSame : ∀ s ∈ more, s.overloaded = true := by
        intro s hs
        have hMem : s.overloaded ∈ more.map Signal.overloaded := List.mem_map_of_mem hs
        rw [hMore] at hMem
        exact List.eq_of_mem_replicate hMem
      have hBegun : t.hear (first :: more) = { t with started := some first.time } := by
        have hRise : t.signal first.time first.overloaded = { t with started := some first.time } := by
          rw [hFirst]
          simp [signal, hClosed]
        change (t.signal first.time first.overloaded).hear more = _
        rw [hRise]
        exact hear_overloaded rfl hSame
      rw [hBegun]
      refine ⟨?_, ?_, ?_⟩ <;> simp [hear, signal, hLast, Signal.span_cons_concat]

theorem After.of_silent {t u v : Tracker} {episodes : List Nat} (hAfter : After t episodes u)
    (hSame : v.silent = u.silent) : After t episodes v where
  started := (congrArg Tracker.started hSame).trans hAfter.started
  total := (congrArg Tracker.total hSame).trans hAfter.total
  episodes := (congrArg Tracker.episodes hSame).trans hAfter.episodes

/-- Each episode that has ended is recorded once, among what was told or what is left to tell. -/
def Recorded (told : Journal) (t : Tracker) : Prop :=
  Journal.sampled histogram told ++ Journal.sampled histogram t.untold =
    t.episodes.map Span.seconds

theorem sampled_finished (worker took : Nat) :
    Journal.sampled histogram (finished worker took) = [Span.seconds took] := by
  simp [Journal.sampled, finished, Journal.say]

theorem Recorded.signal {told : Journal} {t : Tracker} (hRecorded : t.Recorded told) (now : Nat)
    (overloaded : Bool) : (t.signal now overloaded).Recorded told := by
  unfold Recorded at hRecorded ⊢
  unfold Tracker.signal
  split
  · exact hRecorded
  · simp only [Journal.sampled_append, sampled_finished, List.map_append, ← hRecorded]
    simp
  · exact hRecorded

theorem Recorded.pause {told : Journal} {t : Tracker} (hRecorded : t.Recorded told) :
    t.pause.1.Recorded (told ++ t.pause.2) := by
  unfold Recorded at hRecorded ⊢
  simpa [Tracker.pause, Journal.sampled] using hRecorded

end Tracker

namespace Controller

/-- What was told before a write and in it records the episodes. -/
def Writing.Recorded (before : Journal) (w : Writing) : Prop :=
  w.tracker.Recorded (before ++ w.toldNewestFirst.reverse)

theorem Writing.kept_recorded (before : Journal) : Kept (Recorded before) where
  later hRecorded _ := hRecorded
  again hRecorded _ := hRecorded
  signal {w} hRecorded overloaded := Tracker.Recorded.signal hRecorded w.clock overloaded
  tell {w} hRecorded told hNone := by
    unfold Writing.Recorded Tracker.Recorded at hRecorded ⊢
    simpa [Writing.tell, hNone] using hRecorded
  wait {w} hRecorded span := by
    have hPause := Tracker.Recorded.pause hRecorded
    unfold Writing.Recorded
    simpa [Writing.wait, Writing.tell] using hPause

/-- One write of a controller's life: what it meets and writes, and the number of requests that
settles it. -/
structure Errand where
  world : World
  body : Bytes := []
  gzip : Bool := false
  requests : Nat

namespace Errand

def answers (e : Errand) (d : Destination) : Answers := e.world.answer d

/-- The write is settled, and none of its requests is cut off without an answer. -/
structure Proper (e : Errand) (d : Destination) (attempts : Nat) : Prop where
  replies : ∀ i < e.requests, (e.answers d).verdict i ≠ .crashed
  settles : (e.answers d).SettlesFirst attempts e.requests

/-- The overloads that the write meets. -/
def overloads (e : Errand) (d : Destination) : Nat := (e.answers d).overloads e.requests

end Errand

/-- When a write hears the answer of that index. -/
def hears (c : Controller) (e : Errand) (i : Nat) : Nat :=
  c.heard e.world.clock (e.answers c.destination) i

/-- The time from the first overload of a write to the answer that settles it. -/
def held (c : Controller) (e : Errand) : Nat :=
  match (e.answers c.destination).firstOverload? e.requests with
  | some first => c.hears e (e.requests - 1) - c.hears e first
  | none => 0

def signalsOf (c : Controller) (e : Errand) : List Signal :=
  c.signals e.world.clock (e.answers c.destination) e.requests

variable {c : Controller} {e : Errand}

/-- A settled write signals each overload and then once the end, and the time from the first signal
to the last is what it held back. -/
theorem signalsOf_of_proper (hPolicy : 1 ≤ c.policy.maxRetries)
    (hProper : e.Proper c.destination c.policy.maxRetries) :
    (c.signalsOf e).map Signal.overloaded =
        List.replicate (e.overloads c.destination) true ++ [false] ∧
      Signal.span (c.signalsOf e) = c.held e := by
  rcases e with ⟨world, body, gzip, requests⟩
  obtain ⟨hReplies, hFirst⟩ := hProper
  cases requests with
  | zero => exact absurd hFirst.1.1 (Nat.lt_irrefl 0)
  | succ n =>
      simp only [Errand.answers] at hReplies hFirst
      obtain ⟨hSignals, hLast⟩ := signals_of_first world.clock hReplies hPolicy hFirst
      have hOpen := hFirst.open_of_succ
      have hBefore : ∀ i < n, (world.answer c.destination).verdict i ≠ .crashed :=
        fun i hi => hReplies i (Nat.lt_succ_of_lt hi)
      have hHead := head?_signals_of_open world.clock hBefore hOpen
      simp only [signalsOf, held, hears, Errand.overloads, Errand.answers, hSignals,
        Answers.overloads_succ, Answers.firstOverload?_succ, if_neg hLast, Option.or_none,
        Nat.add_zero, Nat.add_sub_cancel]
      refine ⟨by rw [List.map_append, overloaded_signals_of_open world.clock hBefore hOpen]; rfl, ?_⟩
      cases hFirstOverload : (world.answer c.destination).firstOverload? n with
      | none =>
          rw [hFirstOverload, Option.map_none, List.head?_eq_none_iff] at hHead
          simp [hHead]
      | some first =>
          rw [hFirstOverload, Option.map_some, List.head?_eq_some_iff] at hHead
          obtain ⟨more, hMore⟩ := hHead
          rw [hMore, List.cons_append, Signal.span_cons_concat]

/-- A write holds back at least as long as all its overloads ask for. -/
theorem overloads_mul_backoff_le_held (hPolicy : 1 ≤ c.policy.maxRetries)
    (hProper : e.Proper c.destination c.policy.maxRetries) :
    e.overloads c.destination * c.backoff ≤ c.held e := by
  rcases e with ⟨world, body, gzip, requests⟩
  obtain ⟨hReplies, hFirst⟩ := hProper
  cases requests with
  | zero => exact absurd hFirst.1.1 (Nat.lt_irrefl 0)
  | succ n =>
      simp only [Errand.answers] at hReplies hFirst
      obtain ⟨-, hLast⟩ := signals_of_first world.clock hReplies hPolicy hFirst
      simp only [held, hears, Errand.overloads, Errand.answers, Answers.overloads_succ,
        Answers.firstOverload?_succ, if_neg hLast, Option.or_none, Nat.add_zero,
        Nat.add_sub_cancel]
      cases hFirstOverload : (world.answer c.destination).firstOverload? n with
      | none => simp [Answers.firstOverload?_eq_none_iff.mp hFirstOverload]
      | some first =>
          have hSum := overloads_mul_backoff_le c world.clock hFirstOverload
          simp only
          rw [heard]
          omega

/-- What a proper write does that begins with this tracker: the tracker hears the signals and nothing
else, and what it has to tell is not lost. -/
structure Heard (c : Controller) (t : Tracker) (e : Errand) (out : Written) : Prop where
  controller : out.controller = { c with tracker := out.controller.tracker }
  ended : (∃ latency, out.ended = .written latency) ∨
    ∃ message, out.ended = .failed (.retriesExhausted c.policy.maxRetries message)
  signals : out.signals = c.signalsOf e
  tracker : out.controller.tracker.silent = (t.hear out.signals).silent
  quiet : out.controller.tracker.Quiet
  recorded : ∀ before, t.Recorded before → out.controller.tracker.Recorded (before ++ out.told)

theorem heard_of_proper {t : Tracker} (hPolicy : 1 ≤ c.policy.maxRetries) (hQuiet : t.Quiet)
    (hProper : e.Proper c.destination c.policy.maxRetries) :
    Heard c t e ({ c with tracker := t }.write e.world e.body e.gzip) := by
  set now : Controller := { c with tracker := t }
  have hRun : now.followWorld { tracker := now.tracker, clock := e.world.clock } e.world =
      now.after e.world.clock (e.answers c.destination) e.requests :=
    followWorld_eq_after hQuiet hPolicy hProper.replies (fun _ _ => rfl) hProper.settles
  have hSignals := signals_of_settled (c := now) hQuiet hProper.replies hProper.settles e.world.clock
  have hSettled := settled_of_first (c := now) hQuiet hPolicy hProper.replies hProper.settles
    e.world.clock
  have hTracked := (Writing.kept_tracked t).follow (w := now.begin e.world.clock) rfl now []
    ((List.range e.requests).map (e.answers c.destination))
  refine ⟨rfl, ?_, ?_, ?_, ?_, ?_⟩
  · rw [write, hRun]
    rcases hSettled.ended with ⟨-, hEnded⟩ | ⟨message, -, hEnded⟩
    · exact .inl ⟨_, by rw [hEnded]; rfl⟩
    · exact .inr ⟨message, by rw [hEnded]; rfl⟩
  · rw [write, hRun, hSignals, List.reverse_reverse, signals_withTracker]
    rfl
  · simp only [write, hRun]
    exact hTracked
  · simp only [write, hRun]
    exact hSettled.quiet
  · intro before hRecorded
    have hBegun : (now.begin e.world.clock).Recorded before := by
      simpa [Writing.Recorded, begin] using hRecorded
    have hAfter := (Writing.kept_recorded before).follow hBegun now []
      ((List.range e.requests).map (e.answers c.destination))
    simp only [write, hRun]
    exact hAfter

/-- A controller after some writes, and what was told meanwhile. -/
structure Life where
  controller : Controller
  told : Journal := []

def Life.write (life : Life) (e : Errand) : Life :=
  let out := life.controller.write e.world e.body e.gzip
  ⟨out.controller, life.told ++ out.told⟩

def lifeOf (c : Controller) (errands : List Errand) : Life := errands.foldl Life.write { controller := c }

/-- The writes that meet an overload. -/
def overloaded (c : Controller) (errands : List Errand) : List Errand :=
  errands.filter fun e => 0 < e.overloads c.destination

/-- The books of a controller between two writes. -/
structure Accounts (c : Controller) (errands : List Errand) (life : Life) : Prop where
  controller : life.controller = { c with tracker := life.controller.tracker }
  quiet : life.controller.tracker.Quiet
  started : life.controller.tracker.started = none
  episodes : life.controller.tracker.episodes = (c.overloaded errands).map c.held
  total : life.controller.tracker.total = sumOf c.held (c.overloaded errands)
  recorded : life.controller.tracker.Recorded life.told

theorem overloaded_append_single (errands : List Errand) (e : Errand) :
    c.overloaded (errands ++ [e]) =
      c.overloaded errands ++ if e.overloads c.destination = 0 then [] else [e] := by
  by_cases hNone : e.overloads c.destination = 0
  · simp [overloaded, hNone]
  · simp [overloaded, hNone, Nat.pos_of_ne_zero hNone]

theorem Accounts.heard {errands : List Errand} {life : Life} (hAccounts : Accounts c errands life)
    (hPolicy : 1 ≤ c.policy.maxRetries) (hProper : e.Proper c.destination c.policy.maxRetries) :
    Heard c life.controller.tracker e (life.controller.write e.world e.body e.gzip) := by
  have hHeard := heard_of_proper hPolicy hAccounts.quiet hProper
  rwa [← hAccounts.controller] at hHeard

/-- One more proper write keeps the books. -/
theorem Accounts.write {errands : List Errand} {life : Life} (hAccounts : Accounts c errands life)
    (hPolicy : 1 ≤ c.policy.maxRetries) (hProper : e.Proper c.destination c.policy.maxRetries) :
    Accounts c (errands ++ [e]) (life.write e) := by
  have hHeard := hAccounts.heard hPolicy hProper
  obtain ⟨hShape, hSpan⟩ := signalsOf_of_proper hPolicy hProper
  rw [← hHeard.signals] at hShape hSpan
  have hAfter := (Tracker.hear_episode hAccounts.started hShape).of_silent hHeard.tracker
  rw [hSpan] at hAfter
  refine ⟨hHeard.controller, hHeard.quiet, hAfter.started, ?_, ?_,
    hHeard.recorded life.told hAccounts.recorded⟩
  · refine hAfter.episodes.trans ?_
    rw [hAccounts.episodes, overloaded_append_single, List.map_append]
    split <;> simp
  · refine hAfter.total.trans ?_
    rw [hAccounts.total, overloaded_append_single, sumOf_append]
    split <;> simp

theorem accounts_of_proper (d : Destination) (config : RetryConfig) {errands : List Errand}
    (hProper : ∀ e ∈ errands, e.Proper d (max config.maxRetries 1)) :
    Accounts (ofConfig d config) errands ((ofConfig d config).lifeOf errands) := by
  induction errands using List.reverseRecOn with
  | nil => exact ⟨rfl, quiet_ofConfig d config, rfl, rfl, rfl, rfl⟩
  | append_singleton errands e ih =>
      have hBefore := ih fun x hx => hProper x (List.mem_append_left [e] hx)
      have hNext := hBefore.write (Nat.le_max_right ..) (hProper e (by simp))
      rw [lifeOf, List.foldl_append]
      exact hNext

/-- A tracker has told all that it recorded when it is closed. -/
theorem Accounts.sampled {errands : List Errand} {life : Life} (hAccounts : Accounts c errands life) :
    Journal.sampled Tracker.histogram (life.told ++ life.controller.close.2) =
      ((c.overloaded errands).map c.held).map Span.seconds := by
  have hRecorded := hAccounts.recorded
  rw [Tracker.Recorded, hAccounts.episodes] at hRecorded
  simpa [close, Tracker.close, Journal.sampled, Journal.say] using hRecorded

/-- What was held back covers what the overloads asked for. -/
theorem sumOf_overloads_mul_backoff_le (hPolicy : 1 ≤ c.policy.maxRetries) {errands : List Errand}
    (hProper : ∀ e ∈ errands, e.Proper c.destination c.policy.maxRetries) :
    sumOf (fun e => e.overloads c.destination) errands * c.backoff ≤
      sumOf c.held (c.overloaded errands) := by
  induction errands with
  | nil => simp
  | cons e errands ih =>
      have hRest := ih fun x hx => hProper x (List.mem_cons_of_mem e hx)
      have hOne := overloads_mul_backoff_le_held hPolicy (hProper e List.mem_cons_self)
      rw [sumOf_cons, Nat.add_mul]
      by_cases hNone : e.overloads c.destination = 0
      · simpa [overloaded, hNone] using hRest
      · have hSplit : c.overloaded (e :: errands) = e :: c.overloaded errands := by
          simp [overloaded, Nat.pos_of_ne_zero hNone]
        rw [hSplit, sumOf_cons]
        exact Nat.add_le_add hOne hRest

section Delayed

variable {times : Nat → Nat}

/-- The same write, heard at given times. -/
def Errand.delayed (e : Errand) (c : Controller) (times : Nat → Nat) : Errand :=
  { e with
    world := { e.world with
      answers := (List.range e.requests).map
        (c.delayed e.world.clock (e.answers c.destination) times) } }

theorem Errand.answers_delayed (e : Errand) (c : Controller) (times : Nat → Nat) :
    ∀ i < e.requests, (e.delayed c times).answers c.destination i =
      c.delayed e.world.clock (e.answers c.destination) times i := by
  intro i hi
  simp [Errand.answers, Errand.delayed, World.answer, hi]

theorem Errand.Proper.delayed (hProper : e.Proper c.destination c.policy.maxRetries)
    (times : Nat → Nat) : (e.delayed c times).Proper c.destination c.policy.maxRetries := by
  have hVerdict : ∀ i < e.requests, ((e.delayed c times).answers c.destination).verdict i =
      (e.answers c.destination).verdict i := by
    intro i hi
    rw [Answers.verdict, e.answers_delayed c times i hi]
    exact verdict_delayed times i
  refine ⟨fun i hi => ?_, hProper.settles.congr hVerdict⟩
  rw [hVerdict i hi]
  exact hProper.replies i hi

/-- How long a write waits after the answer of that index. -/
def pauseAfter (c : Controller) (e : Errand) (i : Nat) : Nat :=
  c.pause ((e.answers c.destination).streak i + 1) (e.answers c.destination i)

theorem hears_delayed (hStart : e.world.clock ≤ times 0)
    (hNext : ∀ i, i + 1 < e.requests → times i + c.pauseAfter e i ≤ times (i + 1)) :
    ∀ i < e.requests, c.hears (e.delayed c times) i = times i := by
  intro i hi
  have hSame : ∀ j < i, (e.delayed c times).answers c.destination j =
      c.delayed e.world.clock (e.answers c.destination) times j :=
    fun j hj => e.answers_delayed c times j (Nat.lt_trans hj hi)
  have hHeard := heard_delayed hStart hNext i hi
  rw [heard] at hHeard
  rw [hears, heard, due_congr hSame, e.answers_delayed c times i hi]
  exact hHeard

end Delayed

/-- A controller whose writes are all settled has no episode open between two of them or at the end.
Each write signals its overloads and then once the end; so there is one episode for each write that
met an overload, from the first overload to the answer that settled the write, and their sum is what
the controller gives when it is closed. No overload goes by without its pause. All this holds for
every clock that leaves room for the pauses, since each such clock is that of some answers. -/
theorem backoff_accounted (d : Destination) (config : RetryConfig) (errands : List Errand)
    (hProper : ∀ e ∈ errands, e.Proper d (max config.maxRetries 1)) :
    let c := ofConfig d config
    let life := c.lifeOf errands
    (∀ before e after, errands = before ++ e :: after →
      let now := (c.lifeOf before).controller
      let out := now.write e.world e.body e.gzip
      now.tracker.started = none ∧
      ((∃ latency, out.ended = .written latency) ∨
        ∃ message, out.ended = .failed (.retriesExhausted c.policy.maxRetries message)) ∧
      out.signals = c.signalsOf e ∧
      out.signals.map Signal.overloaded = List.replicate (e.overloads d) true ++ [false] ∧
      out.controller.tracker.silent = (now.tracker.hear out.signals).silent) ∧
    life.controller.tracker.started = none ∧
    life.controller.tracker.episodes = (c.overloaded errands).map c.held ∧
    Journal.sampled Tracker.histogram (life.told ++ life.controller.close.2) =
      ((c.overloaded errands).map c.held).map Span.seconds ∧
    life.controller.close.1 = sumOf c.held (c.overloaded errands) ∧
    sumOf (fun e => e.overloads d) errands * Span.ofMillis config.backoffMs ≤
      life.controller.close.1 ∧
    ∀ e ∈ errands, ∀ times : Nat → Nat, e.world.clock ≤ times 0 →
      (∀ i, i + 1 < e.requests → times i + c.pauseAfter e i ≤ times (i + 1)) →
      ∃ other : Errand, other.Proper d (max config.maxRetries 1) ∧ other.requests = e.requests ∧
        ∀ i < e.requests, (other.answers d i).reply = (e.answers d i).reply ∧
          (other.answers d i).chance = (e.answers d i).chance ∧ c.hears other i = times i := by
  intro c life
  have hPolicy : 1 ≤ c.policy.maxRetries := Nat.le_max_right ..
  have hAccounts := accounts_of_proper d config hProper
  refine ⟨?_, hAccounts.started, hAccounts.episodes, hAccounts.sampled, hAccounts.total, ?_, ?_⟩
  · rintro before e after rfl now out
    have hBefore := accounts_of_proper d config fun x hx => hProper x (List.mem_append_left _ hx)
    have hOne := hProper e (by simp)
    have hHeard := hBefore.heard hPolicy hOne
    exact ⟨hBefore.started, hHeard.ended, hHeard.signals,
      hHeard.signals ▸ (signalsOf_of_proper hPolicy hOne).1, hHeard.tracker⟩
  · have hSum := sumOf_overloads_mul_backoff_le hPolicy hProper
    rw [show life.controller.close.1 = sumOf c.held (c.overloaded errands) from hAccounts.total]
    exact hSum
  · intro e hMem times hStart hNext
    refine ⟨e.delayed c times, (hProper e hMem).delayed times, rfl, fun i hi => ?_⟩
    rw [show (e.delayed c times).answers d i = _ from e.answers_delayed c times i hi]
    exact ⟨reply_delayed times i, chance_delayed times i, hears_delayed hStart hNext i hi⟩

/-- Three writes: one is written after an overload, one is refused twice, and one is refused twice
after two overloads. -/
def threeErrands : List Errand :=
  let overload : Exchange := ⟨.response 500 (Utf8.encode "timeout"), 3, 0⟩
  let refusal : Exchange := ⟨.transportError "connection refused", 1, 0⟩
  [ { world := { clock := 5, answers := [overload] }, requests := 2 }
  , { world := { answers := [refusal, refusal] }, requests := 2 }
  , { world := { clock := 7, answers := [overload, overload, refusal, refusal] }, requests := 4 } ]

/-- Two episodes with three pauses between them; the hard failures of the second write make none. -/
theorem backoff_accounted_threeErrands :
    let life := (ofConfig ⟨0, ""⟩ { maxRetries := 2 }).lifeOf threeErrands
    (∀ e ∈ threeErrands, e.Proper ⟨0, ""⟩ 2) ∧
      life.controller.tracker.started = none ∧
      life.controller.tracker.episodes.length = 2 ∧
      3000000000 ≤ life.controller.close.1 := by
  intro life
  have hProper : ∀ e ∈ threeErrands, e.Proper ⟨0, ""⟩ 2 := by
    intro e he
    simp only [threeErrands, List.mem_cons, List.not_mem_nil, or_false] at he
    rcases he with rfl | rfl | rfl
    · exact ⟨by decide +kernel, by decide +kernel⟩
    · exact ⟨by decide +kernel, by decide +kernel⟩
    · exact ⟨by decide +kernel, by decide +kernel⟩
  obtain ⟨-, hStarted, hEpisodes, -, -, hLeast, -⟩ :=
    backoff_accounted ⟨0, ""⟩ { maxRetries := 2 } threeErrands hProper
  have hCount : ((ofConfig ⟨0, ""⟩ { maxRetries := 2 }).overloaded threeErrands).length = 2 := by
    decide +kernel
  have hOverloads : sumOf (fun e => e.overloads ⟨0, ""⟩) threeErrands = 3 := by decide +kernel
  refine ⟨hProper, hStarted, ?_, ?_⟩
  · rw [hEpisodes, List.length_map, hCount]
  · rw [hOverloads] at hLeast
    exact hLeast

end Controller
end BulkLoad
