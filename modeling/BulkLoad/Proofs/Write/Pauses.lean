import BulkLoad.Config.Rules
import BulkLoad.Proofs.Write.Accepted
import BulkLoad.Proofs.Write.Signals
import BulkLoad.Proofs.Write.Windows

/-!
How long a write waits between two requests.

The attempts of a write are counted from one, and the number of the attempt that failed is the power
that scales the wait behind it. So the first wait is scaled once already, and the base delay by
itself is waited only where scaling makes no difference. Behind an overload the wait is always the
same.
-/
namespace BulkLoad

namespace RetryPolicy

/-- The window of an attempt reaches from its own scaled delay to that of the next attempt, both cut
at the greatest delay. -/
theorem window_of_lt (p : RetryPolicy) {attempt : Nat} (hAttempt : attempt < DelayWindow.maxAttempt) :
    p.window attempt =
      ⟨min (p.scaled attempt) p.maxDelay,
        max (min (p.scaled (attempt + 1)) p.maxDelay) (min (p.scaled attempt) p.maxDelay)⟩ := by
  have hNext : min (attempt + 1) DelayWindow.maxAttempt = attempt + 1 := Nat.min_eq_left hAttempt
  rw [window, DelayWindow.ofScale_eq, hNext]

end RetryPolicy

namespace Controller

variable {c : Controller} {r : Answers} {w : Writing} {clock n : Nat}

/-- A refusal after which a write goes on had an attempt left, and costs one; an overload gives all
of them back. -/
theorem attempt_of_step_none {x : Exchange} (hStep : (c.step w x).1 = none) :
    (x.reply.verdict = .overloaded ∧ (c.step w x).2.attempt = 1) ∨
      (x.reply.verdict.isRefusal = true ∧ w.attempt < c.policy.maxRetries ∧
        (c.step w x).2.attempt = w.attempt + 1) := by
  unfold step at hStep ⊢
  cases hVerdict : x.reply.verdict with
  | written => simp [hVerdict] at hStep
  | crashed => simp [hVerdict] at hStep
  | overloaded => exact .inl ⟨rfl, rfl⟩
  | refused message =>
      by_cases hLeft : c.policy.allowsRetry w.attempt = true
      · simp only [hLeft, if_true]
        exact .inr ⟨rfl, of_decide_eq_true hLeft, rfl⟩
      · simp [hVerdict, hLeft] at hStep

/-- Where a write that goes on has come to: its attempts are the refusals in a row, and its requests
were made when they were due. -/
structure OnCourse (c : Controller) (clock : Nat) (r : Answers) (n : Nat) (run : Run) : Prop where
  attempt : run.writing.attempt = r.streak n + 1
  now : run.writing.clock = c.due clock r n
  sentAt : run.sentAt = ((List.range n).map (c.due clock r)).reverse

theorem open_of_open_succ (hOpen : (c.after clock r (n + 1)).ended = none) :
    (c.after clock r n).ended = none := by
  by_contra hEnded
  rw [after_eq_of_ended hEnded (Nat.le_succ n)] at hOpen
  exact hEnded hOpen

theorem onCourse_of_open (hOpen : (c.after clock r n).ended = none) :
    OnCourse c clock r n (c.after clock r n) := by
  induction n with
  | zero => exact ⟨rfl, rfl, rfl⟩
  | succ n ih =>
      have hBefore := open_of_open_succ hOpen
      have hCourse := ih hBefore
      rw [after_succ_of_open hBefore] at hOpen ⊢
      refine ⟨?_, ?_, ?_⟩
      · rcases attempt_of_step_none hOpen with ⟨hVerdict, hNext⟩ | ⟨hRefused, -, hNext⟩
        · rw [hNext, Answers.streak_succ_of_not_refused (by rw [Answers.verdict, hVerdict]; rfl)]
        · rw [hNext, hCourse.attempt, Answers.streak_succ_of_refused hRefused]
      · rw [clock_step hOpen, hCourse.now, hCourse.attempt, due]
      · rw [hCourse.sentAt, hCourse.now, List.range_succ, List.map_append, List.reverse_append]
        rfl

/-- However far a write has come, its requests were made when they were due, and it went on from the
answer of each but the last. -/
theorem exists_sentAt_after (c : Controller) (clock : Nat) (r : Answers) (n : Nat) :
    ∃ requests, (c.after clock r n).sentAt =
        ((List.range requests).map (c.due clock r)).reverse ∧
      ∀ i, i + 1 < requests → (c.after clock r (i + 1)).ended = none := by
  induction n with
  | zero => exact ⟨0, rfl, nofun⟩
  | succ n ih =>
      by_cases hBefore : (c.after clock r n).ended = none
      · have hCourse := onCourse_of_open hBefore
        refine ⟨n + 1, ?_, fun i hi => ?_⟩
        · rw [after_succ_of_open hBefore, hCourse.sentAt, hCourse.now, List.range_succ,
            List.map_append, List.reverse_append]
          rfl
        · by_contra hEnded
          rw [← after_eq_of_ended hEnded (Nat.le_of_lt_succ hi)] at hEnded
          exact hEnded hBefore
      · rw [after_eq_of_ended hBefore (Nat.le_succ n)]
        exact ih

/-- What a write waits behind an answer from which it goes on. -/
theorem pause_of_open {i : Nat} (hOpen : (c.after clock r (i + 1)).ended = none) :
    (r.verdict i = .overloaded ∧ c.pause (r.streak i + 1) (r i) = c.backoff) ∨
      ((r.verdict i).isRefusal = true ∧ r.streak (i + 1) < c.policy.maxRetries ∧
        c.pause (r.streak i + 1) (r i) =
          (c.policy.window (r.streak (i + 1))).pick (r i).chance) := by
  have hBefore := open_of_open_succ hOpen
  have hAttempt := (onCourse_of_open hBefore).attempt
  rw [after_succ_of_open hBefore] at hOpen
  rcases attempt_of_step_none hOpen with ⟨hVerdict, -⟩ | ⟨hRefused, hLeft, -⟩
  · exact .inl ⟨hVerdict, by simp [pause, hVerdict]⟩
  · have hStreak : r.streak (i + 1) = r.streak i + 1 := Answers.streak_succ_of_refused hRefused
    rw [hStreak, ← hAttempt]
    refine .inr ⟨hRefused, hLeft, ?_⟩
    cases hVerdict : (r i).reply.verdict with
    | refused message => simp [pause, hVerdict]
    | _ => simp [hVerdict, Reply.Verdict.isRefusal] at hRefused

/-- The requests of a write are alike, and the time between two of them is that of the answer and of
one wait. Behind an overload it is the time for which the server is left alone. Behind the last of
`k` refusals in a row it is drawn from a window that begins with the base delay scaled by the `k`-th
power of the multiplier and ends with the next power, both cut at the greatest delay; as many
refusals in a row as there are attempts are followed by no wait. -/
theorem pauses_of_write (d : Destination) (config : RetryConfig)
    (hWord : config.maxRetries ≤ DelayWindow.maxAttempt) (tracker : Tracker) (world : World)
    (body : Bytes) (gzip : Bool) :
    let c := { ofConfig d config with tracker }
    let p := RetryPolicy.ofConfig config
    let r := world.answer d
    ∃ (requests : Nat) (times : Nat → Nat),
      times 0 = world.clock ∧
      (c.write world body gzip).world.deliveries =
        world.deliveries ++ (List.range requests).map (fun i => ⟨⟨d, gzip, body⟩, times i⟩) ∧
      ∀ i, i + 1 < requests →
        (r.verdict i = .overloaded ∧
          times (i + 1) = times i + (r i).took + Span.ofMillis config.backoffMs) ∨
        ((r.verdict i).isRefusal = true ∧ ∃ k, 1 ≤ k ∧ k < p.maxRetries ∧
          r.EndsRefused k (i + 1) ∧ ¬r.EndsRefused (k + 1) (i + 1) ∧
          p.window k =
            ⟨min (p.scaled k) p.maxDelay,
              max (min (p.scaled (k + 1)) p.maxDelay) (min (p.scaled k) p.maxDelay)⟩ ∧
          times (i + 1) = times i + (r i).took + (p.window k).pick (r i).chance) := by
  intro c p r
  obtain ⟨asked, hRun⟩ := exists_after_of_followWorld c world.clock world
  obtain ⟨requests, hSentAt, hGoesOn⟩ := exists_sentAt_after c world.clock r asked
  refine ⟨requests, c.due world.clock r, rfl, ?_, fun i hi => ?_⟩
  · have hWrite : c.followWorld { tracker := c.tracker, clock := world.clock } world =
      c.after world.clock r asked := hRun
    simp only [write, hWrite, hSentAt, World.deliveries, World.receive, List.reverse_append,
      List.map_reverse, List.reverse_reverse, List.map_map]
    rfl
  · rcases pause_of_open (hGoesOn i hi) with ⟨hVerdict, hPause⟩ | ⟨hRefused, hLeft, hPause⟩
    · exact .inl ⟨hVerdict, by rw [due, hPause]; rfl⟩
    · have hStreak := Answers.streak_succ_of_refused hRefused
      have hBound : r.streak (i + 1) < DelayWindow.maxAttempt := by
        have hMax : r.streak (i + 1) < max config.maxRetries 1 := hLeft
        simp only [DelayWindow.maxAttempt] at hWord ⊢
        omega
      refine .inr ⟨hRefused, r.streak (i + 1), by omega, hLeft, ?_, ?_, p.window_of_lt hBound, ?_⟩
      · rw [Answers.endsRefused_iff]
      · rw [Answers.endsRefused_iff]
        omega
      · rw [due, hPause]
        rfl

/-- Two refusals and an overload between them are waited for, the overload for a whole second. -/
theorem pauses_of_write_refused :
    let config : RetryConfig := { maxRetries := 2 }
    let refusal : Exchange := ⟨.transportError "connection refused", 1, 0⟩
    let overload : Exchange := ⟨.response 500 (Utf8.encode "timeout"), 3, 0⟩
    let world : World := { clock := 4, answers := [refusal, overload, refusal] }
    config.maxRetries ≤ DelayWindow.maxAttempt ∧ ∃ times : Nat → Nat, times 0 = 4 ∧
      ((ofConfig ⟨0, ""⟩ config).write world [65] false).world.deliveries =
        (List.range 4).map (fun i => ⟨⟨⟨0, ""⟩, false, [65]⟩, times i⟩) ∧
      times 2 = times 1 + 3 + Span.ofMillis 1000 := by
  intro config refusal overload world
  have hWord : config.maxRetries ≤ DelayWindow.maxAttempt := by decide
  obtain ⟨requests, times, hStart, hDeliveries, hPauses⟩ :=
    pauses_of_write ⟨0, ""⟩ config hWord { worker := 0 } world [65] false
  have hCount : ((ofConfig ⟨0, ""⟩ config).write world [65] false).world.deliveries.length = 4 := by
    decide +kernel
  have hRequests : 4 = requests := by
    simpa [world, World.deliveries] using hCount.symm.trans (congrArg List.length hDeliveries)
  subst hRequests
  refine ⟨hWord, times, hStart, hDeliveries, ?_⟩
  rcases hPauses 1 (by decide) with ⟨-, hPause⟩ | ⟨hRefused, -⟩
  · exact hPause
  · exact absurd hRefused (by decide +kernel)

/-- With the rules that are set by default the base delay is five milliseconds, but a write that is
refused once waits for ten, which lies outside the window from the base delay to its double. -/
theorem first_pause_not_from_base :
    let config : Config := {}
    let world : World := { answers := [⟨.response 400 [], 0, 0⟩] }
    let out := (ofConfig ⟨0, ""⟩ config.retry).write world [65] false
    config.violations = [] ∧ config.retry.baseDelayMs = 5 ∧
      ∃ first second, out.world.deliveries.map Delivery.time = [first, second] ∧
        ¬(first + Span.ofMillis 5 ≤ second ∧ second < first + Span.ofMillis 10) := by
  refine ⟨by decide +kernel, rfl, 0, 10000000, by decide +kernel, by decide⟩

end Controller
end BulkLoad
