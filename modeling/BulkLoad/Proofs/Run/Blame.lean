import BulkLoad.Proofs.Run.Ending

/-!
What a load says it failed for.

When dispatch would succeed by itself, only workers can fail at first. The runner hears of their
failures, or it hears that dispatch was refused by a channel all of whose workers have failed. It
stops the others only then, so no worker that it has stopped itself is to blame.
-/
namespace BulkLoad

/-- A worker that fails names itself, unless a call of it broke down. -/
theorem WorkerState.failure_of_run {π : Type} [Processor π] {settings : WorkerSettings}
    {s : WorkerState π} {batches : List LineBatch} {e : LoadError}
    (hRun : (s.run settings batches).result = .error (.failed e)) :
    (∃ f, e = .worker s.report.worker f) ∨ e = .task "worker" LoadError.brokeDown := by
  have hHalt (halt : Halt) (hSame : halt.ofWorker s.report.worker = .failed e) :
      (∃ f, e = .worker s.report.worker f) ∨ e = .task "worker" LoadError.brokeDown := by
    cases halt with
    | failed f =>
        cases hSame
        exact .inl ⟨f, rfl⟩
    | crashed =>
        cases hSame
        exact .inr rfl
    | endless => cases hSame
  rw [run_eq] at hRun
  split at hRun
  · exact hHalt _ (Except.error.inj hRun)
  · split at hRun
    · exact hHalt _ (Except.error.inj hRun)
    · split at hRun
      · exact hHalt _ (Except.error.inj hRun)
      · cases hRun

namespace Concurrent

variable {ι π : Type} [Indexer ι] [Processor π] {c : Config} {source : Source.Stream} {indexer : ι}
  {processor : Nat → π} {s t : State ι π} {d : DispatchSummary}

/-- A worker has ended with this failure. -/
def FailedWith (s : State ι π) (worker : Nat) (e : LoadError) : Prop :=
  (s.task worker).phase = .ended (.error (.failed e))

/-- All workers of a channel have ended with a failure. -/
def Deserted (c : Config) (s : State ι π) (channel : Nat) : Prop :=
  ∀ worker < c.workers, lane c worker = channel → ∃ e, FailedWith s worker e

/-- Whether the runner takes results as they come. -/
def Runner.Listens : Runner → Prop
  | .selecting _ _ => True
  | .awaiting _ => True
  | .aborting _ => False
  | .returned _ => False

omit [Indexer ι] [Processor π] in
theorem phase_of_update {changed worker : Nat} {task : Task π} (hLive : (s.task changed).Live)
    (hDone : ¬(s.task worker).Live) :
    (Function.update s.task changed task worker).phase = (s.task worker).phase := by
  have hOther : worker ≠ changed := by
    rintro rfl
    exact hDone hLive
  rw [Function.update_of_ne hOther]

/-- A worker that has ended, or was stopped, stays as it is. -/
theorem phase_of_step (hStep : Step c s t) {worker : Nat} (hDone : ¬(s.task worker).Live) :
    (t.task worker).phase = (s.task worker).phase := by
  cases hStep with
  | start hWorker hPhase hReturns => exact phase_of_update (by simp [Task.Live, hPhase]) hDone
  | receive hWorker hPhase hQueue => exact phase_of_update (by simp [Task.Live, hPhase]) hDone
  | process hWorker hPhase hReturns => exact phase_of_update (by simp [Task.Live, hPhase]) hDone
  | finish hWorker hPhase hDrained hReturns =>
      exact phase_of_update (by simp [Task.Live, hPhase]) hDone
  | abort hWorker hRunner hLive => exact phase_of_update hLive hDone
  | joined hWorker hRunner hPhase hFirst => exact s.phase_join _ _ worker
  | joinFailed hWorker hRunner hPhase hFirst => exact s.phase_join _ _ worker
  | _ => rfl

theorem FailedWith.step {worker : Nat} {e : LoadError} (hFailed : FailedWith s worker e)
    (hStep : Step c s t) : FailedWith t worker e := by
  have hDone : ¬(s.task worker).Live := by
    rw [FailedWith] at hFailed
    simp [Task.Live, hFailed]
  exact (phase_of_step hStep hDone).trans hFailed

theorem Deserted.step {channel : Nat} (hDeserted : Deserted c s channel) (hStep : Step c s t) :
    Deserted c t channel := by
  intro worker hWorker hLane
  obtain ⟨e, hFailed⟩ := hDeserted worker hWorker hLane
  exact ⟨e, hFailed.step hStep⟩

/-- Whether a worker came to this by itself, and can have come to it. -/
def Task.Phase.Proper (phase : Task.Phase) : Prop :=
  phase ≠ .aborted ∧ phase ≠ .ended (.error .endless)

theorem Task.Phase.proper_afterCall {α : Type} (worker : Nat) {result : Except Halt α}
    (hReturns : result ≠ .error .endless) {next : α → Task.Phase}
    (hNext : ∀ a, (next a).Proper) : (Task.Phase.afterCall worker next result).Proper := by
  cases result with
  | ok a => exact hNext a
  | error halt =>
      refine ⟨nofun, fun hEndless => ?_⟩
      cases halt with
      | failed f => cases hEndless
      | crashed => cases hEndless
      | endless => exact hReturns rfl

/-- After a step a worker is where it was, or the runner has stopped it, or it has moved on. -/
theorem phase_cases (hStep : Step c s t) (worker : Nat) :
    (t.task worker).phase = (s.task worker).phase ∨
      (∃ e, t.runner = .aborting e) ∨ (t.task worker).phase.Proper := by
  have hMoved {changed : Nat} {task : Task π} (hProper : task.phase.Proper) :
      (Function.update s.task changed task worker).phase = (s.task worker).phase ∨
        (∃ e, t.runner = .aborting e) ∨
          (Function.update s.task changed task worker).phase.Proper := by
    by_cases hSame : worker = changed
    · subst hSame
      rw [Function.update_self]
      exact .inr (.inr hProper)
    · rw [Function.update_of_ne hSame]
      exact .inl rfl
  cases hStep with
  | start hWorker hPhase hReturns =>
      exact hMoved (Task.Phase.proper_afterCall _ hReturns fun _ => ⟨nofun, nofun⟩)
  | process hWorker hPhase hReturns =>
      exact hMoved (Task.Phase.proper_afterCall _ hReturns fun _ => ⟨nofun, nofun⟩)
  | finish hWorker hPhase hDrained hReturns =>
      exact hMoved (Task.Phase.proper_afterCall _ hReturns fun _ => ⟨nofun, nofun⟩)
  | receive hWorker hPhase hQueue => exact hMoved ⟨nofun, nofun⟩
  | abort hWorker hRunner hLive => exact .inr (.inl ⟨_, hRunner⟩)
  | joined hWorker hRunner hPhase hFirst => exact .inl (s.phase_join _ _ worker)
  | joinFailed hWorker hRunner hPhase hFirst => exact .inl (s.phase_join _ _ worker)
  | _ => exact .inl rfl

/-- The runner does not begin to listen again. -/
theorem listens_of_step (hStep : Step c s t) (hListens : t.runner.Listens) : s.runner.Listens := by
  cases hStep with
  | scanned hRunner hScan => simp [hRunner, Runner.Listens]
  | scanFailed hRunner hScan => cases hListens
  | joined hWorker hRunner hPhase hFirst => simp [hRunner, Runner.Listens]
  | joinFailed hWorker hRunner hPhase hFirst => cases hListens
  | summarise hRunner hAll elapsed => cases hListens
  | await hRunner hAll => simp [hRunner, Runner.Listens]
  | awaited hRunner hScan elapsed => cases hListens
  | awaitFailed hRunner hScan => cases hListens
  | giveUp hRunner hNone => cases hListens
  | _ => exact hListens

/-- As long as the runner listens it has stopped no worker, and no worker ends with a call that
never returned. -/
theorem proper_of_listens (hReach : Reachable c source indexer processor s)
    (hListens : s.runner.Listens) (worker : Nat) : (s.task worker).phase.Proper := by
  induction hReach with
  | initial => exact ⟨nofun, nofun⟩
  | step hBefore hStep ih =>
      rcases phase_cases hStep worker with hSame | ⟨e, hAborting⟩ | hProper
      · rw [hSame]
        exact ih (listens_of_step hStep hListens)
      · rw [hAborting] at hListens
        cases hListens
      · exact hProper

/-- When dispatch would succeed by itself, no step of its own makes it fail. -/
theorem advance_ne_failed (hReach : Reachable c source indexer processor s)
    (hAlone : (alone c source indexer).result = .ok d) {scan : Scan ι}
    (hScan : s.scan.advance? (limits c) = some scan) (e : DispatchError)
    (unread : List Source.Item) : scan.phase ≠ .returned (.error e) unread := by
  intro hReturned
  obtain ⟨-, hIdle, -⟩ := Scan.dispatch_advance hScan
  have hDue : scan.due = none := hIdle.resolve_right fun hRunning => hRunning _ _ hReturned
  rcases (scanning hReach).rest with hAlike | ⟨channel, unread', hRefused⟩
  · have hResult := hAlike.result
    rw [← Scan.rest_advance hScan, Scan.rest_of_returned hReturned hDue, hAlone] at hResult
    cases hResult
  · rw [Scan.advance_of_returned hRefused] at hScan
    cases hScan

/-- A worker that is neither at work nor has given a report. -/
def Lost (s : State ι π) (worker : Nat) : Prop :=
  ¬(s.task worker).Live ∧ ∀ r, (s.task worker).phase ≠ .ended (.ok r)

theorem Lost.step {worker : Nat} (hLost : Lost s worker) (hStep : Step c s t) : Lost t worker := by
  have hSame := phase_of_step hStep hLost.1
  refine ⟨?_, hSame ▸ hLost.2⟩
  have hDone := hLost.1
  unfold Task.Live at hDone ⊢
  rwa [hSame]

/-- When dispatch would succeed by itself, it fails only if a channel has lost all its workers. -/
theorem lost_of_failed (hReach : Reachable c source indexer processor s)
    (hAlone : (alone c source indexer).result = .ok d) {e : DispatchError}
    {unread : List Source.Item} (hReturned : s.scan.phase = .returned (.error e) unread) :
    ∃ channel < c.channelCount, e = .channelClosed channel ∧
      ∀ worker < c.workers, lane c worker = channel → Lost s worker := by
  induction hReach with
  | initial => cases hReturned
  | @step s t hBefore hStep ih =>
      have hKeep (hSame : s.scan.phase = .returned (.error e) unread) :
          ∃ channel < c.channelCount, e = .channelClosed channel ∧
            ∀ worker < c.workers, lane c worker = channel → Lost t worker := by
        obtain ⟨channel, hChannel, hClosed, hLost⟩ := ih hSame
        exact ⟨channel, hChannel, hClosed,
          fun worker hWorker hLane => (hLost worker hWorker hLane).step hStep⟩
      cases hStep with
      | advance hScan => exact absurd hReturned (advance_ne_failed hBefore hAlone hScan e unread)
      | @refuse p hDue hClosed =>
          cases hReturned
          refine ⟨p.channel, (placed hBefore).due p hDue, rfl, fun worker hWorker hLane => ⟨?_, ?_⟩⟩
          · exact fun hLive => hClosed ⟨worker, hWorker, hLane, hLive⟩
          · -- a worker finishes only after dispatch has returned, and then no batch is due
            intro r hEnded
            obtain ⟨⟨result, unread, hDone⟩, -⟩ := emptied hBefore worker r hEnded
            rcases (scanning hBefore).idle with hIdle | hRunning
            · rw [hIdle] at hDue
              cases hDue
            · exact hRunning _ _ hDone
      | _ => exact hKeep hReturned

/-- A failure that is to be told: that of a worker, or that of dispatch before a channel all of
whose workers have failed. -/
def Blamed (c : Config) (s : State ι π) (e : LoadError) : Prop :=
  (∃ worker < c.workers, FailedWith s worker e) ∨
    ∃ channel < c.channelCount, e = .dispatch (.channelClosed channel) ∧ Deserted c s channel

theorem Blamed.step {e : LoadError} (hBlamed : Blamed c s e) (hStep : Step c s t) :
    Blamed c t e := by
  rcases hBlamed with ⟨worker, hWorker, hFailed⟩ | ⟨channel, hChannel, hClosed, hDeserted⟩
  · exact .inl ⟨worker, hWorker, hFailed.step hStep⟩
  · exact .inr ⟨channel, hChannel, hClosed, hDeserted.step hStep⟩

/-- When the runner hears that dispatch failed while it listens, all workers of a channel have
failed. -/
theorem blamed_of_scan (hReach : Reachable c source indexer processor s)
    (hAlone : (alone c source indexer).result = .ok d) (hListens : s.runner.Listens)
    {e : DispatchError} {unread : List Source.Item}
    (hReturned : s.scan.phase = .returned (.error e) unread) :
    Blamed c s (Load.dispatchError e) := by
  obtain ⟨channel, hChannel, rfl, hLost⟩ := lost_of_failed hReach hAlone hReturned
  refine .inr ⟨channel, hChannel, rfl, fun worker hWorker hLane => ?_⟩
  obtain ⟨hDone, hNot⟩ := hLost worker hWorker hLane
  obtain ⟨hSpared, hReturns⟩ := proper_of_listens hReach hListens worker
  unfold Task.Live at hDone
  unfold FailedWith
  cases hPhase : (s.task worker).phase with
  | fresh => simp [hPhase] at hDone
  | ready => simp [hPhase] at hDone
  | holding b => simp [hPhase] at hDone
  | aborted => exact absurd hPhase hSpared
  | ended result =>
      cases result with
      | ok r => exact absurd hPhase (hNot r)
      | error halt =>
          cases halt with
          | failed e => exact ⟨e, rfl⟩
          | endless => exact absurd hPhase hReturns

/-- What the runner gives up for, or has given up for. -/
def Runner.fault? : Runner → Option LoadError
  | .selecting _ _ => none
  | .awaiting _ => none
  | .aborting e => some e
  | .returned (.error e) => some e
  | .returned (.ok _) => none

/-- The runner gives up for a failure that is to be told. -/
theorem blamed (hReach : Reachable c source indexer processor s)
    (hAlone : (alone c source indexer).result = .ok d) {e : LoadError}
    (hRunner : s.runner.fault? = some e) : Blamed c s e := by
  induction hReach with
  | initial => cases hRunner
  | @step s t hBefore hStep ih =>
      have hKeep (hBlamed : Blamed c s e) : Blamed c t e := hBlamed.step hStep
      have hScan (hListens : s.runner.Listens) {e' : DispatchError} {unread : List Source.Item}
          (hReturned : s.scan.phase = .returned (.error e') unread) :
          Blamed c s (Load.dispatchError e') := blamed_of_scan hBefore hAlone hListens hReturned
      cases hStep with
      | scanned _ _ => cases hRunner
      | joined _ _ _ _ => cases hRunner
      | summarise _ _ _ => cases hRunner
      | await _ _ => cases hRunner
      | awaited _ _ _ => cases hRunner
      | scanFailed hListening hReturned =>
          cases hRunner
          exact hKeep (hScan (by simp [hListening, Runner.Listens]) hReturned)
      | awaitFailed hListening hReturned =>
          cases hRunner
          exact hKeep (hScan (by simp [hListening, Runner.Listens]) hReturned)
      | joinFailed hWorker hListening hPhase hFirst =>
          cases hRunner
          exact hKeep (.inl ⟨_, hWorker, hPhase⟩)
      | giveUp hAborting hNone =>
          cases hRunner
          exact hKeep (ih (by rw [hAborting, Runner.fault?]))
      | _ => exact hKeep (ih hRunner)

/-- Once a worker has failed, the runner can go on until it returns an error. -/
theorem goesOn_of_failed (hReach : Reachable c source indexer processor s) {worker : Nat}
    (hWorker : worker < c.workers) {e : LoadError} (hFailed : FailedWith s worker e) :
    (∃ e, s.runner = .returned (.error e)) ∨ ∃ t, Step c s t := by
  have hTruthful := truthful hReach
  have hNotAll : ¬AllReported c s := by
    intro hAll
    obtain ⟨r, hEnded⟩ := hAll worker hWorker
    rw [FailedWith, hEnded] at hFailed
    cases hFailed
  cases hRunner : s.runner with
  | selecting scanned reports =>
      rw [hRunner] at hTruthful
      have hFirst : (s.task worker).joined = false := by
        by_contra hJoined
        obtain ⟨r, -, hEnded⟩ := hTruthful.2.joined worker hWorker (by simpa using hJoined)
        rw [FailedWith, hEnded] at hFailed
        cases hFailed
      exact .inr ⟨_, .joinFailed hWorker hRunner hFailed hFirst⟩
  | awaiting reports =>
      rw [hRunner] at hTruthful
      exact absurd (Complete.allReported hTruthful) hNotAll
  | aborting e =>
      by_cases hLive : ∃ other < c.workers, (s.task other).Live
      · obtain ⟨other, hOther, hLive⟩ := hLive
        exact .inr ⟨_, .abort hOther hRunner hLive⟩
      · push Not at hLive
        exact .inr ⟨_, .giveUp hRunner hLive⟩
  | returned result =>
      cases result with
      | error e => exact .inl ⟨e, rfl⟩
      | ok summary =>
          rw [hRunner] at hTruthful
          obtain ⟨d, reports, elapsed, -, hComplete, -⟩ := hTruthful
          exact absurd hComplete.allReported hNotAll

/-- The causes that a load can give when its source is not to blame. A worker that failed is told
with the failure that it comes to by itself, with the batches that it was handed; a channel is found
closed only if all its workers have failed. -/
inductive Cause (c : Config) (processor : Nat → π) (s : State ι π) : LoadError → Prop where
  | worker {worker : Nat} {f : Fault} (hWorker : worker < c.workers)
      (hFailed : FailedWith s worker (.worker worker f))
      (hItself : ((fresh c processor worker).run (settings c) (s.taken worker)).result =
        .error (.failed (.worker worker f))) : Cause c processor s (.worker worker f)
  | brokeDown {worker : Nat} (hWorker : worker < c.workers)
      (hFailed : FailedWith s worker (.task "worker" LoadError.brokeDown))
      (hItself : ((fresh c processor worker).run (settings c) (s.taken worker)).result =
        .error (.failed (.task "worker" LoadError.brokeDown))) :
      Cause c processor s (.task "worker" LoadError.brokeDown)
  | deserted {channel : Nat} (hChannel : channel < c.channelCount)
      (hDeserted : Deserted c s channel) : Cause c processor s (.dispatch (.channelClosed channel))

theorem Blamed.cause (hReach : Reachable c source indexer processor s) {e : LoadError}
    (hBlamed : Blamed c s e) : Cause c processor s e := by
  rcases hBlamed with ⟨worker, hWorker, hFailed⟩ | ⟨channel, hChannel, rfl, hDeserted⟩
  · have hTask := replaying hReach worker
    unfold Task.Replays at hTask
    rw [hFailed] at hTask
    obtain ⟨hItself, -⟩ := hTask
    rcases WorkerState.failure_of_run hItself with ⟨f, rfl⟩ | rfl
    · exact .worker hWorker hFailed hItself
    · exact .brokeDown hWorker hFailed hItself
  · exact .deserted hChannel hDeserted

/-- When a worker has failed and nothing is wrong with the source, the load comes to an error in the
end, in whatever order its parts go on; and the error names a worker that failed, with its failure,
unless it is that of a channel all of whose workers failed. -/
theorem failure_is_told (hAlone : (alone c source indexer).result = .ok d)
    (hReach : Reachable c source indexer processor s) {worker : Nat} (hWorker : worker < c.workers)
    {e : LoadError} (hFailed : FailedWith s worker e) :
    (∀ result, s.runner = .returned result → ∃ e, result = .error e ∧ Cause c processor s e) ∧
      Inevitably c (fun t => ∃ e, t.runner = .returned (.error e) ∧ Cause c processor t e) s := by
  have hTold {s : State ι π} (hReach : Reachable c source indexer processor s) {e : LoadError}
      (hRunner : s.runner = .returned (.error e)) : Cause c processor s e :=
    (blamed hReach hAlone (by rw [hRunner, Runner.fault?])).cause hReach
  constructor
  · intro result hRunner
    cases result with
    | error e => exact ⟨e, rfl, hTold hReach hRunner⟩
    | ok summary =>
        obtain ⟨-, hAll⟩ := (returned_ok_iff hReach hRunner).mp ⟨summary, rfl⟩
        obtain ⟨r, hEnded⟩ := hAll worker hWorker
        rw [FailedWith, hEnded] at hFailed
        cases hFailed
  · refine inevitably_of_goesOn (Q := fun s => FailedWith s worker e) hReach hFailed
      (fun hReach hFailed => ?_) fun _ hFailed hStep => hFailed.step hStep
    rcases goesOn_of_failed hReach hWorker hFailed with ⟨e, hRunner⟩ | hGoesOn
    · exact .inl ⟨e, hRunner, hTold hReach hRunner⟩
    · exact .inr hGoesOn

/-- A load of single points by one worker. -/
def lone : Config := { batchSize := 1 }

def noRoute : Fault := .other "cannot connect worker 0"

/-- A worker that cannot be connected. -/
def unconnected (_ : Nat) : InfluxProcessor :=
  .ofConfig .stored lone ⟨fun _ => (.error noRoute, [])⟩ 2 {}

/-- The failure of a worker that cannot be connected is told, or that of its channel. -/
theorem failure_is_told_unconnected : ∃ s : State Constant InfluxProcessor,
    Reachable lone onePoint (Constant.mk 0) unconnected s ∧ FailedWith s 0 (.worker 0 noRoute) ∧
      Inevitably lone
        (fun t => ∃ e, t.runner = .returned (.error e) ∧ Cause lone unconnected t e) s := by
  have hOnly : 0 < lone.workers := by decide
  have hAlone : (alone lone onePoint (Constant.mk 0)).result = .ok ⟨1, [1], none, false⟩ := by
    decide +kernel
  have hInitial : Reachable lone onePoint (Constant.mk 0) unconnected
    (initial lone onePoint (Constant.mk 0) unconnected) := .initial
  have hReach := hInitial.step (.start hOnly rfl (by nofun))
  have hTold := failure_is_told hAlone hReach hOnly (e := .worker 0 noRoute) rfl
  exact ⟨_, hReach, rfl, hTold.2⟩

/-- A worker whose first request breaks its task down. -/
def breaking (_ : Nat) : InfluxProcessor :=
  .ofConfig .stored lone ⟨fun worker => (.ok ⟨worker, ""⟩, [])⟩ 2 { answers := [⟨.crashed, 0, 0⟩] }

/-- A call that breaks down has no failure to tell, so its task is told. -/
example : (Load.run lone 0 ⟨.ok onePoint, Constant.mk 0, breaking⟩).result =
    .error (.failed (.task "worker" LoadError.brokeDown)) := by rfl

/-- A load of single points by two workers of one channel, which holds two batches. -/
def pair : Config :=
  { workers := 2, channelCapacity := 2, batchSize := 1, retry := { maxRetries := 1 } }

def fourPoints : Source.Stream where
  items := List.replicate 4 (.point (Utf8.encode "a x=1 1"))

/-- Workers whose server refuses whatever it is asked. -/
def rejecting (_ : Nat) : InfluxProcessor :=
  .ofConfig .stored pair ⟨fun worker => (.ok ⟨worker, ""⟩, [])⟩ 4
    { fallback := fun _ => ⟨.response 400 [], 0, 0⟩ }

/-- What is told need not be the failure of a worker, though nothing but the workers has failed. Here
each worker is refused its first batch, so that dispatch is left with the third and nobody to take it;
and the runner, for which dispatch and both workers are ready, hears of dispatch first. -/
theorem not_told_as_worker :
    (alone pair fourPoints (Constant.mk 0)).result = .ok ⟨4, [4], none, false⟩ ∧
      ∃ s f g, Reachable pair fourPoints (Constant.mk 0) rejecting s ∧
        FailedWith s 0 (.worker 0 f) ∧ FailedWith s 1 (.worker 1 g) ∧
        s.runner = .returned (.error (.dispatch (.channelClosed 0))) := by
  refine ⟨by decide +kernel, ?_⟩
  have hFirst : 0 < pair.workers := by decide
  have hSecond : 1 < pair.workers := by decide
  have hInitial : Reachable pair fourPoints (Constant.mk 0) rejecting
    (initial pair fourPoints (Constant.mk 0) rejecting) := .initial
  have hStarted := (hInitial.step (.start hFirst rfl (by nofun))).step
    (.start hSecond rfl (by nofun))
  have hDue := (hStarted.step (.advance rfl)).step (.advance rfl)
  have hSent := hDue.step (.deliver rfl ⟨0, hFirst, rfl, trivial⟩ (by decide) rfl)
  have hTaken := hSent.step (.receive hFirst rfl rfl)
  have hSentBoth := (hTaken.step (.advance rfl)).step
    (.deliver rfl ⟨1, hSecond, rfl, trivial⟩ (by decide) rfl)
  have hTakenBoth := hSentBoth.step (.receive hSecond rfl rfl)
  have hFailed := (hTakenBoth.step (.process hFirst rfl (by decide +kernel))).step
    (.process hSecond rfl (by decide +kernel))
  have hOver {worker : Nat} (hWorker : worker < pair.workers) : worker = 0 ∨ worker = 1 := by
    have hTwo : worker < 2 := hWorker
    omega
  have hRefused := (hFailed.step (.advance rfl)).step (.refuse rfl (by
    rintro ⟨worker, hWorker, -, hLive⟩
    rcases hOver hWorker with rfl | rfl <;> exact hLive))
  have hHeard := hRefused.step (.scanFailed rfl rfl)
  have hReach := hHeard.step (.giveUp rfl (by
    intro worker hWorker hLive
    rcases hOver hWorker with rfl | rfl <;> exact hLive))
  exact ⟨_, _, _, hReach, rfl, rfl, rfl⟩

end Concurrent
end BulkLoad
