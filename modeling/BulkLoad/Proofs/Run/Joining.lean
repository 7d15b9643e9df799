import BulkLoad.Proofs.Run.Conserving

/-!
What the runner knows is so.

A result stays what it is once it was returned, so what the runner took from dispatch and from the
workers still holds when it comes to its own result: a failure is the failure of one of them, and a
success is the success of all.
-/
namespace BulkLoad.Concurrent

variable {ι π : Type} [Indexer ι] [Processor π] {c : Config} {source : Source.Stream} {indexer : ι}
  {processor : Nat → π} {s t : State ι π}

/-- Dispatch has returned a summary. -/
def Scanned (s : State ι π) (d : DispatchSummary) : Prop :=
  ∃ unread, s.scan.phase = .returned (.ok d) unread

/-- Every worker has returned a report. -/
def AllReported (c : Config) (s : State ι π) : Prop :=
  ∀ worker < c.workers, ∃ r, (s.task worker).phase = .ended (.ok r)

/-- Dispatch or a worker has failed. -/
def Failed (c : Config) (s : State ι π) : Prop :=
  (∃ e unread, s.scan.phase = .returned (.error e) unread) ∨
    ∃ worker < c.workers, ∃ halt, (s.task worker).phase = .ended (.error halt)

omit [Indexer ι] [Processor π] in
theorem Failed.not_all (hFailed : Failed c s) : ¬((∃ d, Scanned s d) ∧ AllReported c s) := by
  rintro ⟨⟨d, unread, hScanned⟩, hAll⟩
  rcases hFailed with ⟨e, unread', hReturned⟩ | ⟨worker, hWorker, halt, hEnded⟩
  · rw [hScanned] at hReturned
    cases hReturned
  · obtain ⟨r, hReported⟩ := hAll worker hWorker
    rw [hReported] at hEnded
    cases hEnded

/-- What a step leaves as it was: every result, who has been joined, and the totals when no worker is
at work. -/
structure Keeps (c : Config) (s t : State ι π) : Prop where
  scan : ∀ result unread, s.scan.phase = .returned result unread →
    t.scan.phase = .returned result unread
  ended : ∀ worker result, (s.task worker).phase = .ended result → t.task worker = s.task worker
  joined : ∀ worker, (t.task worker).joined = (s.task worker).joined
  totals : AllReported c s → t.totals = s.totals

theorem Scanning.scan_kept (hScanning : Scanning c source indexer s) (hStep : Step c s t)
    (result : Except DispatchError DispatchSummary) (unread : List Source.Item)
    (hReturned : s.scan.phase = .returned result unread) :
    t.scan.phase = .returned result unread := by
  cases hStep with
  | advance hScan =>
      rw [Scan.advance_of_returned hReturned] at hScan
      cases hScan
  | refuse hDue hClosed =>
      rcases hScanning.idle with hIdle | hRunning
      · rw [hIdle] at hDue
        cases hDue
      · exact absurd hReturned (hRunning _ _)
  | _ => exact hReturned

omit [Indexer ι] [Processor π] in
theorem Keeps.of_update {worker : Nat} {task : Task π} (hWorker : worker < c.workers)
    (hScan : ∀ result unread, s.scan.phase = .returned result unread →
      t.scan.phase = .returned result unread)
    (hTask : t.task = Function.update s.task worker task)
    (hRunning : ∀ result, (s.task worker).phase ≠ .ended result)
    (hJoined : task.joined = (s.task worker).joined) : Keeps c s t := by
  refine ⟨hScan, ?_, ?_, ?_⟩
  · intro other result hEnded
    have hOther : other ≠ worker := by
      rintro rfl
      exact hRunning result hEnded
    rw [hTask, Function.update_of_ne hOther]
  · intro other
    rw [hTask]
    exact forall_update (P := fun i (t : Task π) => t.joined = (s.task i).joined) (fun _ => rfl)
      hJoined other
  · intro hAll
    obtain ⟨r, hEnded⟩ := hAll worker hWorker
    exact absurd hEnded (hRunning _)

/-- The runner has these reports: one of each worker that it has joined. -/
structure Reported (c : Config) (s : State ι π) (reports : List WorkerReport) : Prop where
  distinct : (reports.map WorkerReport.worker).Nodup
  joined : ∀ worker < c.workers, (s.task worker).joined = true →
    ∃ r ∈ reports, (s.task worker).phase = .ended (.ok r)
  heard : ∀ r ∈ reports, ∃ worker < c.workers, (s.task worker).joined = true ∧
    (s.task worker).phase = .ended (.ok r)

omit [Indexer ι] [Processor π] in
theorem Reported.kept {reports : List WorkerReport} (hReported : Reported c s reports)
    (hKeeps : Keeps c s t) : Reported c t reports := by
  refine ⟨hReported.distinct, ?_, ?_⟩
  · intro worker hWorker hJoined
    rw [hKeeps.joined] at hJoined
    obtain ⟨r, hr, hEnded⟩ := hReported.joined worker hWorker hJoined
    exact ⟨r, hr, by rw [hKeeps.ended worker _ hEnded, hEnded]⟩
  · intro r hr
    obtain ⟨worker, hWorker, hJoined, hEnded⟩ := hReported.heard r hr
    exact ⟨worker, hWorker, by rw [hKeeps.joined, hJoined],
      by rw [hKeeps.ended worker _ hEnded, hEnded]⟩

/-- The runner has all reports. -/
structure Complete (c : Config) (s : State ι π) (reports : List WorkerReport) : Prop where
  reported : Reported c s reports
  all : ∀ worker < c.workers, (s.task worker).joined = true

omit [Indexer ι] [Processor π] in
theorem Complete.allReported {reports : List WorkerReport} (hComplete : Complete c s reports) :
    AllReported c s := by
  intro worker hWorker
  obtain ⟨r, -, hEnded⟩ :=
    hComplete.reported.joined worker hWorker (hComplete.all worker hWorker)
  exact ⟨r, hEnded⟩

omit [Indexer ι] [Processor π] in
theorem Complete.kept {reports : List WorkerReport} (hComplete : Complete c s reports)
    (hKeeps : Keeps c s t) : Complete c t reports :=
  ⟨hComplete.reported.kept hKeeps,
    fun worker hWorker => (hKeeps.joined worker).trans (hComplete.all worker hWorker)⟩

omit [Indexer ι] [Processor π] in
theorem Failed.kept (hFailed : Failed c s) (hKeeps : Keeps c s t) : Failed c t := by
  rcases hFailed with ⟨e, unread, hReturned⟩ | ⟨worker, hWorker, halt, hEnded⟩
  · exact .inl ⟨e, unread, hKeeps.scan _ _ hReturned⟩
  · exact .inr ⟨worker, hWorker, halt, by rw [hKeeps.ended worker _ hEnded, hEnded]⟩

omit [Indexer ι] [Processor π] in
theorem Scanned.kept {d : DispatchSummary} (hScanned : Scanned s d) (hKeeps : Keeps c s t) :
    Scanned t d := by
  obtain ⟨unread, hReturned⟩ := hScanned
  exact ⟨unread, hKeeps.scan _ _ hReturned⟩

/-- What the runner says is true of the others. -/
def Truthful (c : Config) (s : State ι π) : Runner → Prop
  | .selecting scanned reports => (∀ d, scanned = some d → Scanned s d) ∧ Reported c s reports
  | .awaiting reports => Complete c s reports
  | .aborting _ => Failed c s
  | .returned (.error _) => Failed c s
  | .returned (.ok summary) => ∃ d reports elapsed, Scanned s d ∧ Complete c s reports ∧
      summary = Load.summarise (inOrder reports) s.totals elapsed d

omit [Indexer ι] [Processor π] in
theorem Truthful.kept {runner : Runner} (hTruthful : Truthful c s runner) (hKeeps : Keeps c s t) :
    Truthful c t runner := by
  cases runner with
  | selecting scanned reports =>
      exact ⟨fun d hd => (hTruthful.1 d hd).kept hKeeps, hTruthful.2.kept hKeeps⟩
  | awaiting reports => exact Complete.kept hTruthful hKeeps
  | aborting e => exact Failed.kept hTruthful hKeeps
  | returned result =>
      cases result with
      | error e => exact Failed.kept hTruthful hKeeps
      | ok summary =>
          obtain ⟨d, reports, elapsed, hScanned, hComplete, rfl⟩ := hTruthful
          refine ⟨d, reports, elapsed, hScanned.kept hKeeps, hComplete.kept hKeeps, ?_⟩
          rw [hKeeps.totals hComplete.allReported]

omit [Indexer ι] in
/-- A worker that is joined adds its own report to the others. -/
theorem Reported.join (hTasks : Replaying c processor s) {reports : List WorkerReport}
    (hReported : Reported c s reports) {worker : Nat} {r : WorkerReport}
    (hWorker : worker < c.workers) (hEnded : (s.task worker).phase = .ended (.ok r))
    (hFirst : (s.task worker).joined = false) (runner : Runner) :
    Reported c (s.join worker runner) (reports ++ [r]) := by
  have hOwn : r.worker = worker := (hTasks.report hEnded).2
  have hPhase (other : Nat) : ((s.join worker runner).task other).phase = (s.task other).phase :=
    s.phase_join worker runner other
  refine ⟨?_, ?_, ?_⟩
  · rw [List.map_append, List.nodup_append]
    refine ⟨hReported.distinct, by simp, ?_⟩
    intro ordinal hOrdinal other hOther hSame
    obtain ⟨r', hr', rfl⟩ := List.mem_map.mp hOrdinal
    obtain ⟨joined, hJoinedLt, hJoined, hJoinedEnded⟩ := hReported.heard r' hr'
    have hTheirs := (hTasks.report hJoinedEnded).2
    have hThis : other = worker := by simpa [hOwn] using hOther
    rw [hTheirs, hThis] at hSame
    rw [hSame, hFirst] at hJoined
    cases hJoined
  · intro other hOtherLt hJoined
    rw [hPhase]
    by_cases hSame : other = worker
    · exact ⟨r, List.mem_append_right _ (List.mem_singleton_self r), hSame ▸ hEnded⟩
    · simp only [State.join, Function.update_of_ne hSame] at hJoined
      obtain ⟨r', hr', hOtherEnded⟩ := hReported.joined other hOtherLt hJoined
      exact ⟨r', List.mem_append_left _ hr', hOtherEnded⟩
  · intro r' hr'
    rcases List.mem_append.mp hr' with hBefore | hNew
    · obtain ⟨other, hOtherLt, hJoined, hOtherEnded⟩ := hReported.heard r' hBefore
      refine ⟨other, hOtherLt, ?_, (hPhase other).trans hOtherEnded⟩
      by_cases hSame : other = worker
      · subst hSame
        simp [State.join]
      · simpa [State.join, Function.update_of_ne hSame] using hJoined
    · rw [List.mem_singleton.mp hNew]
      exact ⟨worker, hWorker, by simp [State.join], (hPhase worker).trans hEnded⟩

theorem Truthful.step (hScanning : Scanning c source indexer s) (hTasks : Replaying c processor s)
    (hTruthful : Truthful c s s.runner) (hStep : Step c s t) : Truthful c t t.runner := by
  have hScan := hScanning.scan_kept hStep
  have hSameTasks (hTask : t.task = s.task) (hTotals : t.totals = s.totals) : Keeps c s t :=
    ⟨hScan, fun worker _ _ => by rw [hTask], fun worker => by rw [hTask], fun _ => hTotals⟩
  cases hStep with
  | advance _ => exact hTruthful.kept (hSameTasks rfl rfl)
  | deliver _ _ _ _ => exact hTruthful.kept (hSameTasks rfl rfl)
  | refuse _ _ => exact hTruthful.kept (hSameTasks rfl rfl)
  | start hWorker hPhase _ =>
      exact hTruthful.kept (.of_update hWorker hScan rfl (fun _ => by rw [hPhase]; nofun) rfl)
  | receive hWorker hPhase _ =>
      exact hTruthful.kept (.of_update hWorker hScan rfl (fun _ => by rw [hPhase]; nofun) rfl)
  | process hWorker hPhase _ =>
      exact hTruthful.kept (.of_update hWorker hScan rfl (fun _ => by rw [hPhase]; nofun) rfl)
  | finish hWorker hPhase _ _ =>
      exact hTruthful.kept (.of_update hWorker hScan rfl (fun _ => by rw [hPhase]; nofun) rfl)
  | abort hWorker _ hLive =>
      refine hTruthful.kept (.of_update hWorker hScan rfl (fun result hEnded => ?_) rfl)
      simp [Task.Live, hEnded] at hLive
  | scanned hRunner hReturned =>
      rw [hRunner] at hTruthful
      exact ⟨fun d hd => Option.some.inj hd ▸ ⟨_, hReturned⟩, hTruthful.2.kept (hSameTasks rfl rfl)⟩
  | scanFailed hRunner hReturned => exact .inl ⟨_, _, hReturned⟩
  | joined hWorker hRunner hPhase hFirst =>
      rw [hRunner] at hTruthful
      exact ⟨hTruthful.1, hTruthful.2.join hTasks hWorker hPhase hFirst _⟩
  | @joinFailed worker scanned reports e hWorker hRunner hPhase hFirst =>
      exact .inr ⟨worker, hWorker, .failed e, by simp [State.join, hPhase]⟩
  | summarise hRunner hAll elapsed =>
      rw [hRunner] at hTruthful
      exact ⟨_, _, elapsed, hTruthful.1 _ rfl, ⟨hTruthful.2.kept (hSameTasks rfl rfl), hAll⟩, rfl⟩
  | await hRunner hAll =>
      rw [hRunner] at hTruthful
      exact ⟨hTruthful.2.kept (hSameTasks rfl rfl), hAll⟩
  | awaited hRunner hReturned elapsed =>
      rw [hRunner] at hTruthful
      exact ⟨_, _, elapsed, ⟨_, hReturned⟩, Complete.kept hTruthful (hSameTasks rfl rfl), rfl⟩
  | awaitFailed hRunner hReturned => exact .inl ⟨_, _, hReturned⟩
  | giveUp hRunner hNone =>
      rw [hRunner] at hTruthful
      exact Failed.kept hTruthful (hSameTasks rfl rfl)

/-- In every state that a load comes to, what the runner says is true. -/
theorem truthful (hReach : Reachable c source indexer processor s) : Truthful c s s.runner := by
  induction hReach with
  | initial => exact ⟨nofun, by simp, by simp [Concurrent.initial], nofun⟩
  | step hBefore hStep ih => exact ih.step (scanning hBefore) (replaying hBefore) hStep

end BulkLoad.Concurrent
