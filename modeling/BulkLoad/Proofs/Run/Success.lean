import BulkLoad.Proofs.Influx.Processing
import BulkLoad.Proofs.Run.Joining
import Mathlib.Algebra.Group.Nat.Defs
import Mathlib.Data.List.Perm.Subperm

/-!
A load succeeds if and only if all its parts do, and then their figures agree.

A worker that finishes leaves an empty channel behind, which no batch enters any more. So when all
workers have finished, each batch that was sent was handed to one of them, and what the workers report
is what dispatch counted.
-/
namespace BulkLoad.Concurrent

variable {ι π : Type} [Indexer ι] [Processor π] {c : Config} {source : Source.Stream} {indexer : ι}
  {processor : Nat → π} {s t : State ι π}

/-- A worker that gave its report has emptied its channel. -/
def Emptied (c : Config) (s : State ι π) : Prop :=
  ∀ worker r, (s.task worker).phase = .ended (.ok r) → Drained s (lane c worker)

/-- A channel that is closed and empty stays so. -/
theorem Drained.step {channel : Nat} (hDrained : Drained s channel)
    (hScanning : Scanning c source indexer s) (hStep : Step c s t) : Drained t channel := by
  obtain ⟨⟨result, unread, hReturned⟩, hQueue⟩ := hDrained
  refine ⟨⟨result, unread, hScanning.scan_kept hStep result unread hReturned⟩, ?_⟩
  cases hStep with
  | deliver hDue hOpen hRoom hSend =>
      rcases hScanning.idle with hIdle | hRunning
      · rw [hIdle] at hDue
        cases hDue
      · exact absurd hReturned (hRunning _ _)
  | @receive worker b rest hWorker hPhase hWaiting =>
      have hOther : channel ≠ lane c worker := by
        rintro rfl
        rw [hQueue] at hWaiting
        cases hWaiting
      simpa [State.receive, State.rephased, hOther] using hQueue
  | _ => exact hQueue

omit [Indexer ι] [Processor π] in
theorem ended_of_update {changed worker : Nat} {task : Task π} {r : WorkerReport}
    (hNot : task.phase ≠ .ended (.ok r))
    (hEnded : (Function.update s.task changed task worker).phase = .ended (.ok r)) :
    (s.task worker).phase = .ended (.ok r) := by
  by_cases hSame : worker = changed
  · subst hSame
    rw [Function.update_self] at hEnded
    exact absurd hEnded hNot
  · rwa [Function.update_of_ne hSame] at hEnded

theorem afterCall_ready_ne (worker : Nat) (result : Except Halt Unit) (r : WorkerReport) :
    Task.Phase.afterCall worker (fun _ => .ready) result ≠ .ended (.ok r) := by
  cases result <;> nofun

/-- A worker gives a report only by finishing, and it finishes only when its channel is drained. -/
theorem drained_of_ended (hStep : Step c s t) {worker : Nat} {r : WorkerReport}
    (hEnded : (t.task worker).phase = .ended (.ok r)) :
    (s.task worker).phase = .ended (.ok r) ∨ Drained s (lane c worker) := by
  cases hStep with
  | start hWorker hPhase hReturns => exact .inl (ended_of_update (afterCall_ready_ne _ _ r) hEnded)
  | process hWorker hPhase hReturns =>
      exact .inl (ended_of_update (afterCall_ready_ne _ _ r) hEnded)
  | receive hWorker hPhase hQueue => exact .inl (ended_of_update (by nofun) hEnded)
  | abort hWorker hRunner hLive => exact .inl (ended_of_update (by nofun) hEnded)
  | joined hWorker hRunner hPhase hFirst =>
      exact .inl ((s.phase_join _ _ worker).symm.trans hEnded)
  | joinFailed hWorker hRunner hPhase hFirst =>
      exact .inl ((s.phase_join _ _ worker).symm.trans hEnded)
  | @finish finished hWorker hPhase hDrained hReturns =>
      by_cases hSame : worker = finished
      · exact .inr (hSame ▸ hDrained)
      · left
        simpa [State.called, State.moved, hSame] using hEnded
  | _ => exact .inl hEnded

theorem emptied (hReach : Reachable c source indexer processor s) : Emptied c s := by
  induction hReach with
  | initial => exact fun worker r hEnded => by cases hEnded
  | step hBefore hStep ih =>
      intro worker r hEnded
      have hScanning := scanning hBefore
      rcases drained_of_ended hStep hEnded with hEarlier | hDrained
      · exact (ih worker r hEarlier).step hScanning hStep
      · exact hDrained.step hScanning hStep

theorem workers_pos (hStart : Load.startFault? c = none) : 0 < c.workers := by
  unfold Load.startFault? at hStart
  split at hStart
  · cases hStart
  · rename_i hSome
    exact Nat.pos_of_ne_zero hSome

/-- There is a channel, and no more channels than workers. -/
theorem channelCount_bounds (hStart : Load.startFault? c = none) :
    0 < c.channelCount ∧ c.channelCount ≤ c.workers := by
  have hWorkers := workers_pos hStart
  unfold Config.channelCount
  split <;> omega

theorem lane_lt (hStart : Load.startFault? c = none) (worker : Nat) :
    lane c worker < c.channelCount :=
  Nat.mod_lt _ (channelCount_bounds hStart).1

/-- In the end nothing waits: each batch that was sent was handed to a worker. -/
theorem sent_of_allReported (hReach : Reachable c source indexer processor s)
    (hStart : Load.startFault? c = none) (hAll : AllReported c s) {channel : Nat}
    (hChannel : channel < c.channelCount) :
    s.scan.dispatch.receivedOn channel = s.handedOn c channel := by
  have hWorker : channel < c.workers :=
    Nat.lt_of_lt_of_le hChannel (channelCount_bounds hStart).2
  have hLane : lane c channel = channel := Nat.mod_eq_of_lt hChannel
  obtain ⟨r, hEnded⟩ := hAll channel hWorker
  obtain ⟨-, hQueue⟩ := emptied hReach channel r hEnded
  have hSent := (conserved hReach).sent channel
  rwa [← hLane, hQueue, hLane, List.append_nil] at hSent

/-- What a measure of batches comes to over all channels, it comes to over all workers. -/
theorem sumOf_taken (hReach : Reachable c source indexer processor s)
    (hStart : Load.startFault? c = none) (hAll : AllReported c s) (measure : LineBatch → Nat) :
    sumOf (fun worker => sumOf measure (s.taken worker)) (List.range c.workers) =
      sumOf (fun channel => sumOf measure (s.scan.dispatch.receivedOn channel))
        (List.range c.channelCount) := by
  have hWorkers := sumOf_kinds (fun h : Nat × LineBatch => measure h.2) Prod.fst
    (conserved hReach).handed
  have hChannels := sumOf_kinds (fun h : Nat × LineBatch => measure h.2) (fun h => lane c h.1)
    (fun h (_ : h ∈ s.handed) => lane_lt hStart h.1)
  have hTaken (worker : Nat) : sumOf measure (s.taken worker) =
      sumOf (fun h => measure h.2) (s.handed.filter fun h => h.1 = worker) :=
    sumOf_map measure Prod.snd _
  have hSent : ∀ channel ∈ List.range c.channelCount,
      sumOf measure (s.scan.dispatch.receivedOn channel) =
        sumOf (fun h => measure h.2) (s.handed.filter fun h => lane c h.1 = channel) := by
    intro channel hChannel
    rw [sent_of_allReported hReach hStart hAll (List.mem_range.mp hChannel), State.handedOn, sumOf_map]
  rw [sumOf_congr hSent, hChannels, ← hWorkers]
  exact sumOf_congr fun worker _ => hTaken worker

/-- With a channel for each worker, a worker was handed what was sent to its channel. -/
theorem taken_of_own (hReach : Reachable c source indexer processor s)
    (hStart : Load.startFault? c = none) (hAll : AllReported c s)
    (hOwn : c.channelCount = c.workers) {worker : Nat} (hWorker : worker < c.workers) :
    s.taken worker = s.scan.dispatch.receivedOn worker := by
  rw [sent_of_allReported hReach hStart hAll (hOwn ▸ hWorker), State.taken, State.handedOn]
  congr 1
  apply List.filter_congr
  intro h hHanded
  have hLane : lane c h.1 = h.1 := Nat.mod_eq_of_lt (hOwn ▸ (conserved hReach).handed h hHanded)
  rw [hLane]

/-- All went well: dispatch returned a summary, and every worker its report. -/
def AllWell (c : Config) (s : State ι π) : Prop := (∃ d, Scanned s d) ∧ AllReported c s

/-- The runner has returned a summary. -/
def Succeeded (s : State ι π) : Prop := ∃ summary, s.runner = .returned (.ok summary)

omit [Indexer ι] [Processor π] in
theorem Reported.length_le {reports : List WorkerReport} (hReported : Reported c s reports)
    (hTasks : ∀ worker r, (s.task worker).phase = .ended (.ok r) → r.worker = worker) :
    reports.length ≤ c.workers := by
  have hRange : reports.map WorkerReport.worker ⊆ List.range c.workers := by
    intro ordinal hOrdinal
    obtain ⟨r, hr, rfl⟩ := List.mem_map.mp hOrdinal
    obtain ⟨worker, hWorker, -, hEnded⟩ := hReported.heard r hr
    rw [hTasks worker r hEnded]
    exact List.mem_range.mpr hWorker
  simpa using (hReported.distinct.subperm hRange).length_le

/-- How much a runner has still to hear when all went well. -/
def Runner.pending (c : Config) : Runner → Nat
  | .selecting scanned reports =>
    (c.workers - reports.length) + (if scanned.isSome then 0 else 1) + 2
  | .awaiting _ => 1
  | .aborting _ => 0
  | .returned _ => 0

/-- The steps that are left when all went well are those of the runner. -/
theorem AllWell.steps (hReach : Reachable c source indexer processor s) (hWell : AllWell c s)
    (hStep : Step c s t) :
    (∃ d reports, s.runner = .selecting none reports ∧
      t = { s with runner := .selecting (some d) reports }) ∨
    (∃ worker scanned reports r, s.runner = .selecting scanned reports ∧
      t = s.join worker (.selecting scanned (reports ++ [r]))) ∨
    (∃ reports, s.runner = .selecting none reports ∧ t = { s with runner := .awaiting reports }) ∨
    ∃ summary, ((∃ d reports, s.runner = .selecting (some d) reports) ∨
        ∃ reports, s.runner = .awaiting reports) ∧
      t = { s with runner := .returned (.ok summary) } := by
  have hTruthful := truthful hReach
  have hSound : ¬Failed c s := fun hFailed => hFailed.not_all hWell
  obtain ⟨⟨d, unread, hScan⟩, hAll⟩ := hWell
  have hIdle : s.scan.due = none :=
    (scanning hReach).idle.resolve_right fun hRunning => hRunning _ _ hScan
  have hEnded : ∀ worker < c.workers, ∀ phase, (∀ r, .ended (.ok r) ≠ phase) →
      (s.task worker).phase ≠ phase := by
    intro worker hWorker phase hOther hPhase
    obtain ⟨r, hReported⟩ := hAll worker hWorker
    exact hOther r (hReported.symm.trans hPhase)
  cases hStep with
  | advance hAdvance =>
      rw [Scan.advance_of_returned hScan] at hAdvance
      cases hAdvance
  | deliver hDue _ _ _ => rw [hIdle] at hDue; cases hDue
  | refuse hDue _ => rw [hIdle] at hDue; cases hDue
  | start hWorker hPhase _ => exact absurd hPhase (hEnded _ hWorker _ nofun)
  | receive hWorker hPhase _ => exact absurd hPhase (hEnded _ hWorker _ nofun)
  | process hWorker hPhase _ => exact absurd hPhase (hEnded _ hWorker _ nofun)
  | finish hWorker hPhase _ _ => exact absurd hPhase (hEnded _ hWorker _ nofun)
  | scanned hRunner hReturned => exact .inl ⟨_, _, hRunner, rfl⟩
  | scanFailed hRunner hReturned => rw [hScan] at hReturned; cases hReturned
  | joined hWorker hRunner hPhase hFirst => exact .inr (.inl ⟨_, _, _, _, hRunner, rfl⟩)
  | joinFailed hWorker hRunner hPhase hFirst => exact absurd (.inr ⟨_, hWorker, _, hPhase⟩) hSound
  | summarise hRunner _ elapsed => exact .inr (.inr (.inr ⟨_, .inl ⟨_, _, hRunner⟩, rfl⟩))
  | await hRunner _ => exact .inr (.inr (.inl ⟨_, hRunner, rfl⟩))
  | awaited hRunner _ elapsed => exact .inr (.inr (.inr ⟨_, .inr ⟨_, hRunner⟩, rfl⟩))
  | awaitFailed hRunner hReturned => rw [hScan] at hReturned; cases hReturned
  | abort hWorker hRunner _ => rw [hRunner] at hTruthful; exact absurd hTruthful hSound
  | giveUp hRunner _ => rw [hRunner] at hTruthful; exact absurd hTruthful hSound

omit [Indexer ι] [Processor π] in
theorem AllWell.join (hWell : AllWell c s) (worker : Nat) (runner : Runner) :
    AllWell c (s.join worker runner) := by
  refine ⟨hWell.1, fun other hOther => ?_⟩
  obtain ⟨r, hEnded⟩ := hWell.2 other hOther
  exact ⟨r, (s.phase_join worker runner other).trans hEnded⟩

/-- When all went well the runner hears something with each step. -/
theorem AllWell.step (hReach : Reachable c source indexer processor s) (hWell : AllWell c s)
    (hStep : Step c s t) : AllWell c t ∧ t.runner.pending c < s.runner.pending c := by
  rcases hWell.steps hReach hStep with ⟨d, reports, hRunner, rfl⟩ |
    ⟨worker, scanned, reports, r, hRunner, rfl⟩ | ⟨reports, hRunner, rfl⟩ |
    ⟨summary, ⟨d, reports, hRunner⟩ | ⟨reports, hRunner⟩, rfl⟩
  · exact ⟨hWell, by simp [hRunner, Runner.pending]⟩
  · refine ⟨hWell.join worker _, ?_⟩
    have hNext := hReach.step hStep
    have hLength := (truthful hNext).2.length_le fun worker r hEnded =>
      ((replaying hNext).report hEnded).2
    rw [List.length_append, List.length_singleton] at hLength
    simp only [State.join, hRunner, Runner.pending, List.length_append, List.length_singleton]
    omega
  · refine ⟨hWell, ?_⟩
    simp only [hRunner, Runner.pending]
    omega
  · exact ⟨hWell, by simp [hRunner, Runner.pending]⟩
  · exact ⟨hWell, by simp [hRunner, Runner.pending]⟩

/-- When all went well and the runner has not returned, it can go on. -/
theorem AllWell.goesOn (hReach : Reachable c source indexer processor s) (hWell : AllWell c s) :
    Succeeded s ∨ ∃ t, Step c s t := by
  have hTruthful := truthful hReach
  have hSound : ¬Failed c s := fun hFailed => hFailed.not_all hWell
  obtain ⟨⟨d, unread, hScan⟩, hAll⟩ := hWell
  cases hRunner : s.runner with
  | selecting scanned reports =>
      right
      cases scanned with
      | none => exact ⟨_, .scanned hRunner hScan⟩
      | some d =>
          by_cases hJoined : ∀ worker < c.workers, (s.task worker).joined = true
          · exact ⟨_, .summarise hRunner hJoined 0⟩
          · push Not at hJoined
            obtain ⟨worker, hWorker, hFirst⟩ := hJoined
            obtain ⟨r, hEnded⟩ := hAll worker hWorker
            exact ⟨_, .joined hWorker hRunner hEnded (by simpa using hFirst)⟩
  | awaiting reports => exact .inr ⟨_, .awaited hRunner hScan 0⟩
  | aborting e =>
      rw [hRunner] at hTruthful
      exact absurd hTruthful hSound
  | returned result =>
      cases result with
      | ok summary => exact .inl ⟨summary, hRunner⟩
      | error e =>
          rw [hRunner] at hTruthful
          exact absurd hTruthful hSound

/-- When all went well the runner returns a summary in the end. -/
theorem AllWell.inevitably (hReach : Reachable c source indexer processor s)
    (hWell : AllWell c s) : Inevitably c Succeeded s := by
  induction hPending : s.runner.pending c using Nat.strongRecOn generalizing s with
  | ind pending ih =>
      subst hPending
      rcases hWell.goesOn hReach with hSucceeded | hGoesOn
      · exact .now hSucceeded
      · refine .later hGoesOn fun t hStep => ?_
        obtain ⟨hNext, hLess⟩ := hWell.step hReach hStep
        exact ih _ hLess (hReach.step hStep) hNext rfl

/-- The runner returns a summary if and only if all went well. -/
theorem returned_ok_iff (hReach : Reachable c source indexer processor s)
    {result : Except LoadError LoadSummary} (hRunner : s.runner = .returned result) :
    (∃ summary, result = .ok summary) ↔ AllWell c s := by
  have hTruthful := truthful hReach
  rw [hRunner] at hTruthful
  cases result with
  | error e =>
      refine ⟨fun hOk => ?_, fun hWell => absurd hWell hTruthful.not_all⟩
      obtain ⟨summary, hSame⟩ := hOk
      cases hSame
  | ok summary =>
      obtain ⟨d, reports, elapsed, hScanned, hComplete, -⟩ := hTruthful
      exact ⟨fun _ => ⟨⟨d, hScanned⟩, hComplete.allReported⟩, fun _ => ⟨summary, rfl⟩⟩

theorem pairwise_inOrder (reports : List WorkerReport) :
    ((inOrder reports).map WorkerReport.worker).Pairwise (· ≤ ·) := by
  rw [List.pairwise_map]
  have hSorted : (inOrder reports).Pairwise fun a b => decide (a.worker ≤ b.worker) = true := by
    apply List.pairwise_mergeSort
    · intro a b c hab hbc
      simp only [decide_eq_true_eq] at *
      exact Nat.le_trans hab hbc
    · intro a b
      simpa using Nat.le_total a.worker b.worker
  exact hSorted.imp fun hLe => of_decide_eq_true hLe

omit [Indexer ι] in
/-- Each ordinal stands once among the reports, and in its place. -/
theorem Complete.ordinals {reports : List WorkerReport} (hComplete : Complete c s reports)
    (hTasks : Replaying c processor s) :
    (inOrder reports).map WorkerReport.worker = List.range c.workers := by
  have hSame : (inOrder reports).map WorkerReport.worker |>.Perm
      (reports.map WorkerReport.worker) := (List.mergeSort_perm reports _).map _
  have hMem (ordinal : Nat) :
      ordinal ∈ reports.map WorkerReport.worker ↔ ordinal ∈ List.range c.workers := by
    rw [List.mem_map, List.mem_range]
    constructor
    · rintro ⟨r, hr, rfl⟩
      obtain ⟨worker, hWorker, -, hEnded⟩ := hComplete.reported.heard r hr
      rwa [(hTasks.report hEnded).2]
    · intro hWorker
      obtain ⟨r, hr, hEnded⟩ :=
        hComplete.reported.joined ordinal hWorker (hComplete.all ordinal hWorker)
      exact ⟨r, hr, (hTasks.report hEnded).2⟩
  have hRange := (List.perm_ext_iff_of_nodup hComplete.reported.distinct List.nodup_range).mpr hMem
  exact (hSame.trans hRange).eq_of_pairwise (fun a b _ _ => Nat.le_antisymm)
    (pairwise_inOrder reports) (List.pairwise_le_range)

omit [Indexer ι] in
/-- All reports in the order of the workers are the reports that the workers kept. -/
theorem Complete.inOrder_eq {reports : List WorkerReport} (hComplete : Complete c s reports)
    (hTasks : Replaying c processor s) :
    inOrder reports = (List.range c.workers).map fun worker => (s.task worker).state.report := by
  have hKept : ∀ r ∈ inOrder reports, (s.task r.worker).state.report = r := by
    intro r hr
    rw [inOrder, List.mem_mergeSort] at hr
    obtain ⟨worker, hWorker, -, hEnded⟩ := hComplete.reported.heard r hr
    obtain ⟨hReport, hOwn⟩ := hTasks.report hEnded
    rw [hOwn, hReport]
  rw [← hComplete.ordinals hTasks, List.map_map]
  exact (List.map_id _).symm.trans (List.map_congr_left fun r hr => (hKept r hr).symm)

section

variable {processor : Nat → InfluxProcessor} {s : State ι InfluxProcessor}

/-- When all went well each worker reports the batches that it was handed. -/
theorem covers_taken (hReach : Reachable c source indexer processor s) {worker : Nat}
    {r : WorkerReport} (hEnded : (s.task worker).phase = .ended (.ok r)) :
    r.Covers (s.taken worker) := by
  have hTask := replaying hReach worker
  unfold Task.Replays at hTask
  rw [hEnded] at hTask
  exact WorkerState.covers_run InfluxProcessor.countsBatches ⟨rfl, rfl, rfl⟩ hTask.1

/-- A figure of all reports is the measure of all batches that were sent. -/
theorem figure_of_allReported (hReach : Reachable c source indexer processor s)
    (hStart : Load.startFault? c = none) (hAll : AllReported c s) {figure : WorkerReport → Nat}
    {measure : LineBatch → Nat}
    (hFigure : ∀ r taken, WorkerReport.Covers r taken → figure r = sumOf measure taken) :
    s.figure c figure = sumOf (fun channel => sumOf measure (s.scan.dispatch.receivedOn channel))
      (List.range c.channelCount) := by
  rw [← sumOf_taken hReach hStart hAll]
  apply sumOf_congr
  intro worker hWorker
  obtain ⟨r, hEnded⟩ := hAll worker (List.mem_range.mp hWorker)
  rw [((replaying hReach).report hEnded).1]
  exact hFigure r _ (covers_taken hReach hEnded)

/-- What dispatch counted agrees with what it sent to the channels. -/
theorem figures_of_scanned (hReach : Reachable c source indexer processor s)
    {d : DispatchSummary} (hScanned : Scanned s d) :
    d.points = sumOf (fun channel => sumOf LineBatch.points (s.scan.dispatch.receivedOn channel))
        (List.range c.channelCount) ∧
      d.batchesPerChannel =
        (List.range c.channelCount).map fun channel =>
          (s.scan.dispatch.receivedOn channel).length := by
  obtain ⟨unread, hReturned⟩ := hScanned
  obtain ⟨hResult, -⟩ := (scanning hReach).of_returned hReturned
  obtain ⟨hDelivers, -, hPicks⟩ :=
    Dispatch.delivers_of_run indexer (.ofCapacity (Load.poolSize c)) hResult
  have hSame := (scanning hReach).receivedOn_of_returned hReturned
  have hBatches := hDelivers.batches hResult
  have hWeigh (lines : List Point) :
      (LineBatch.ofLines lines).points = sumOf (fun _ => 1) lines := by simp
  have hSum := hDelivers.sumOf_receivedOn (DispatchLimits.fullSize_pos _) hPicks hWeigh
  have hCounted := hDelivers.result.symm.trans hResult
  injection hCounted with hCounted
  change sumOf (fun channel => sumOf LineBatch.points
    ((alone c source indexer).final.receivedOn channel)) _ = _ at hSum
  change _ = List.map (fun channel =>
    ((alone c source indexer).final.receivedOn channel).length) _ at hBatches
  simp only [hSame] at hSum hBatches
  refine ⟨?_, hBatches⟩
  rw [hSum, sumOf_one, ← hCounted]

/-- When all went well the reports add up to what dispatch counted. -/
theorem figures_of_allReported (hReach : Reachable c source indexer processor s)
    (hStart : Load.startFault? c = none) (hAll : AllReported c s) {d : DispatchSummary}
    (hScanned : Scanned s d) :
    s.figure c (fun r => r.counts.points) = d.points ∧
      s.figure c (fun r => r.counts.rows) =
        sumOf (fun channel => sumOf LineBatch.rows (s.scan.dispatch.receivedOn channel))
          (List.range c.channelCount) ∧
      s.figure c WorkerReport.batches = d.batches := by
  obtain ⟨hPoints, hChannels⟩ := figures_of_scanned hReach hScanned
  have hCount : ∀ r taken, WorkerReport.Covers r taken → r.batches = sumOf (fun _ => 1) taken := by
    intro r taken hCovers
    rw [sumOf_one, hCovers.batches]
  refine ⟨?_, ?_, ?_⟩
  · rw [hPoints]
    exact figure_of_allReported hReach hStart hAll fun _ _ => WorkerReport.Covers.points
  · exact figure_of_allReported hReach hStart hAll fun _ _ => WorkerReport.Covers.rows
  · rw [figure_of_allReported hReach hStart hAll hCount, DispatchSummary.batches, hChannels, sumOf_map]
    simp

/-- A load succeeds if and only if dispatch and all workers do, and it does so in the end, in whatever
order they finish. Then its figures are those of the reports and those of dispatch, and each worker has
one report, in its place; a worker with a channel of its own reports the batches of that channel. -/
theorem succeeds_iff_all_do (hStart : Load.startFault? c = none)
    (hReach : Reachable c source indexer processor s) :
    (∀ result, s.runner = .returned result →
      ((∃ summary, result = .ok summary) ↔ AllWell c s)) ∧
    (AllWell c s → Inevitably c Succeeded s) ∧
    ∀ summary, s.runner = .returned (.ok summary) → ∃ d, Scanned s d ∧
      let rows := sumOf (fun channel => sumOf LineBatch.rows (s.scan.dispatch.receivedOn channel))
        (List.range c.channelCount)
      sumOf (fun r => r.counts.points) summary.workers = d.points ∧
      sumOf (fun r => r.counts.rows) summary.workers = rows ∧
      sumOf WorkerReport.batches summary.workers = d.batches ∧
      (d.points < 2 ^ 64 → summary.points = d.points) ∧
      (rows < 2 ^ 64 → summary.rows = rows) ∧
      (d.batches < 2 ^ 64 → summary.batches = d.batches) ∧
      summary.workers.map WorkerReport.worker = List.range c.workers ∧
      (c.hashWorkers = true → summary.batchesPerChannel = summary.workers.map WorkerReport.batches) := by
  refine ⟨fun result hRunner => returned_ok_iff hReach hRunner, fun hWell => hWell.inevitably hReach,
    ?_⟩
  intro summary hRunner
  have hTruthful := truthful hReach
  rw [hRunner] at hTruthful
  obtain ⟨d, reports, elapsed, hScanned, hComplete, rfl⟩ := hTruthful
  have hAll := hComplete.allReported
  have hTasks := replaying hReach
  have hWorkers := hComplete.inOrder_eq hTasks
  obtain ⟨-, hChannels⟩ := figures_of_scanned hReach hScanned
  obtain ⟨hPoints, hRows, hBatches⟩ := figures_of_allReported hReach hStart hAll hScanned
  have hTallied := tallied hReach
  have hReports (figure : WorkerReport → Nat) :
      sumOf figure (inOrder reports) = s.figure c figure := by
    rw [hWorkers, sumOf_map, State.figure]
  have hWord {word : UInt64} {n m : Nat} (hWord : word = .ofNat n) (hSame : n = m)
      (hFits : m < 2 ^ 64) : word.toNat = m := by
    rw [hWord, hSame, UInt64.toNat_ofNat', Nat.mod_eq_of_lt hFits]
  refine ⟨d, hScanned, (hReports _).trans hPoints, (hReports _).trans hRows,
    (hReports _).trans hBatches, hWord hTallied.points hPoints, hWord hTallied.rows hRows,
    hWord hTallied.batches hBatches, hComplete.ordinals hTasks, ?_⟩
  intro hHash
  have hOwn : c.channelCount = c.workers := by simp [Config.channelCount, hHash]
  change d.batchesPerChannel = (inOrder reports).map WorkerReport.batches
  rw [hChannels, hWorkers, List.map_map, hOwn]
  apply List.map_congr_left
  intro worker hWorker
  have hWorkerLt := List.mem_range.mp hWorker
  obtain ⟨r, hEnded⟩ := hAll worker hWorkerLt
  rw [Function.comp_apply, (hTasks.report hEnded).1, (covers_taken hReach hEnded).batches,
    taken_of_own hReach hStart hAll hOwn hWorkerLt]

end

/-- A dry run of two workers, and a source with one point. -/
def dryRun : Config := { workers := 2, hashWorkers := true, batchSize := 1, doLoad := false }

def onePoint : Source.Stream where
  items := [.point (Utf8.encode "a x=1 1")]

def dryProcessor (_ : Nat) : InfluxProcessor :=
  .ofConfig .stored dryRun ⟨fun worker => (.ok ⟨worker, ""⟩, [])⟩ 1 {}

/-- Here the runner hears of both workers first, and of dispatch when it has to. -/
theorem succeeds_iff_all_do_dryRun : ∃ s summary,
    Reachable dryRun onePoint (Constant.mk 1) dryProcessor s ∧
      s.runner = .returned (.ok summary) ∧ AllWell dryRun s ∧
      ∃ d, Scanned s d ∧ sumOf WorkerReport.batches summary.workers = d.batches ∧
        summary.workers.map WorkerReport.worker = [0, 1] := by
  have hStart : Load.startFault? dryRun = none := by decide
  have hFirst : 0 < dryRun.workers := by decide
  have hSecond : 1 < dryRun.workers := by decide
  have hInitial : Reachable dryRun onePoint (Constant.mk 1) dryProcessor
    (initial dryRun onePoint (Constant.mk 1) dryProcessor) := .initial
  have hStarted := (hInitial.step (.start hFirst rfl (by nofun))).step
    (.start hSecond rfl (by nofun))
  have hDue := (hStarted.step (.advance rfl)).step (.advance rfl)
  have hSent := hDue.step (.deliver rfl ⟨1, hSecond, rfl, trivial⟩ (by decide) rfl)
  have hTaken := hSent.step (.receive hSecond rfl rfl)
  have hFlushed := ((hTaken.step (.advance rfl)).step (.advance rfl)).step (.advance rfl)
  have hClosed := hFlushed.step (.advance rfl)
  have hEarly := hClosed.step (.finish hFirst rfl ⟨⟨_, _, rfl⟩, rfl⟩ (by nofun))
  have hHeard := hEarly.step (.joined hFirst rfl rfl rfl)
  have hDone := (hHeard.step (.process hSecond rfl (by nofun))).step
    (.finish hSecond rfl ⟨⟨_, _, rfl⟩, rfl⟩ (by nofun))
  have hAlone := (hDone.step (.joined hSecond rfl rfl rfl)).step (.await rfl (by decide))
  have hReach := hAlone.step (.awaited rfl rfl 0)
  obtain ⟨hIff, -, hFigures⟩ := succeeds_iff_all_do hStart hReach
  obtain ⟨d, hScanned, -, -, hBatches, -, -, -, hOrdinals, -⟩ := hFigures _ rfl
  exact ⟨_, _, hReach, rfl, (hIff _ rfl).mp ⟨_, rfl⟩, d, hScanned, hBatches, hOrdinals⟩

end BulkLoad.Concurrent
