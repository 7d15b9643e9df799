import BulkLoad.Proofs.Run.Blame
import BulkLoad.Proofs.Run.Executed

/-!
A load in which nothing fails by itself succeeds.

As long as it has not, something in it can go on: a worker, or dispatch, or the runner. Dispatch never
waits for good before a full channel, since a worker of that channel is at work or can take a batch;
and no channel is found closed, since no worker fails.
-/
namespace BulkLoad.Concurrent

variable {ι π : Type} [Indexer ι] [Processor π] {c : Config} {source : Source.Stream} {indexer : ι}
  {processor : Nat → π} {s : State ι π} {d : DispatchSummary}

/-- Every worker by itself comes to a report, whatever batches it is given. -/
def Unfailing (c : Config) (processor : Nat → π) : Prop :=
  ∀ worker < c.workers, ∀ batches, ∃ r,
    ((fresh c processor worker).run (settings c) batches).result = .ok r

/-- Dispatch by itself comes to a summary, and no worker fails. -/
structure Sound (c : Config) (source : Source.Stream) (indexer : ι) (processor : Nat → π)
    (d : DispatchSummary) : Prop where
  start : Load.startFault? c = none
  dispatched : (alone c source indexer).result = .ok d
  unfailing : Unfailing c processor

theorem Sound.succeeds (hSound : Sound c source indexer processor d) :
    Succeeds c source indexer processor d :=
  ⟨hSound.start, hSound.dispatched, fun worker hWorker => hSound.unfailing worker hWorker _⟩

omit [Indexer ι] in
theorem Unfailing.after (hUnfailing : Unfailing c processor) {worker : Nat}
    (hWorker : worker < c.workers) (batches : List LineBatch) :
    ((fresh c processor worker).after (settings c) batches).1 = .ok () := by
  obtain ⟨r, hRun⟩ := hUnfailing worker hWorker batches
  obtain ⟨next, hAfter, -, -⟩ := WorkerState.after_of_run hRun
  rw [hAfter]

theorem Unfailing.not_failed (hUnfailing : Unfailing c processor)
    (hReach : Reachable c source indexer processor s) {worker : Nat} (hWorker : worker < c.workers)
    (halt : WorkerHalt) : (s.task worker).phase ≠ .ended (.error halt) := by
  intro hEnded
  have hTask := replaying hReach worker
  unfold Task.Replays at hTask
  rw [hEnded] at hTask
  obtain ⟨r, hRun⟩ := hUnfailing worker hWorker (s.taken worker)
  rw [hTask.1] at hRun
  cases hRun

/-- There is nothing to tell. -/
theorem Sound.not_blamed (hSound : Sound c source indexer processor d)
    (hReach : Reachable c source indexer processor s) (e : LoadError) : ¬Blamed c s e := by
  rintro (⟨worker, hWorker, hFailed⟩ | ⟨channel, hChannel, -, hDeserted⟩)
  · exact hSound.unfailing.not_failed hReach hWorker _ hFailed
  · have hWorker : channel < c.workers :=
      Nat.lt_of_lt_of_le hChannel (channelCount_bounds hSound.start).2
    obtain ⟨e, hFailed⟩ := hDeserted channel hWorker (Nat.mod_eq_of_lt hChannel)
    exact hSound.unfailing.not_failed hReach hWorker _ hFailed

/-- The runner gives up in no state that the load comes to. -/
theorem Sound.listens (hSound : Sound c source indexer processor d)
    (hReach : Reachable c source indexer processor s) : s.runner.Listens ∨ Succeeded s := by
  have hNone (e : LoadError) : s.runner.fault? ≠ some e := fun hFault =>
    hSound.not_blamed hReach e (blamed hReach hSound.dispatched hFault)
  cases hRunner : s.runner with
  | selecting scanned reports => exact .inl trivial
  | awaiting reports => exact .inl trivial
  | aborting e => exact absurd (by rw [hRunner, Runner.fault?]) (hNone e)
  | returned result =>
      cases result with
      | ok summary => exact .inr ⟨summary, hRunner⟩
      | error e => exact absurd (by rw [hRunner, Runner.fault?]) (hNone e)

/-- A worker waits for a batch, or it has given its report. -/
def Rests (s : State ι π) (worker : Nat) : Prop :=
  (s.task worker).phase = .ready ∨ ∃ r, (s.task worker).phase = .ended (.ok r)

/-- A worker that does not rest can go on. -/
theorem Sound.rests_or_goesOn (hSound : Sound c source indexer processor d)
    (hReach : Reachable c source indexer processor s) (hListens : s.runner.Listens) {worker : Nat}
    (hWorker : worker < c.workers) : Rests s worker ∨ ∃ t, Step c s t := by
  have hOk := hSound.unfailing.after hWorker (s.taken worker)
  have hTask := replaying hReach worker
  cases hPhase : (s.task worker).phase with
  | fresh =>
      have hCall := (hTask.begin hPhase (s.alike_lent worker)).result.trans hOk
      exact .inr ⟨_, .start hWorker hPhase (by rw [hCall]; nofun)⟩
  | ready => exact .inl (.inl hPhase)
  | holding b =>
      have hCall := (hTask.step hPhase (s.alike_lent worker)).result.trans hOk
      exact .inr ⟨_, .process hWorker hPhase (by rw [hCall]; nofun)⟩
  | aborted => exact absurd hPhase (proper_of_listens hReach hListens worker).1
  | ended result =>
      cases result with
      | ok r => exact .inl (.inr ⟨r, hPhase⟩)
      | error halt => exact absurd hPhase (hSound.unfailing.not_failed hReach hWorker halt)

/-- When all workers rest and a batch is due, it can be handed over, or a worker can take what waits
before it. -/
theorem goesOn_of_due (hReach : Reachable c source indexer processor s)
    (hStart : Load.startFault? c = none) (hRest : ∀ worker < c.workers, Rests s worker) {p : Parcel}
    (hDue : s.scan.due = some p) : ∃ t, Step c s t := by
  have hChannel := (placed hReach).due p hDue
  have hWorker : p.channel < c.workers :=
    Nat.lt_of_lt_of_le hChannel (channelCount_bounds hStart).2
  have hLane : lane c p.channel = p.channel := Nat.mod_eq_of_lt hChannel
  rcases hRest p.channel hWorker with hReady | ⟨r, hEnded⟩
  · cases hQueue : s.queue p.channel with
    | cons b rest => exact ⟨_, .receive hWorker hReady (hLane.symm ▸ hQueue)⟩
    | nil =>
        have hLive : (s.task p.channel).Live := by
          rw [Task.Live, hReady]
          trivial
        have hRoom : (s.queue p.channel).length < capacity c := by
          rw [hQueue, List.length_nil, capacity]
          omega
        obtain ⟨next, hSend⟩ := (placed hReach).exists_send hDue
        exact ⟨_, .deliver hDue ⟨_, hWorker, hLane, hLive⟩ hRoom hSend⟩
  · -- a worker gives its report only when dispatch has returned, and then no batch is due
    obtain ⟨⟨result, unread, hReturned⟩, -⟩ := emptied hReach _ r hEnded
    have hIdle := (scanning hReach).idle.resolve_right fun hRunning => hRunning _ _ hReturned
    rw [hIdle] at hDue
    cases hDue

/-- When all workers rest and dispatch has returned, a worker can take a batch or finish, or the runner
can go on. -/
theorem Sound.goesOn_of_scanned (hSound : Sound c source indexer processor d)
    (hReach : Reachable c source indexer processor s)
    (hRest : ∀ worker < c.workers, Rests s worker) {d : DispatchSummary} (hScanned : Scanned s d) :
    Succeeded s ∨ ∃ t, Step c s t := by
  by_cases hAll : AllReported c s
  · exact AllWell.goesOn hReach ⟨⟨d, hScanned⟩, hAll⟩
  · right
    simp only [AllReported, not_forall] at hAll
    obtain ⟨worker, hWorker, hNot⟩ := hAll
    have hReady := (hRest worker hWorker).resolve_right hNot
    obtain ⟨unread, hReturned⟩ := hScanned
    cases hQueue : s.queue (lane c worker) with
    | cons b rest => exact ⟨_, .receive hWorker hReady hQueue⟩
    | nil =>
        obtain ⟨r, hRun⟩ := hSound.unfailing worker hWorker (s.taken worker)
        have hCall := (replaying hReach worker).finish hReady (s.alike_lent worker) hRun
        exact ⟨_, .finish hWorker hReady ⟨⟨_, _, hReturned⟩, hQueue⟩ (by rw [hCall]; nofun)⟩

/-- Until the runner has returned its summary, something can go on. -/
theorem Sound.goesOn (hSound : Sound c source indexer processor d)
    (hReach : Reachable c source indexer processor s) : Succeeded s ∨ ∃ t, Step c s t := by
  rcases hSound.listens hReach with hListens | hSucceeded
  · by_cases hRest : ∀ worker < c.workers, Rests s worker
    · cases hDue : s.scan.due with
      | some p => exact .inr (goesOn_of_due hReach hSound.start hRest hDue)
      | none =>
          rcases s.scan.goesOn (limits c) hDue with ⟨result, unread, hReturned⟩ | ⟨scan, hScan, -⟩
          · cases result with
            | ok d => exact hSound.goesOn_of_scanned hReach hRest ⟨unread, hReturned⟩
            | error e =>
                have hBlamed := blamed_of_scan hReach hSound.dispatched hListens hReturned
                exact absurd hBlamed (hSound.not_blamed hReach _)
          · exact .inr ⟨_, .advance hScan⟩
    · right
      simp only [not_forall] at hRest
      obtain ⟨worker, hWorker, hNot⟩ := hRest
      exact (hSound.rests_or_goesOn hReach hListens hWorker).resolve_left hNot
  · exact .inl hSucceeded

/-- In whatever order its parts go on, a load in which nothing fails by itself comes to a summary. -/
theorem Sound.inevitably (hSound : Sound c source indexer processor d)
    (hReach : Reachable c source indexer processor s) : Inevitably c Succeeded s :=
  inevitably_of_goesOn (Q := fun _ => True) hReach trivial
    (fun hReach _ => hSound.goesOn hReach) fun _ _ _ => trivial

/-- And it comes to nothing else. -/
theorem Sound.returned_ok (hSound : Sound c source indexer processor d)
    (hReach : Reachable c source indexer processor s) {result : Except LoadError LoadSummary}
    (hRunner : s.runner = .returned result) : ∃ summary, result = .ok summary := by
  rcases hSound.listens hReach with hListens | ⟨summary, hSucceeded⟩
  · rw [hRunner] at hListens
    cases hListens
  · rw [hRunner] at hSucceeded
    cases hSucceeded
    exact ⟨summary, rfl⟩

end BulkLoad.Concurrent
