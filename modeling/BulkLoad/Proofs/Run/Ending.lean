import BulkLoad.Proofs.Dispatch.Placed
import BulkLoad.Proofs.Run.Success

/-!
Every run of a load comes to an end.

Each step uses up something that no step brings back: an item of the source, a batch on its way, a
call of a worker, a result that the runner has not heard of. So no run goes on forever, and a run that
can go on until something comes about brings it about.
-/
namespace BulkLoad.Concurrent

variable {ι π : Type} [Indexer ι] [Processor π] {c : Config} {source : Source.Stream} {indexer : ι}
  {processor : Nat → π} {s t : State ι π}

theorem placed (hReach : Reachable c source indexer processor s) :
    s.scan.Placed c.channelCount := by
  induction hReach with
  | initial => exact Scan.placed_opening source indexer (.ofCapacity (Load.poolSize c)) _
  | step hBefore hStep ih =>
      cases hStep with
      | advance hScan => exact ih.advance hScan
      | deliver hDue hOpen hRoom hSend => exact ih.deliver hSend
      | refuse hDue hClosed => exact ih.refused _
      | start hWorker hPhase hReturns => exact ih.withPool _
      | process hWorker hPhase hReturns => exact ih.withPool _
      | finish hWorker hPhase hDrained hReturns => exact ih.withPool _
      | _ => exact ih

omit [Indexer ι] [Processor π] in
/-- Who reads a channel reads one that exists. -/
theorem lane_lt_of_lt {worker : Nat} (hWorker : worker < c.workers) :
    lane c worker < c.channelCount := by
  apply Nat.mod_lt
  unfold Config.channelCount
  split <;> omega

/-- How many calls and receipts a worker still has before it, the batches that wait not counted. -/
def Task.Phase.toGo : Task.Phase → Nat
  | .fresh => 2
  | .ready => 1
  | .holding _ => 2
  | .ended _ => 0
  | .aborted => 0

def Task.toGo (t : Task π) : Nat := t.phase.toGo + (!t.joined).toNat

/-- How many steps the runner still has before it, those not counted in which it hears of a worker. -/
def Runner.toGo : Runner → Nat
  | .selecting none _ => 3
  | .selecting (some _) _ => 2
  | .awaiting _ => 1
  | .aborting _ => 1
  | .returned _ => 0

/-- What the workers still have before them. -/
def State.work (c : Config) (s : State ι π) : Nat :=
  sumOf (fun worker => (s.task worker).toGo) (List.range c.workers)

/-- What can still happen. A step of dispatch may bring a batch that is due; it may be handed over,
be received and be processed. -/
def State.toGo (c : Config) (s : State ι π) : Nat :=
  4 * s.scan.toGo + 3 * s.scan.due.isSome.toNat +
    2 * sumOf (fun channel => (s.queue channel).length) (List.range c.channelCount) +
    s.work c + s.runner.toGo

theorem Task.Phase.toGo_afterCall (worker : Nat) (result : Except Halt Unit) :
    (Task.Phase.afterCall worker (fun _ => .ready) result).toGo ≤ 1 := by
  cases result with
  | error halt => exact Nat.zero_le 1
  | ok u => exact Nat.le_refl 1

theorem Task.Phase.toGo_afterFinish (worker : Nat) (result : Except Halt WorkerReport) :
    (Task.Phase.afterCall worker (fun r => .ended (.ok r)) result).toGo = 0 := by
  cases result <;> rfl

omit [Processor π] in
theorem Task.toGo_of_live {t : Task π} (hLive : t.Live) : 0 < t.phase.toGo := by
  unfold Live at hLive
  cases hPhase : t.phase <;> simp [hPhase, Phase.toGo] at hLive ⊢

omit [Indexer ι] [Processor π] in
/-- What one worker has before it counts for all of them. -/
theorem State.work_update {worker : Nat} (hWorker : worker < c.workers) {task : Task π}
    (hTask : t.task = Function.update s.task worker task) :
    t.work c + (s.task worker).toGo = s.work c + task.toGo := by
  rw [State.work, hTask]
  exact sumOf_range_update Task.toGo s.task task hWorker

omit [Indexer ι] [Processor π] in
/-- A call that takes a worker on is a step towards the end. -/
theorem State.toGo_moved {worker : Nat} (hWorker : worker < c.workers) {phase : Task.Phase}
    (hLess : phase.toGo < (s.task worker).phase.toGo) (w : WorkerState π) :
    (s.moved worker phase w).toGo c < s.toGo c := by
  have hWork := State.work_update (s := s) (t := s.moved worker phase w) hWorker rfl
  have hScan : (s.moved worker phase w).scan.toGo = s.scan.toGo := rfl
  have hDue : (s.moved worker phase w).scan.due = s.scan.due := rfl
  have hQueue : (s.moved worker phase w).queue = s.queue := rfl
  have hRunner : (s.moved worker phase w).runner = s.runner := rfl
  simp only [Task.toGo] at hWork
  simp only [State.toGo, hScan, hDue, hQueue, hRunner]
  omega

omit [Indexer ι] [Processor π] in
/-- The runner hears of a worker. -/
theorem State.toGo_join {worker : Nat} (hWorker : worker < c.workers)
    (hFirst : (s.task worker).joined = false) {runner : Runner}
    (hLess : runner.toGo ≤ s.runner.toGo) : (s.join worker runner).toGo c < s.toGo c := by
  have hWork := State.work_update (s := s) (t := s.join worker runner) hWorker rfl
  have hScan : (s.join worker runner).scan = s.scan := rfl
  have hQueue : (s.join worker runner).queue = s.queue := rfl
  have hRunner : (s.join worker runner).runner = runner := rfl
  simp only [Task.toGo, hFirst, Bool.not_false, Bool.not_true, Bool.toNat_true,
    Bool.toNat_false] at hWork
  simp only [State.toGo, hScan, hQueue, hRunner]
  omega

omit [Indexer ι] [Processor π] in
/-- The runner goes on. -/
theorem State.toGo_runner {runner : Runner} (hLess : runner.toGo < s.runner.toGo) :
    { s with runner }.toGo c < s.toGo c := Nat.add_lt_add_left hLess _

omit [Indexer ι] [Processor π] in
/-- Dispatch goes on; a batch may be due then. -/
theorem State.toGo_scan {scan : Scan ι} (hIdle : s.scan.due = none)
    (hLess : scan.toGo < s.scan.toGo) : State.toGo c { s with scan } < s.toGo c := by
  have hDue := Bool.toNat_le scan.due.isSome
  have hWork : State.work c { s with scan } = s.work c := rfl
  simp only [State.toGo, hWork, hIdle]
  omega

omit [Indexer ι] [Processor π] in
/-- A batch that waits in a channel has less before it than one that is due. -/
theorem State.toGo_deliver {p : Parcel} {next : Dispatch ι} (hDue : s.scan.due = some p)
    (hChannel : p.channel < c.channelCount) (hSend : s.scan.dispatch.send p = .ok next) :
    (s.deliver p next).toGo c < s.toGo c := by
  have hQueue := sumOf_length_push s.queue hChannel p.batch
  have hScan : (s.deliver p next).scan.toGo = s.scan.toGo := Scan.toGo_deliver hSend
  have hNone : (s.deliver p next).scan.due = none := rfl
  have hWork : (s.deliver p next).work c = s.work c := rfl
  have hRunner : (s.deliver p next).runner = s.runner := rfl
  simp only [State.toGo, hScan, hNone, hWork, hRunner, hDue, Option.isSome_some,
    Option.isSome_none, Bool.toNat_true, Bool.toNat_false]
  simp only [State.deliver]
  omega

omit [Indexer ι] [Processor π] in
/-- Dispatch that is refused has nothing more before it. -/
theorem State.toGo_refused {p : Parcel} (hDue : s.scan.due = some p) :
    State.toGo c { s with scan := s.scan.refused p.channel } < s.toGo c := by
  have hScan : (s.scan.refused p.channel).toGo = 0 := rfl
  have hNone : (s.scan.refused p.channel).due = none := rfl
  have hWork : State.work c { s with scan := s.scan.refused p.channel } = s.work c := rfl
  simp only [State.toGo, hScan, hNone, hWork, hDue, Option.isSome_some, Option.isSome_none,
    Bool.toNat_true, Bool.toNat_false]
  omega

omit [Indexer ι] [Processor π] in
/-- A batch that a worker holds has less before it than one that waits. -/
theorem State.toGo_receive {worker : Nat} (hWorker : worker < c.workers)
    (hPhase : (s.task worker).phase = .ready) {b : LineBatch} {rest : List LineBatch}
    (hQueue : s.queue (lane c worker) = b :: rest) :
    (s.receive (lane c worker) worker b rest).toGo c < s.toGo c := by
  have hWaiting := sumOf_length_pop (lane_lt_of_lt hWorker) hQueue
  have hWork := State.work_update (s := s) (t := s.receive (lane c worker) worker b rest)
    hWorker rfl
  simp only [Task.toGo, hPhase, Task.Phase.toGo] at hWork
  simp only [State.toGo]
  simp only [State.receive, State.rephased] at hWork ⊢
  omega

omit [Indexer ι] [Processor π] in
/-- A worker that is stopped has nothing more before it. -/
theorem State.toGo_abort {worker : Nat} (hWorker : worker < c.workers)
    (hLive : (s.task worker).Live) : (s.rephased worker .aborted).toGo c < s.toGo c := by
  have hWork := State.work_update (s := s) (t := s.rephased worker .aborted) hWorker rfl
  have hLeft := Task.toGo_of_live hLive
  have hScan : (s.rephased worker .aborted).scan = s.scan := rfl
  have hQueue : (s.rephased worker .aborted).queue = s.queue := rfl
  have hRunner : (s.rephased worker .aborted).runner = s.runner := rfl
  have hNone : Task.Phase.toGo .aborted = 0 := rfl
  simp only [Task.toGo, hNone] at hWork
  simp only [State.toGo, hScan, hQueue, hRunner]
  omega

/-- Each step of a load is a step towards its end. -/
theorem toGo_step (hReach : Reachable c source indexer processor s) (hStep : Step c s t) :
    t.toGo c < s.toGo c := by
  cases hStep with
  | advance hScan => exact State.toGo_scan (Scan.dispatch_advance hScan).1 (Scan.toGo_advance hScan)
  | @deliver p next hDue hOpen hRoom hSend =>
      exact State.toGo_deliver hDue ((placed hReach).due p hDue) hSend
  | refuse hDue hClosed => exact State.toGo_refused hDue
  | start hWorker hPhase hReturns =>
      apply State.toGo_moved hWorker
      rw [hPhase]
      exact Nat.lt_succ_of_le (Task.Phase.toGo_afterCall ..)
  | process hWorker hPhase hReturns =>
      apply State.toGo_moved hWorker
      rw [hPhase]
      exact Nat.lt_succ_of_le (Task.Phase.toGo_afterCall ..)
  | finish hWorker hPhase hDrained hReturns =>
      apply State.toGo_moved hWorker
      rw [hPhase, Task.Phase.toGo_afterFinish]
      exact Nat.one_pos
  | receive hWorker hPhase hQueue => exact State.toGo_receive hWorker hPhase hQueue
  | scanned hRunner hScan =>
      apply State.toGo_runner
      rw [hRunner]
      exact Nat.lt_succ_self 2
  | scanFailed hRunner hScan =>
      apply State.toGo_runner
      rw [hRunner]
      exact Nat.lt_of_sub_eq_succ rfl
  | @joined worker scanned reports r hWorker hRunner hPhase hFirst =>
      apply State.toGo_join hWorker hFirst
      rw [hRunner]
      cases scanned <;> exact Nat.le_refl _
  | @joinFailed worker scanned reports e hWorker hRunner hPhase hFirst =>
      apply State.toGo_join hWorker hFirst
      rw [hRunner]
      cases scanned <;> simp [Runner.toGo]
  | summarise hRunner hAll elapsed =>
      apply State.toGo_runner
      rw [hRunner]
      exact Nat.two_pos
  | await hRunner hAll =>
      apply State.toGo_runner
      rw [hRunner]
      exact Nat.lt_of_sub_eq_succ rfl
  | awaited hRunner hScan elapsed =>
      apply State.toGo_runner
      rw [hRunner]
      exact Nat.one_pos
  | awaitFailed hRunner hScan =>
      apply State.toGo_runner
      rw [hRunner]
      exact Nat.one_pos
  | abort hWorker hRunner hLive => exact State.toGo_abort hWorker hLive
  | giveUp hRunner hNone =>
      apply State.toGo_runner
      rw [hRunner]
      exact Nat.one_pos

/-- A load that stays among states of one kind until it comes to one of another, and can go on as long
as it has not, comes to it. -/
theorem inevitably_of_goesOn {P Q : State ι π → Prop}
    (hReach : Reachable c source indexer processor s) (hHere : Q s)
    (hGoesOn : ∀ {s}, Reachable c source indexer processor s → Q s → P s ∨ ∃ t, Step c s t)
    (hStays : ∀ {s t}, Reachable c source indexer processor s → Q s → Step c s t → Q t) :
    Inevitably c P s := by
  induction hToGo : s.toGo c using Nat.strongRecOn generalizing s with
  | ind toGo ih =>
      subst hToGo
      rcases hGoesOn hReach hHere with hNow | hMore
      · exact .now hNow
      · refine .later hMore fun t hStep => ?_
        exact ih _ (toGo_step hReach hStep) (hReach.step hStep) (hStays hReach hHere hStep) rfl

end BulkLoad.Concurrent
