import BulkLoad.Proofs.Dispatch.Stock
import BulkLoad.Proofs.Run.Success
import Mathlib.Order.Basic

/-!
Every batch has a place, and there are as many places as the pool is large.

A batch lies in the pool, in a slot of dispatch, in a channel, or with a worker, or it is the one that
dispatch waits with, whose slot is free meanwhile. A new batch is built only when none lies in the
pool, so when there is a place left for it. A batch that is lost is not replaced by another: dispatch
that loses one takes no more, and a worker that is stopped or breaks down with one leaves its place
empty.
-/
namespace BulkLoad

namespace WorkerState

variable {π : Type} [Processor π]

theorem pool_begin (settings : WorkerSettings) (s : WorkerState π) :
    (s.begin settings).2.pool = s.pool := by
  unfold begin
  dsimp only
  split <;> rfl

/-- A batch is put back, unless its call broke down or has no end. -/
theorem pool_step (settings : WorkerSettings) (s : WorkerState π) (b : LineBatch) :
    (s.step settings b).2.pool = s.pool.release b ∨
      (s.step settings b).2.pool = s.pool ∧
        ((s.step settings b).1 = .error .crashed ∨ (s.step settings b).1 = .error .endless) := by
  unfold step
  dsimp only
  split
  · exact .inl rfl
  · exact .inr ⟨rfl, .inl rfl⟩
  · exact .inr ⟨rfl, .inr rfl⟩
  · exact .inl rfl

theorem pool_finish (settings : WorkerSettings) (s : WorkerState π) :
    (s.finish settings).2.pool = s.pool := by
  unfold finish
  dsimp only
  split <;> rfl

end WorkerState

namespace Concurrent

variable {ι π : Type}

namespace Task.Phase

/-- The batch in the hands of a worker. -/
def held : Task.Phase → Nat
  | holding _ => 1
  | _ => 0

/-- A worker that was stopped or broke down, and may have lost its batch. -/
def gone : Task.Phase → Nat
  | aborted => 1
  | ended (.error (.failed (.task _ _))) => 1
  | _ => 0

@[simp] theorem held_ready : ready.held = 0 := rfl

@[simp] theorem held_holding (b : LineBatch) : (holding b).held = 1 := rfl

@[simp] theorem held_aborted : aborted.held = 0 := rfl

@[simp] theorem gone_ready : ready.gone = 0 := rfl

@[simp] theorem gone_holding (b : LineBatch) : (holding b).gone = 0 := rfl

@[simp] theorem gone_aborted : aborted.gone = 1 := rfl

/-- A worker that holds a batch has not lost it. -/
theorem held_add_gone_le (phase : Task.Phase) : phase.held + phase.gone ≤ 1 := by
  unfold held gone
  split
  · exact Nat.le_refl 1
  · split <;> exact Nat.le_of_ble_eq_true rfl

end Task.Phase

namespace State

/-- The batches that wait in the channels. -/
def queued (c : Config) (s : State ι π) : Nat :=
  sumOf (fun channel => (s.queue channel).length) (List.range c.channelCount)

/-- The batches in the hands of workers. -/
def held (c : Config) (s : State ι π) : Nat :=
  sumOf (fun worker => (s.task worker).phase.held) (List.range c.workers)

def gone (c : Config) (s : State ι π) : Nat :=
  sumOf (fun worker => (s.task worker).phase.gone) (List.range c.workers)

/-- The batches that there are: idle, open, due to be sent, waiting in a channel, or held by a
worker. -/
def live (c : Config) (s : State ι π) : Nat :=
  s.scan.pool.available + s.scan.dispatch.dispatcher.openCount + s.scan.due.isSome.toNat +
    s.queued c + s.held c

theorem held_add_gone_le (c : Config) (s : State ι π) : s.held c + s.gone c ≤ c.workers := by
  have hSum := sumOf_le fun worker (_ : worker ∈ List.range c.workers) =>
    (s.task worker).phase.held_add_gone_le
  rwa [sumOf_add, sumOf_one, List.length_range] at hSum

end State

/-- The places of the batches. -/
structure Housed (c : Config) (s : State ι π) : Prop where
  pool : s.scan.pool.capacity = Load.poolSize c
  slots : s.scan.dispatch.dispatcher.slots.length = c.channelCount
  room : ∀ p, s.scan.due = some p → s.scan.dispatch.dispatcher.slots[p.channel]? = some none
  queue : ∀ channel, (s.queue channel).length ≤ capacity c
  live : s.live c ≤ s.scan.pool.built
  built : s.scan.pool.built ≤ Load.poolSize c
  kept : ¬s.scan.Failed → s.scan.pool.built ≤ s.live c + s.gone c

section Housed

variable {c : Config} {s t : State ι π}

/-- The pool has room for each batch that is not in it. -/
theorem Housed.available_lt (hHoused : Housed c s) (hElsewhere : s.scan.pool.available < s.live c) :
    s.scan.pool.available < s.scan.pool.capacity := by
  have hLive := hHoused.live
  have hBuilt := hHoused.built
  rw [hHoused.pool]
  omega

/-- The places outside the pool, if one of the slots is free. -/
theorem Housed.places (hHoused : Housed c s) (hCapacity : 1 ≤ c.channelCapacity)
    (hFree : s.scan.dispatch.dispatcher.openCount < s.scan.dispatch.dispatcher.slots.length) :
    s.scan.dispatch.dispatcher.openCount + s.queued c + s.held c + s.gone c < Load.poolSize c := by
  have hQueued : s.queued c ≤ c.channelCount * c.channelCapacity := by
    have hAll := sumOf_le fun channel (_ : channel ∈ List.range c.channelCount) =>
      hHoused.queue channel
    rw [sumOf_const, List.length_range, capacity, Nat.max_eq_left hCapacity] at hAll
    exact hAll
  have hWorkers := s.held_add_gone_le c
  rw [hHoused.slots] at hFree
  rw [Load.poolSize, Nat.mul_succ]
  omega

theorem Housed.advance [Indexer ι] (hHoused : Housed c s) (hCapacity : 1 ≤ c.channelCapacity)
    {scan : Scan ι} (hScan : s.scan.advance? (limits c) = some scan) :
    Housed c { s with scan } := by
  obtain ⟨hNone, hRunning, lost, hDraws, hLost⟩ := Scan.draws_advance hScan
  have hLive := hHoused.live
  have hBuilt := hHoused.built
  have hKept := hHoused.kept hRunning
  have hConserved := hDraws.conserved
  simp only [State.live, hNone, Option.isSome_none, Bool.toNat_false, Scan.pool] at hLive hBuilt hKept
  refine ⟨hDraws.capacity.trans hHoused.pool, hDraws.slots.trans hHoused.slots, hDraws.room,
    hHoused.queue, ?_, ?_, fun hStill => ?_⟩
  · simp only [State.live, State.queued, State.held, Scan.pool] at hLive ⊢
    omega
  · rcases hDraws.built with hSame | ⟨hNew, hEmpty, hFree⟩
    · exact hSame ▸ hBuilt
    · have hPlaces := hHoused.places hCapacity hFree
      simp only [Scan.pool]
      omega
  · have hNothing : lost = 0 := by
      rcases hLost with hNothing | hFailed | ⟨hOpen, hFull⟩
      · exact hNothing
      · exact absurd hFailed hStill
      · have hRoom := hHoused.available_lt (by simp only [State.live]; omega)
        exact absurd hRoom (Nat.not_lt.mpr hFull)
    simp only [State.live, State.queued, State.held, State.gone, Scan.pool] at hKept ⊢
    omega

theorem Housed.deliver (hHoused : Housed c s) {p : Parcel} {next : Dispatch ι}
    (hDue : s.scan.due = some p) (hQueue : (s.queue p.channel).length < capacity c)
    (hSend : s.scan.dispatch.send p = .ok next) : Housed c (s.deliver p next) := by
  have hSame := Dispatch.dispatcher_send hSend
  have hFree := hHoused.room p hDue
  obtain ⟨hChannel, -⟩ := List.getElem?_eq_some_iff.mp hFree
  rw [hHoused.slots] at hChannel
  have hQueued := sumOf_length_push s.queue hChannel p.batch
  have hLive : (s.deliver p next).live c = s.live c := by
    simp only [State.live, State.deliver, State.queued, State.held, Scan.pool, hSame, hDue,
      Option.isSome_some, Option.isSome_none, Bool.toNat_true, Bool.toNat_false]
    omega
  refine ⟨?_, ?_, fun q hNone => ?_, length_push_le hHoused.queue hQueue p.batch, ?_, ?_, ?_⟩
  · exact (congrArg (·.pool.capacity) hSame).trans hHoused.pool
  · exact (congrArg (·.slots.length) hSame).trans hHoused.slots
  · cases hNone
  · rw [hLive]
    exact hHoused.live.trans_eq (congrArg (·.pool.built) hSame).symm
  · exact (congrArg (·.pool.built) hSame).trans_le hHoused.built
  · intro hRunning
    rw [hLive]
    exact (congrArg (·.pool.built) hSame).trans_le (hHoused.kept hRunning)

theorem Housed.refuse (hHoused : Housed c s) (channel : Nat) :
    Housed c { s with scan := s.scan.refused channel } := by
  refine ⟨hHoused.pool, hHoused.slots, nofun, hHoused.queue, ?_, hHoused.built, fun hRunning => ?_⟩
  · refine Nat.le_trans ?_ hHoused.live
    simp only [State.live, State.queued, State.held, Scan.refused, Scan.pool, Option.isSome_none,
      Bool.toNat_false]
    omega
  · exact absurd ⟨_, _, rfl⟩ hRunning

/-- A worker has changed with what it holds and with the pool. -/
theorem Housed.worked (hHoused : Housed c s) {worker : Nat} (hWorker : worker < c.workers)
    {task : Task π} {pool : Pool LineBatch} (hPool : pool.capacity = s.scan.pool.capacity)
    (hBuilt : pool.built = s.scan.pool.built)
    (hCount : pool.available + task.phase.held ≤
      s.scan.pool.available + (s.task worker).phase.held)
    (hGone : s.scan.pool.available + (s.task worker).phase.held + (s.task worker).phase.gone ≤
      pool.available + task.phase.held + task.phase.gone) (totals : Totals) :
    Housed c { s with
      scan := s.scan.withPool pool, task := Function.update s.task worker task, totals } := by
  have hHeldSum := sumOf_range_update (fun t : Task π => t.phase.held) s.task task hWorker
  have hGoneSum := sumOf_range_update (fun t : Task π => t.phase.gone) s.task task hWorker
  have hLive := hHoused.live
  refine ⟨hPool.trans hHoused.pool, hHoused.slots, hHoused.room, hHoused.queue, ?_,
    hBuilt.trans_le hHoused.built, fun hRunning => ?_⟩
  · simp only [State.live, State.queued, State.held, Scan.pool, Scan.withPool, Scan.withDispatcher,
      Dispatcher.openCount] at hLive hBuilt hCount ⊢
    omega
  · have hKept := hHoused.kept hRunning
    simp only [State.live, State.queued, State.held, State.gone, Scan.pool, Scan.withPool,
      Scan.withDispatcher, Dispatcher.openCount] at hKept hBuilt hGone ⊢
    omega

/-- A worker takes a batch out of its channel. -/
theorem Housed.receive (hHoused : Housed c s) (hStart : Load.startFault? c = none) {worker : Nat}
    (hWorker : worker < c.workers) (hPhase : (s.task worker).phase = .ready) {b : LineBatch}
    {rest : List LineBatch} (hQueue : s.queue (lane c worker) = b :: rest) :
    Housed c (s.receive (lane c worker) worker b rest) := by
  have hQueued := sumOf_length_pop (lane_lt hStart worker) hQueue
  have hHeld := sumOf_range_update (fun t : Task π => t.phase.held) s.task
    { s.task worker with phase := .holding b } hWorker
  have hGone := sumOf_range_update (fun t : Task π => t.phase.gone) s.task
    { s.task worker with phase := .holding b } hWorker
  simp only [hPhase, Task.Phase.held_ready, Task.Phase.held_holding, Task.Phase.gone_ready,
    Task.Phase.gone_holding] at hHeld hGone
  have hLive : (s.receive (lane c worker) worker b rest).live c = s.live c := by
    simp only [State.live, State.receive, State.rephased, State.queued, State.held]
    omega
  refine ⟨hHoused.pool, hHoused.slots, hHoused.room, length_pop_le hHoused.queue hQueue, ?_,
    hHoused.built, fun hRunning => ?_⟩
  · rw [hLive]
    exact hHoused.live
  · rw [hLive]
    refine (hHoused.kept hRunning).trans_eq ?_
    simp only [State.gone, State.receive, State.rephased]
    omega

/-- A call ends, and its worker is left with nothing in hand: what it held is in the pool, or is lost
with the worker. -/
theorem Housed.called {α : Type} (hHoused : Housed c s) {worker : Nat} (hWorker : worker < c.workers)
    {call : Except Halt α × WorkerState π} {next : α → Task.Phase} (hNext : ∀ a, (next a).held = 0)
    (hPhase : (s.task worker).phase.gone = 0)
    (hPool : call.2.pool.capacity = s.scan.pool.capacity ∧ call.2.pool.built = s.scan.pool.built)
    (hAvailable : call.2.pool.available = s.scan.pool.available + (s.task worker).phase.held ∨
      call.2.pool.available = s.scan.pool.available ∧ call.1 = .error .crashed) :
    Housed c (s.called worker call next) := by
  obtain ⟨hCapacity, hBuilt⟩ := hPool
  have hHeld : (Task.Phase.afterCall worker next call.1).held = 0 := by
    cases call.1 with
    | ok a => exact hNext a
    | error halt => rfl
  have hMost := (s.task worker).phase.held_add_gone_le
  rcases hAvailable with hBack | ⟨hLost, hCrashed⟩
  · refine hHoused.worked hWorker hCapacity hBuilt ?_ ?_ _
    · simp only [hHeld, hBack]
      omega
    · simp only [hBack, hPhase]
      omega
  · have hGone : (Task.Phase.afterCall worker next call.1).gone = 1 := by rw [hCrashed]; rfl
    refine hHoused.worked hWorker hCapacity hBuilt ?_ ?_ _
    · simp only [hHeld, hLost]
      omega
    · simp only [hGone, hLost, hPhase]
      omega

/-- A batch that is put back finds room. -/
theorem Housed.room_of_holding (hHoused : Housed c s) {worker : Nat} (hWorker : worker < c.workers)
    {b : LineBatch} (hPhase : (s.task worker).phase = .holding b) :
    s.scan.pool.available < s.scan.pool.capacity := by
  apply hHoused.available_lt
  have hHeld := le_sumOf (fun worker => (s.task worker).phase.held) (List.mem_range.mpr hWorker)
  simp only [hPhase, Task.Phase.held_holding] at hHeld
  simp only [State.live, State.held]
  omega

/-- An open batch of dispatch finds room in the pool too. -/
theorem Housed.room_of_open (hHoused : Housed c s) {channel : Nat} {b : LineBatch}
    (hSlot : s.scan.dispatch.dispatcher.slots[channel]? = some (some b)) :
    s.scan.pool.available < s.scan.pool.capacity := by
  apply hHoused.available_lt
  have hOpen := le_sumOf (fun slot : Option LineBatch => slot.isSome.toNat)
    (List.mem_of_getElem? hSlot)
  simp only [Option.isSome_some, Bool.toNat_true] at hOpen
  simp only [State.live, Dispatcher.openCount]
  omega

theorem Housed.of_phases (hHoused : Housed c s) (hScan : t.scan = s.scan) (hQueue : t.queue = s.queue)
    (hPhases : ∀ worker, (t.task worker).phase = (s.task worker).phase) : Housed c t := by
  have hLive : t.live c = s.live c := by
    simp only [State.live, State.queued, State.held, hScan, hQueue, hPhases]
  have hGone : t.gone c = s.gone c := by
    simp only [State.gone, hPhases]
  refine ⟨hScan ▸ hHoused.pool, hScan ▸ hHoused.slots, hScan ▸ hHoused.room,
    hQueue ▸ hHoused.queue, ?_, hScan ▸ hHoused.built, fun hRunning => ?_⟩
  · rw [hLive, hScan]
    exact hHoused.live
  · rw [hLive, hGone, hScan]
    exact hHoused.kept (hScan ▸ hRunning)

variable [Indexer ι] [Processor π] {source : Source.Stream} {indexer : ι} {processor : Nat → π}

theorem Housed.step (hHoused : Housed c s) (hStart : Load.startFault? c = none)
    (hCapacity : 1 ≤ c.channelCapacity) (hStep : Step c s t) : Housed c t := by
  have hJoin (worker : Nat) (runner : Runner) : Housed c (s.join worker runner) :=
    hHoused.of_phases rfl rfl (s.phase_join worker runner)
  cases hStep with
  | advance hScan => exact hHoused.advance hCapacity hScan
  | deliver hDue hOpen hRoom hSend => exact hHoused.deliver hDue hRoom hSend
  | refuse hDue hClosed => exact hHoused.refuse _
  | @start worker hWorker hPhase hReturns =>
      have hPool := WorkerState.pool_begin (settings c) (s.lent worker)
      refine hHoused.called hWorker (fun _ => rfl) (by rw [hPhase]; rfl) ?_ (.inl ?_)
      · rw [hPool]
        exact ⟨rfl, rfl⟩
      · rw [hPool, hPhase]
        rfl
  | receive hWorker hPhase hQueue => exact hHoused.receive hStart hWorker hPhase hQueue
  | @process worker b hWorker hPhase hReturns =>
      have hRelease := Pool.release_of_available_lt (hHoused.room_of_holding hWorker hPhase) b
      rcases WorkerState.pool_step (settings c) (s.lent worker) b with hPool | ⟨hPool, hHalt⟩
      · have hBack := hPool.trans hRelease
        refine hHoused.called hWorker (fun _ => rfl) (by rw [hPhase]; rfl) ?_ (.inl ?_)
        · rw [hBack]
          exact ⟨rfl, rfl⟩
        · rw [hBack, hPhase]
          exact List.length_append
      · refine hHoused.called hWorker (fun _ => rfl) (by rw [hPhase]; rfl) ?_
          (.inr ⟨?_, hHalt.resolve_right hReturns⟩)
        · rw [hPool]
          exact ⟨rfl, rfl⟩
        · rw [hPool]
          rfl
  | @finish worker hWorker hPhase hDrained hReturns =>
      have hPool := WorkerState.pool_finish (settings c) (s.lent worker)
      refine hHoused.called hWorker (fun _ => rfl) (by rw [hPhase]; rfl) ?_ (.inl ?_)
      · rw [hPool]
        exact ⟨rfl, rfl⟩
      · rw [hPool, hPhase]
        rfl
  | joined hWorker hRunner hPhase hFirst => exact hJoin _ _
  | joinFailed hWorker hRunner hPhase hFirst => exact hJoin _ _
  | @abort worker e hWorker hRunner hLive =>
      have hThere : (s.task worker).phase.gone = 0 := by
        unfold Task.Live at hLive
        cases hPhase : (s.task worker).phase with
        | aborted => simp [hPhase] at hLive
        | ended result => simp [hPhase] at hLive
        | _ => rfl
      have hMost := (s.task worker).phase.held_add_gone_le
      refine hHoused.worked hWorker (rfl : s.scan.pool.capacity = _) rfl ?_ ?_ s.totals
      · simp only [Task.Phase.held_aborted]
        omega
      · simp only [Task.Phase.held_aborted, Task.Phase.gone_aborted]
        omega
  | _ => exact hHoused.of_phases rfl rfl fun _ => rfl

theorem housed (hStart : Load.startFault? c = none) (hCapacity : 1 ≤ c.channelCapacity)
    (hReach : Reachable c source indexer processor s) : Housed c s := by
  induction hReach with
  | initial =>
      have hWorkers := workers_pos hStart
      have hPool : max (Load.poolSize c) 1 = Load.poolSize c :=
        Nat.max_eq_left (by rw [Load.poolSize]; omega)
      have hNone : (Concurrent.initial c source indexer processor).live c = 0 := by
        have hQueued : (Concurrent.initial c source indexer processor).queued c = 0 := sumOf_zero _
        have hHeld : (Concurrent.initial c source indexer processor).held c = 0 := sumOf_zero _
        have hOpen : (Concurrent.initial c source indexer processor).scan.dispatch.dispatcher.openCount
            = 0 := sumOf_replicate _ _ none
        rw [State.live, hQueued, hHeld, hOpen]
        rfl
      refine ⟨hPool, ?_, nofun, fun _ => Nat.zero_le _, hNone.le, Nat.zero_le _, fun _ => ?_⟩
      · simp [Concurrent.initial, Dispatch.start, Dispatcher.start]
      · exact Nat.zero_le _
  | step hBefore hStep ih => exact ih.step hStart hCapacity hStep

/-- There are never more batches than the pool may hold, nor are more ever built. So a batch that is
put back always finds room, and as long as dispatch has not failed and no worker was stopped or broke
down, each batch that was built is still there. -/
theorem pool_suffices (hStart : Load.startFault? c = none) (hCapacity : 1 ≤ c.channelCapacity)
    (hReach : Reachable c source indexer processor s) :
    let most := c.channelCount * (c.channelCapacity + 1) + c.workers
    let pool := s.scan.pool
    pool.capacity = most ∧ s.live c ≤ most ∧ pool.built ≤ most ∧
      (∀ worker < c.workers, ∀ b, (s.task worker).phase = .holding b →
        pool.release b = { pool with idle := pool.idle ++ [Reusable.reset b] }) ∧
      (∀ (channel : Nat) (b : LineBatch), s.scan.dispatch.dispatcher.slots[channel]? = some (some b) →
        pool.release b = { pool with idle := pool.idle ++ [Reusable.reset b] }) ∧
      (¬s.scan.Failed → s.gone c = 0 → pool.built = s.live c) := by
  intro most pool
  have hHoused := housed hStart hCapacity hReach
  refine ⟨hHoused.pool, hHoused.live.trans hHoused.built, hHoused.built, ?_, ?_, ?_⟩
  · intro worker hWorker b hPhase
    exact Pool.release_of_available_lt (hHoused.room_of_holding hWorker hPhase) b
  · intro channel b hSlot
    exact Pool.release_of_available_lt (hHoused.room_of_open hSlot) b
  · intro hRunning hGone
    have hKept := hHoused.kept hRunning
    rw [hGone] at hKept
    exact Nat.le_antisymm hKept hHoused.live

end Housed

/-- One worker behind a channel for one batch, and batches of one point. -/
def narrow : Config := { workers := 1, batchSize := 1, channelCapacity := 1, doLoad := false }

def threePoints : Source.Stream where
  items := List.replicate 3 (.point (Utf8.encode "a x=1 1"))

/-- Here the worker holds a batch, another fills the channel, and dispatch waits with a third: all the
batches that the pool was made for. -/
theorem pool_suffices_narrow : ∃ s : State Constant InfluxProcessor,
    Reachable narrow threePoints (Constant.mk 0) dryProcessor s ∧
      s.live narrow = 3 ∧ s.scan.pool.built = 3 ∧ s.scan.pool.capacity = 3 := by
  have hStart : Load.startFault? narrow = none := by decide
  have hFirst : 0 < narrow.workers := by decide
  have hInitial : Reachable narrow threePoints (Constant.mk 0) dryProcessor
    (initial narrow threePoints (Constant.mk 0) dryProcessor) := .initial
  have hReady := hInitial.step (.start hFirst rfl (by nofun))
  have hDue := (hReady.step (.advance rfl)).step (.advance rfl)
  have hSent := hDue.step (.deliver rfl ⟨0, hFirst, rfl, trivial⟩ (by decide) rfl)
  have hHeld := hSent.step (.receive hFirst rfl rfl)
  have hSecond := (hHeld.step (.advance rfl)).step
    (.deliver rfl ⟨0, hFirst, rfl, trivial⟩ (by decide) rfl)
  have hReach := hSecond.step (.advance rfl)
  obtain ⟨hCapacity, -, -, -, -, hBuilt⟩ := pool_suffices hStart (by decide) hReach
  have hLive := hBuilt (by rintro ⟨e, unread, hReturned⟩; cases hReturned) rfl
  exact ⟨_, hReach, hLive.symm, rfl, hCapacity⟩

end Concurrent
end BulkLoad
