import BulkLoad.Run.Load
import Mathlib.Logic.Function.Basic

/-!
A load whose parts run at once: dispatch, the workers, and the runner that waits for them.

A channel holds no more than its capacity, and dispatch waits with a batch for which there is no
room. The workers of a channel take whatever batch comes first. The runner looks at dispatch and at
the workers in any order, and at dispatch a last time when no worker is left. Any part may take the
next step; how long a step takes is not said. A call that never returns is a step that never comes.
-/
namespace BulkLoad.WorkerState

variable {π : Type} [Processor π]

/-- What a worker does before its first batch. -/
def begin (settings : WorkerSettings) (s : WorkerState π) : Except Halt Unit × WorkerState π :=
  let call := Processor.init s.processor s.report.worker settings.doLoad settings.hashWorkers
  let s := { s with processor := call.next }.tell call.told
  match call.result with
  | .error halt => (.error halt, s)
  | .ok () => (.ok (), s.tell [toldStarted s.report.worker])

/-- A worker begins, takes its batches, and finishes; a failure ends it early. -/
theorem run_eq (settings : WorkerSettings) (s : WorkerState π) (batches : List LineBatch) :
    s.run settings batches =
      match s.begin settings with
      | (.error halt, s') => ⟨.error (halt.ofWorker s.report.worker), s', batches⟩
      | (.ok (), s') =>
        match s'.loop settings batches with
        | (.error halt, s', untaken) => ⟨.error (halt.ofWorker s.report.worker), s', untaken⟩
        | (.ok (), s', untaken) =>
          match s'.finish settings with
          | (.error halt, s') => ⟨.error (halt.ofWorker s.report.worker), s', untaken⟩
          | (.ok report, s') => ⟨.ok report, s', untaken⟩ := by
  unfold run begin
  cases hInit : (Processor.init s.processor s.report.worker settings.doLoad
    settings.hashWorkers).result with
  | error halt => simp only [hInit]
  | ok u => simp only [hInit]; rfl

end BulkLoad.WorkerState

namespace BulkLoad.Concurrent

variable {ι π : Type}

/-- How far dispatch is in its program. -/
inductive Scan.Phase where
  | opening (source : Source.Stream)
  | reading (headers : Option (List String)) (items : List Source.Item)
  | flushing (headers : Option (List String)) (limitReached : Bool) (unread : List Source.Item)
      (channels : List Nat)
  | returned (result : Except DispatchError DispatchSummary) (unread : List Source.Item)

/-- Dispatch, and the batch with which it waits before a channel. -/
structure Scan (ι : Type) where
  phase : Scan.Phase
  due : Option Parcel := none
  dispatch : Dispatch ι

namespace Scan

/-- Dispatch when it stops reading. -/
def startFlush (s : Scan ι) (headers : Option (List String)) (limitReached : Bool)
    (unread : List Source.Item) : Scan ι :=
  { s with phase := .flushing headers limitReached unread (List.range s.dispatch.outlets.length) }

def withDispatcher (s : Scan ι) (d : Dispatcher ι) : Scan ι :=
  { s with dispatch := { s.dispatch with dispatcher := d } }

/-- What dispatch has not asked the source for. -/
def unread (s : Scan ι) : List Source.Item :=
  match s.phase with
  | .opening source => source.items
  | .reading _ items => items
  | .flushing _ _ unread _ => unread
  | .returned _ unread => unread

/-- One step of dispatch by itself. It takes none while it waits or after its return. -/
def advance? [Indexer ι] (limits : DispatchLimits) (s : Scan ι) : Option (Scan ι) :=
  match s.due, s.phase with
  | some _, _ => none
  | none, .returned _ _ => none
  | none, .opening source =>
    match source.headers with
    | .error f =>
      some
        { s with
          phase := .returned (.error (.source 0 f)) source.items
          dispatch := s.dispatch.tell source.opening }
    | .ok headers =>
      some
        { s with
          phase := .reading headers source.items
          dispatch := s.dispatch.tell (source.opening ++ Dispatch.headersTold headers) }
  | none, .reading headers [] =>
    some (s.startFlush headers (limits.reached s.dispatch.dispatcher.points) [])
  | none, .reading headers (item :: items) =>
    if limits.reached s.dispatch.dispatcher.points then
      some (s.startFlush headers true (item :: items))
    else
      match s.dispatch.dispatcher.take limits.fullSize item with
      | .ended => some (s.startFlush headers false items)
      | .failed e d => some { s.withDispatcher d with phase := .returned (.error e) items }
      | .kept d => some { s.withDispatcher d with phase := .reading headers items }
      | .full p d => some { s.withDispatcher d with phase := .reading headers items, due := some p }
  | none, .flushing headers limitReached unread [] =>
    some
      { s with
        phase :=
          .returned (.ok ⟨s.dispatch.dispatcher.points, s.dispatch.sent, headers, limitReached⟩)
            unread
        dispatch := s.dispatch.tell [s.dispatch.finished limitReached] }
  | none, .flushing headers limitReached unread (channel :: channels) =>
    match s.dispatch.dispatcher.flush channel with
    | (due, d) =>
      some { s.withDispatcher d with phase := .flushing headers limitReached unread channels, due }

/-- Dispatch after its batch was refused. What was left unread stays so. -/
def refused (s : Scan ι) (channel : Nat) : Scan ι :=
  { s with due := none, phase := .returned (.error (.channelClosed channel)) s.unread }

/-- The pool, which the workers share. -/
def pool (s : Scan ι) : Pool LineBatch := s.dispatch.dispatcher.pool

def withPool (s : Scan ι) (pool : Pool LineBatch) : Scan ι :=
  s.withDispatcher { s.dispatch.dispatcher with pool }

end Scan

/-- How far a worker is. -/
inductive Task.Phase where
  | fresh
  | ready
  | holding (b : LineBatch)
  | ended (result : Except WorkerHalt WorkerReport)
  | aborted

/-- Where a call takes a worker. -/
def Task.Phase.afterCall {α : Type} (worker : Nat) (next : α → Task.Phase) :
    Except Halt α → Task.Phase
  | .ok a => next a
  | .error halt => .ended (.error (halt.ofWorker worker))

/-- A worker, and whether the runner has got its result. -/
structure Task (π : Type) where
  phase : Task.Phase := .fresh
  joined : Bool := false
  state : WorkerState π

namespace Task

/-- Whether the worker may still receive: its end of the channel is dropped when it ends. -/
def Live (t : Task π) : Prop :=
  match t.phase with
  | .ended _ => False
  | .aborted => False
  | _ => True

end Task

/-- How far the runner is: it takes results as they come, then waits for dispatch if it has to. -/
inductive Runner where
  | selecting (scanned : Option DispatchSummary) (reports : List WorkerReport)
  | awaiting (reports : List WorkerReport)
  | aborting (e : LoadError)
  | returned (result : Except LoadError LoadSummary)

/-- The parts of a load, what waits in its channels, and which worker was handed which batch. -/
structure State (ι π : Type) where
  scan : Scan ι
  queue : Nat → List LineBatch := fun _ => []
  handed : List (Nat × LineBatch) := []
  task : Nat → Task π
  totals : Totals := {}
  runner : Runner := .selecting none []

/-- The reports in the order of the workers. -/
def inOrder (reports : List WorkerReport) : List WorkerReport :=
  reports.mergeSort fun a b => a.worker ≤ b.worker

namespace State

variable {s : State ι π}

/-- A worker with what it shares with the others. -/
def lent (s : State ι π) (worker : Nat) : WorkerState π :=
  { (s.task worker).state with pool := s.scan.pool, totals := s.totals }

/-- A worker has moved on, and what it shares with it. -/
def moved (s : State ι π) (worker : Nat) (phase : Task.Phase) (w : WorkerState π) : State ι π :=
  { s with
    scan := s.scan.withPool w.pool
    task := Function.update s.task worker { s.task worker with phase, state := w }
    totals := w.totals }

/-- A call of a worker has returned; a failure ends the worker. -/
def called {α : Type} (s : State ι π) (worker : Nat) (call : Except Halt α × WorkerState π)
    (next : α → Task.Phase) : State ι π :=
  s.moved worker (Task.Phase.afterCall worker next call.1) call.2

/-- A worker has moved on by itself. -/
def rephased (s : State ι π) (worker : Nat) (phase : Task.Phase) : State ι π :=
  { s with task := Function.update s.task worker { s.task worker with phase } }

/-- A batch has gone from the channel to a worker. -/
def receive (s : State ι π) (channel worker : Nat) (b : LineBatch) (rest : List LineBatch) :
    State ι π :=
  { s.rephased worker (.holding b) with
    queue := Function.update s.queue channel rest
    handed := s.handed ++ [(worker, b)] }

/-- A batch has gone from dispatch to a channel. -/
def deliver (s : State ι π) (p : Parcel) (next : Dispatch ι) : State ι π :=
  { s with
    scan := { s.scan with due := none, dispatch := next }
    queue := Function.update s.queue p.channel (s.queue p.channel ++ [p.batch]) }

/-- The runner has got the result of a worker. -/
def join (s : State ι π) (worker : Nat) (runner : Runner) : State ι π :=
  { s with
    task := Function.update s.task worker { s.task worker with joined := true }
    runner := runner }

end State

/-- How many batches a channel holds at most. -/
def capacity (c : Config) : Nat := max c.channelCapacity 1

def limits (c : Config) : DispatchLimits := ⟨c.batchSize, c.limit⟩

def settings (c : Config) : WorkerSettings := .ofConfig c

/-- The channel of a worker. -/
def lane (c : Config) (worker : Nat) : Nat := Load.channelOf c.channelCount worker

/-- Whether a worker is left that may receive from a channel. -/
def Open (c : Config) (s : State ι π) (channel : Nat) : Prop :=
  ∃ worker < c.workers, lane c worker = channel ∧ (s.task worker).Live

/-- Whether a channel is closed, and nothing is left in it. -/
def Drained (s : State ι π) (channel : Nat) : Prop :=
  (∃ result unread, s.scan.phase = .returned result unread) ∧ s.queue channel = []

/-- The steps of a load. -/
inductive Step [Indexer ι] [Processor π] (c : Config) (s : State ι π) : State ι π → Prop where
  /-- Dispatch goes on by itself. -/
  | advance {scan : Scan ι} (hScan : s.scan.advance? (limits c) = some scan) :
      Step c s { s with scan }
  /-- Dispatch hands its batch over, as there is room for it. -/
  | deliver {p : Parcel} {next : Dispatch ι} (hDue : s.scan.due = some p)
      (hOpen : Open c s p.channel) (hRoom : (s.queue p.channel).length < capacity c)
      (hSend : s.scan.dispatch.send p = .ok next) : Step c s (s.deliver p next)
  /-- Dispatch has nobody to hand its batch to. -/
  | refuse {p : Parcel} (hDue : s.scan.due = some p) (hClosed : ¬Open c s p.channel) :
      Step c s { s with scan := s.scan.refused p.channel }
  /-- A worker begins. -/
  | start {worker : Nat} (hWorker : worker < c.workers) (hPhase : (s.task worker).phase = .fresh)
      (hReturns : ((s.lent worker).begin (settings c)).1 ≠ .error .endless) :
      Step c s (s.called worker ((s.lent worker).begin (settings c)) fun _ => .ready)
  /-- A worker takes the batch that has waited longest. -/
  | receive {worker : Nat} {b : LineBatch} {rest : List LineBatch} (hWorker : worker < c.workers)
      (hPhase : (s.task worker).phase = .ready) (hQueue : s.queue (lane c worker) = b :: rest) :
      Step c s (s.receive (lane c worker) worker b rest)
  /-- A worker is through with its batch. -/
  | process {worker : Nat} {b : LineBatch} (hWorker : worker < c.workers)
      (hPhase : (s.task worker).phase = .holding b)
      (hReturns : ((s.lent worker).step (settings c) b).1 ≠ .error .endless) :
      Step c s (s.called worker ((s.lent worker).step (settings c) b) fun _ => .ready)
  /-- A worker whose channel has nothing more to give finishes. -/
  | finish {worker : Nat} (hWorker : worker < c.workers)
      (hPhase : (s.task worker).phase = .ready) (hDrained : Drained s (lane c worker))
      (hReturns : ((s.lent worker).finish (settings c)).1 ≠ .error .endless) :
      Step c s (s.called worker ((s.lent worker).finish (settings c)) fun r => .ended (.ok r))
  /-- The runner takes what dispatch has returned. -/
  | scanned {reports : List WorkerReport} {d : DispatchSummary} {unread : List Source.Item}
      (hRunner : s.runner = .selecting none reports)
      (hScan : s.scan.phase = .returned (.ok d) unread) :
      Step c s { s with runner := .selecting (some d) reports }
  | scanFailed {reports : List WorkerReport} {e : DispatchError} {unread : List Source.Item}
      (hRunner : s.runner = .selecting none reports)
      (hScan : s.scan.phase = .returned (.error e) unread) :
      Step c s { s with runner := .aborting (Load.dispatchError e) }
  /-- The runner takes what a worker has returned. -/
  | joined {worker : Nat} {scanned : Option DispatchSummary} {reports : List WorkerReport}
      {r : WorkerReport} (hWorker : worker < c.workers)
      (hRunner : s.runner = .selecting scanned reports)
      (hPhase : (s.task worker).phase = .ended (.ok r)) (hFirst : (s.task worker).joined = false) :
      Step c s (s.join worker (.selecting scanned (reports ++ [r])))
  | joinFailed {worker : Nat} {scanned : Option DispatchSummary} {reports : List WorkerReport}
      {e : LoadError} (hWorker : worker < c.workers)
      (hRunner : s.runner = .selecting scanned reports)
      (hPhase : (s.task worker).phase = .ended (.error (.failed e)))
      (hFirst : (s.task worker).joined = false) : Step c s (s.join worker (.aborting e))
  /-- No worker is left, and dispatch has returned before. -/
  | summarise {reports : List WorkerReport} {d : DispatchSummary}
      (hRunner : s.runner = .selecting (some d) reports)
      (hAll : ∀ worker < c.workers, (s.task worker).joined = true) (elapsed : Nat) :
      Step c s { s with
        runner := .returned (.ok (Load.summarise (inOrder reports) s.totals elapsed d)) }
  /-- No worker is left, but dispatch has not been heard of. -/
  | await {reports : List WorkerReport} (hRunner : s.runner = .selecting none reports)
      (hAll : ∀ worker < c.workers, (s.task worker).joined = true) :
      Step c s { s with runner := .awaiting reports }
  | awaited {reports : List WorkerReport} {d : DispatchSummary} {unread : List Source.Item}
      (hRunner : s.runner = .awaiting reports)
      (hScan : s.scan.phase = .returned (.ok d) unread) (elapsed : Nat) :
      Step c s { s with
        runner := .returned (.ok (Load.summarise (inOrder reports) s.totals elapsed d)) }
  | awaitFailed {reports : List WorkerReport} {e : DispatchError} {unread : List Source.Item}
      (hRunner : s.runner = .awaiting reports)
      (hScan : s.scan.phase = .returned (.error e) unread) :
      Step c s { s with runner := .returned (.error (Load.dispatchError e)) }
  /-- After a failure the workers are stopped, at whatever point they are. -/
  | abort {worker : Nat} {e : LoadError} (hWorker : worker < c.workers)
      (hRunner : s.runner = .aborting e) (hLive : (s.task worker).Live) :
      Step c s (s.rephased worker .aborted)
  | giveUp {e : LoadError} (hRunner : s.runner = .aborting e)
      (hNone : ∀ worker < c.workers, ¬(s.task worker).Live) :
      Step c s { s with runner := .returned (.error e) }

/-- A worker before its first step. -/
def fresh (c : Config) (processor : Nat → π) (worker : Nat) : WorkerState π :=
  .start worker (processor worker) (.ofCapacity (Load.poolSize c)) {}

/-- A load past its checks, before its first step. -/
def initial (c : Config) (source : Source.Stream) (indexer : ι) (processor : Nat → π) :
    State ι π where
  scan :=
    { phase := .opening source
      dispatch :=
        .start indexer (.ofCapacity (Load.poolSize c)) (List.replicate c.channelCount {}) }
  task worker := { state := fresh c processor worker }

/-- The states that a load may come to, whatever the order of the steps. -/
inductive Reachable [Indexer ι] [Processor π] (c : Config) (source : Source.Stream) (indexer : ι)
    (processor : Nat → π) : State ι π → Prop where
  | initial : Reachable c source indexer processor (initial c source indexer processor)
  | step {s t : State ι π} (hBefore : Reachable c source indexer processor s) (hStep : Step c s t) :
      Reachable c source indexer processor t

/-- Every run from a state on comes to a state of this kind, whatever the order of its steps. -/
inductive Inevitably [Indexer ι] [Processor π] (c : Config) (P : State ι π → Prop) :
    State ι π → Prop where
  | now {s : State ι π} (hHere : P s) : Inevitably c P s
  | later {s : State ι π} (hGoesOn : ∃ t, Step c s t) (hAll : ∀ t, Step c s t → Inevitably c P t) :
      Inevitably c P s

end BulkLoad.Concurrent
