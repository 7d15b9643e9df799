import BulkLoad.Batch.Factory
import BulkLoad.Config.Basic
import BulkLoad.Run.Error
import BulkLoad.Stats.Running
import BulkLoad.Stats.Totals
import BulkLoad.Write.Processor

/-!
The loop of a worker: batches are taken from its channel and processed one by one until the channel
is closed. A batch goes back to the pool whether it was written or not; the first failure ends the
loop. Only a call that breaks down takes its batch with it.
-/
namespace BulkLoad

structure WorkerSettings where
  doLoad : Bool
  hashWorkers : Bool
  batchDelay : Option Nat := none

def WorkerSettings.ofConfig (c : Config) : WorkerSettings where
  doLoad := c.doLoad
  hashWorkers := c.hashWorkers
  batchDelay := c.batchDelay?

/-- What a worker did. -/
structure WorkerReport where
  worker : Nat
  batches : Nat := 0
  counts : BatchCounts := {}
  latency : RunningStats := Running.empty
  backoff : Nat := 0

/-- Why a worker gives no report. -/
inductive WorkerHalt where
  | failed (e : LoadError)
  | endless
  deriving DecidableEq, Repr

def Halt.ofWorker (worker : Nat) : Halt → WorkerHalt
  | .failed f => .failed (.worker worker f)
  | .crashed => .failed (.task "worker" LoadError.brokeDown)
  | .endless => .endless

/-- A worker between two batches: the processor, the pool and the totals that it shares, its report
so far, the time it waited between batches, and what was told, the newest first. -/
structure WorkerState (π : Type) where
  processor : π
  pool : Pool LineBatch
  totals : Totals
  report : WorkerReport
  idled : Nat := 0
  toldNewestFirst : Journal := []

/-- How a worker ended, and the batches it never took. -/
structure WorkerOutcome (π : Type) where
  result : Except WorkerHalt WorkerReport
  final : WorkerState π
  untaken : List LineBatch

namespace WorkerState

variable {π : Type}

def target : String := "loader::worker"

def tell (s : WorkerState π) (told : Journal) : WorkerState π :=
  { s with toldNewestFirst := told.reverse ++ s.toldNewestFirst }

def told (s : WorkerState π) : Journal := s.toldNewestFirst.reverse

/-- How long the worker waits before the next batch, if it is not to be faster than one batch a
delay. -/
def idleTime (settings : WorkerSettings) (took : Nat) : Nat :=
  (settings.batchDelay.map fun delay => delay - took).getD 0

/-- Counts a batch that was processed. -/
def record (settings : WorkerSettings) (s : WorkerState π) (counts : BatchCounts) (took : Nat) :
    WorkerState π :=
  let millis := Span.seconds took * 1000.0
  { s with
    totals := s.totals.add counts
    report :=
      { s.report with
        batches := s.report.batches + 1
        counts :=
          ⟨s.report.counts.points + counts.points, s.report.counts.rows + counts.rows⟩
        latency := s.report.latency.push millis }
    idled := s.idled + idleTime settings took }.tell (Metrics.batchProcessed counts millis)

/-- Takes one batch, and puts it back into the pool once the call for it has returned. -/
def step [Processor π] (settings : WorkerSettings) (s : WorkerState π) (batch : LineBatch) :
    Except Halt Unit × WorkerState π :=
  let call := Processor.process s.processor batch settings.doLoad
  let s := { s with processor := call.next }.tell call.told
  match call.result with
  | .error (.failed f) => (.error (.failed f), { s with pool := s.pool.release batch })
  | .error .crashed => (.error .crashed, s)
  | .error .endless => (.error .endless, s)
  | .ok counts =>
    let s := s.record settings counts call.took
    (.ok (), { s with pool := s.pool.release batch })

/-- Takes all batches, or those up to the first that fails. -/
def loop [Processor π] (settings : WorkerSettings) (s : WorkerState π) :
    List LineBatch → Except Halt Unit × WorkerState π × List LineBatch
  | [] => (.ok (), s, [])
  | batch :: batches =>
    match s.step settings batch with
    | (.error halt, s) => (.error halt, s, batches)
    | (.ok (), s) => loop settings s batches

def toldStarted (worker : Nat) : Event :=
  Journal.say .debug target "Worker started" [("worker", .nat worker)]

def toldFinished (r : WorkerReport) : Journal :=
  Metrics.workerBackedOff r.worker (Span.seconds r.backoff) ++
    [Journal.say .info target "Worker finished"
      [ ("worker", .nat r.worker), ("batches", .nat r.batches), ("points", .nat r.counts.points)
      , ("rows", .nat r.counts.rows), ("backoff_secs", .float (Span.seconds r.backoff)) ]]

/-- The end of a worker whose channel is closed. -/
def finish [Processor π] (settings : WorkerSettings) (s : WorkerState π) :
    Except Halt WorkerReport × WorkerState π :=
  let call := Processor.close s.processor settings.doLoad
  let s := { s with processor := call.next }.tell call.told
  match call.result with
  | .error halt => (.error halt, s)
  | .ok backoff =>
    let report := { s.report with backoff }
    (.ok report, { s with report }.tell (toldFinished report))

/-- A worker from its start to its end, over the batches that its channel brings. -/
def run [Processor π] (settings : WorkerSettings) (s : WorkerState π) (batches : List LineBatch) :
    WorkerOutcome π :=
  let worker := s.report.worker
  let call := Processor.init s.processor worker settings.doLoad settings.hashWorkers
  let s := { s with processor := call.next }.tell call.told
  match call.result with
  | .error halt => ⟨.error (halt.ofWorker worker), s, batches⟩
  | .ok () =>
    match (s.tell [toldStarted worker]).loop settings batches with
    | (.error halt, s, untaken) => ⟨.error (halt.ofWorker worker), s, untaken⟩
    | (.ok (), s, untaken) =>
      match s.finish settings with
      | (.error halt, s) => ⟨.error (halt.ofWorker worker), s, untaken⟩
      | (.ok report, s) => ⟨.ok report, s, untaken⟩

end WorkerState

/-- A worker before its start. -/
def WorkerState.start {π : Type} (worker : Nat) (processor : π) (pool : Pool LineBatch)
    (totals : Totals) : WorkerState π where
  processor := processor
  pool := pool
  totals := totals
  report := { worker }

end BulkLoad
