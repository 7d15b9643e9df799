import BulkLoad.Dispatch.Run
import BulkLoad.Run.Summary
import BulkLoad.Word

/-!
A whole load: dispatch fills the channels, the workers empty them, and their reports add up to the
summary.

This is one order of the steps that a load may take: dispatch first, then the workers one after
another, the batches of a shared channel being dealt to its workers in turn.
-/
namespace BulkLoad

/-- What a load is made of: its source once opened, its routing, and a processor for each worker. -/
structure LoadParts (ι π : Type) where
  source : Except Fault Source.Stream
  indexer : ι
  processor : Nat → π

/-- Why a load gives no summary. -/
inductive LoadHalt where
  | failed (e : LoadError)
  | endless
  deriving DecidableEq, Repr

structure LoadOutcome (π : Type) where
  result : Except LoadHalt LoadSummary
  processors : List π := []
  told : Journal := []

namespace Load

def target : String := "loader::runner"

/-- What a configuration cannot be started with. -/
def startFault? (c : Config) : Option LoadError :=
  if c.workers = 0 then some (.config "workers must be at least 1")
  else if c.batchSize = 0 then some (.config "batch_size must be at least 1")
  else none

/-- Enough batches for full channels, an open batch for each, and one in the hands of each
worker. -/
def poolSize (c : Config) : Nat := c.channelCount * (c.channelCapacity + 1) + c.workers

/-- The size of the pool as it is computed, if every step of that has a word. -/
def poolSize? (c : Config) : Option Nat := do
  let places ← Word.add? c.channelCapacity 1
  let placesOfAll ← Word.mul? c.channelCount places
  Word.add? placesOfAll c.workers

/-- The channel that a worker reads. -/
def channelOf (channels worker : Nat) : Nat := worker % channels

/-- What a worker is handed of the items that there are, one for each channel. -/
def handedOf? {α : Type} (items : List α) (worker : Nat) : Option α := do
  let index ← Word.rem? worker items.length
  items[index]?

/-- Every `count`-th item, from that of index `first` on. -/
def dealt {α : Type} (count first : Nat) (items : List α) : List α :=
  (items.zipIdx.filter fun (_, i) => i % count = first).map Prod.fst

/-- The batches that come to a worker. -/
def batchesOf (c : Config) (outlets : List Outlet) (worker : Nat) : List LineBatch :=
  let channels := c.channelCount
  let received := (outlets[channelOf channels worker]?.map Outlet.received).getD []
  dealt (c.workers / channels) (worker / channels) received

/-- The workers so far: the first failure, if there was one, their reports and processors in
reverse, the longest time that one took, and what they share. -/
structure Crew (π : Type) where
  halt : Option WorkerHalt := none
  reports : List WorkerReport := []
  processors : List π := []
  pool : Pool LineBatch
  totals : Totals := {}
  told : Journal := []

/-- Runs one more worker, unless one has failed. -/
def Crew.add {π : Type} [Processor π] (settings : WorkerSettings) (processor : Nat → π)
    (batches : Nat → List LineBatch) (crew : Crew π) (worker : Nat) : Crew π :=
  match crew.halt with
  | some _ => crew
  | none =>
    let outcome :=
      (WorkerState.start worker (processor worker) crew.pool crew.totals).run settings
        (batches worker)
    let crew :=
      { crew with
        processors := outcome.final.processor :: crew.processors
        pool := outcome.final.pool
        totals := outcome.final.totals
        told := crew.told ++ outcome.final.told }
    match outcome.result with
    | .error halt => { crew with halt := some halt }
    | .ok report => { crew with reports := report :: crew.reports }

/-- What a load is set up with: the size of its pool, and the channel of each worker. -/
structure SetUp where
  poolSize : Nat
  channels : List Nat

/-- Sets up a load. There is no set-up if one of its computations breaks down. -/
def setUp? (c : Config) : Option SetUp := do
  let poolSize ← poolSize? c
  let channels ← (List.range c.workers).mapM (handedOf? (List.range c.channelCount))
  return { poolSize, channels }

def toldStarted (c : Config) : Event :=
  Journal.say .info target "Workers started"
    [("workers", .nat c.workers), ("channels", .nat c.channelCount)]

def toldFailed (e : LoadError) : Event :=
  Journal.say .error target "Load failed, aborting workers" [("error", .text e.message)]

def toldFinished (s : LoadSummary) : Event :=
  Journal.say .info target "Load finished"
    [ ("points", .nat s.points), ("rows", .nat s.rows), ("batches", .nat s.batches)
    , ("elapsed_secs", .float (Span.seconds s.elapsed))
    , ("points_per_sec", .text (Decimal.fixed 2 s.pointRate)) ]

def dispatchError : DispatchError → LoadError
  | .crashed => .task "dispatch" LoadError.brokeDown
  | e => .dispatch e

/-- The summary of a load in which all went well. -/
def summarise (crew : List WorkerReport) (totals : Totals) (elapsed : Nat) (d : DispatchSummary) :
    LoadSummary where
  points := totals.points.toNat
  rows := totals.rows.toNat
  batches := totals.batches.toNat
  elapsed := elapsed
  workers := crew
  batchesPerChannel := d.batchesPerChannel
  headers := d.headers
  limitReached := d.limitReached

def failed {π : Type} (processors : List π) (told : Journal) (e : LoadError) : LoadOutcome π :=
  ⟨.error (.failed e), processors, told ++ [toldFailed e]⟩

/-- The workers' part of a load, over the batches that dispatch has sent. -/
def runWorkers {π : Type} [Processor π] (c : Config) (elapsed : Nat) (processor : Nat → π)
    (outlets : List Outlet) (pool : Pool LineBatch) (d : DispatchSummary) (told : Journal) :
    LoadOutcome π :=
  let crew :=
    (List.range c.workers).foldl
      (Crew.add (.ofConfig c) processor (batchesOf c outlets)) { pool }
  let told := told ++ crew.told
  match crew.halt with
  | some .endless => ⟨.error .endless, crew.processors.reverse, told⟩
  | some (.failed e) => failed crew.processors.reverse told e
  | none =>
    let summary := summarise crew.reports.reverse crew.totals elapsed d
    ⟨.ok summary, crew.processors.reverse, told ++ [toldFinished summary]⟩

/-- Runs a load that takes a span of time as a whole. -/
def run {ι π : Type} [Indexer ι] [Processor π] (c : Config) (elapsed : Nat)
    (parts : LoadParts ι π) : LoadOutcome π :=
  match startFault? c with
  | some e => { result := .error (.failed e) }
  | none =>
    match parts.source with
    | .error f => { result := .error (.failed (.source f)) }
    | .ok source =>
      let start : Dispatch ι :=
        .start parts.indexer (.ofCapacity (poolSize c)) (List.replicate c.channelCount {})
      let outcome := start.run ⟨c.batchSize, c.limit⟩ source
      let told := toldStarted c :: outcome.final.told
      match outcome.result with
      | .error e => failed [] told (dispatchError e)
      | .ok d =>
        runWorkers c elapsed parts.processor outcome.final.outlets outcome.final.dispatcher.pool d
          told

/-- Starts and runs a load. Once its source is open the computation of its sizes may still break
down. -/
def launch {ι π : Type} [Indexer ι] [Processor π] (c : Config) (elapsed : Nat)
    (parts : LoadParts ι π) : Option (LoadOutcome π) :=
  match startFault? c, parts.source with
  | none, .ok _ => (setUp? c).map fun _ => run c elapsed parts
  | _, _ => some (run c elapsed parts)

end Load
end BulkLoad
