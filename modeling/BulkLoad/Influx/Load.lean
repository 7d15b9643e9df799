import BulkLoad.Influx.Http
import BulkLoad.Run.Load

/-!
A load into a server of the time series database, over a world for each worker.
-/
namespace BulkLoad.InfluxLoad

/-- Buffers for the whole crew of workers. -/
def bufferCount (c : Config) : Nat := c.workers * InfluxProcessor.buffersPerWorker

/-- The same as it is computed, if it has a word. -/
def bufferCount? (c : Config) : Option Nat := Word.mul? c.workers InfluxProcessor.buffersPerWorker

/-- The processor of each worker. -/
def processor (codec : Gzip.Codec) (c : Config) (connector : Connector) (world : Nat → World)
    (worker : Nat) : InfluxProcessor :=
  .ofConfig codec c connector (bufferCount c) (world worker)

/-- Routing by series or in turn, as the configuration says. -/
def routing (c : Config) : Routing := .ofChannels c.hashWorkers c.channelCount

def parts (codec : Gzip.Codec) (c : Config) (source : Except Fault Source.Stream)
    (world : Nat → World) : LoadParts Routing InfluxProcessor where
  source := source
  indexer := routing c
  processor := processor codec c (Http.connector c.influx) world

/-- Runs a load that takes a span of time as a whole. -/
def run (codec : Gzip.Codec) (c : Config) (elapsed : Nat) (source : Except Fault Source.Stream)
    (world : Nat → World) : LoadOutcome InfluxProcessor :=
  Load.run c elapsed (parts codec c source world)

/-- Starts and runs a load. It may break down before anything is read, when its buffers are
counted, or later when it is set up. -/
def launch {ι π : Type} [Indexer ι] [Processor π] (c : Config) (elapsed : Nat)
    (parts : LoadParts ι π) : Option (LoadOutcome π) := do
  let _ ← bufferCount? c
  Load.launch c elapsed parts

end BulkLoad.InfluxLoad
