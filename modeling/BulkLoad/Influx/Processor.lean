import BulkLoad.Batch.Factory
import BulkLoad.Write.Controller
import BulkLoad.Write.Gzip
import BulkLoad.Write.Processor

/-!
Writing batches to a server of the time series database.

A processor is connected by `init` and disconnected by `close`. In a dry run it connects nowhere and
sends nothing, but counts all the same.
-/
namespace BulkLoad

/-- How a worker comes to its destination. -/
structure Connector where
  connect : Nat → Except Fault Destination × Journal

structure InfluxProcessor where
  codec : Gzip.Codec
  gzip : Bool
  retry : RetryConfig
  connector : Connector
  buffers : Pool Bytes
  world : World := {}
  worker : Nat := 0
  controller : Option Controller := none

namespace InfluxProcessor

/-- For each worker so many buffers are kept. -/
def buffersPerWorker : Nat := 2

def ofConfig (codec : Gzip.Codec) (c : Config) (connector : Connector) (buffers : Nat)
    (world : World) : InfluxProcessor where
  codec := codec
  gzip := c.influx.gzip
  retry := c.retry
  connector := connector
  buffers := .ofCapacity buffers
  world := world

/-- A new controller; what the one before had left to tell comes first. -/
def replace (p : InfluxProcessor) (destination : Destination) : Controller :=
  let c := Controller.ofConfig destination p.retry
  match p.controller with
  | none => c
  | some old => { c with tracker := { c.tracker with untold := old.close.2 } }

/-- Connects the worker, unless the run is dry. A worker that cannot be connected keeps what it
had. -/
def init (p : InfluxProcessor) (worker : Nat) (doLoad : Bool) : Call InfluxProcessor Unit :=
  let p := { p with worker }
  if doLoad then
    match p.connector.connect worker with
    | (.error f, told) => { result := .error (.failed f), next := p, told }
    | (.ok destination, told) =>
      { result := .ok (), next := { p with controller := some (p.replace destination) }, told }
  else { result := .ok (), next := p }

/-- The bytes to send, and the buffers while they are sent and after. -/
def body (p : InfluxProcessor) (batch : LineBatch) : Bytes × Pool Bytes :=
  if p.gzip then
    let (buffer, buffers) := p.buffers.acquire
    let compressed := Gzip.compressInto p.codec batch.payload buffer
    (compressed, buffers.release compressed)
  else (batch.payload, p.buffers)

def target : String := "targets::influx::processor"

def toldWritten (worker latency : Nat) : Journal :=
  [Journal.say .debug target "Batch written"
    [("worker", .nat worker), ("latency_ms", .float (Span.seconds latency * 1000.0))]]

def endOf (worker : Nat) : WriteEnd → Except Halt Nat
  | .written latency => .ok latency
  | .failed e => .error (.failed (e.fault worker))
  | .crashed => .error .crashed
  | .endless => .error .endless

/-- Sends a batch through a controller. -/
def send (p : InfluxProcessor) (c : Controller) (batch : LineBatch) :
    Call InfluxProcessor BatchCounts :=
  let (bytes, buffers) := p.body batch
  let written := c.write p.world bytes p.gzip
  let next := { p with buffers, world := written.world, controller := some written.controller }
  let took := written.world.clock - p.world.clock
  match endOf p.worker written.ended with
  | .error halt => { result := .error halt, next, took, told := written.told }
  | .ok latency =>
    { result := .ok batch.counts
      next
      took
      told := written.told ++ toldWritten p.worker latency }

/-- Writes a batch, or only counts it in a dry run. -/
def process (p : InfluxProcessor) (batch : LineBatch) (doLoad : Bool) :
    Call InfluxProcessor BatchCounts :=
  if doLoad then
    match p.controller with
    | none => { result := .error (.failed (.notInitialized p.worker)), next := p }
    | some c => p.send c batch
  else { result := .ok batch.counts, next := p }

/-- Disconnects. -/
def close (p : InfluxProcessor) : Call InfluxProcessor Nat :=
  match p.controller with
  | none => { result := .ok 0, next := p }
  | some c =>
    match c.close with
    | (backoff, told) => { result := .ok backoff, next := { p with controller := none }, told }

instance : Processor InfluxProcessor where
  init p worker doLoad _ := p.init worker doLoad
  process := process
  close p _ := p.close

end InfluxProcessor
end BulkLoad
