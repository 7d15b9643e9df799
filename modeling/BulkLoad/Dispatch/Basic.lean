import BulkLoad.Batch.Factory
import BulkLoad.Indexer
import BulkLoad.Source.Stream

/-!
The steps of dispatch: points are taken one by one, each goes to the open batch of its channel, and
a batch that is full is sent. When the source ends the open batches are sent in channel order.

A step never sends by itself. It gives the batch that is due, so that the same steps serve a run in
which every channel takes at once and one in which a full channel makes dispatch wait.
-/
namespace BulkLoad

/-- Why dispatch ends early. -/
inductive DispatchError where
  | source (points : Nat) (fault : Fault)
  | append (index : Nat) (fault : Fault)
  | badIndex (index channels : Nat)
  | channelClosed (channel : Nat)
  | crashed
  deriving DecidableEq, Repr

namespace DispatchError

def message : DispatchError → String
  | .source points f =>
    "point source failed after " ++ toString points ++ " points: " ++ f.message
  | .append index f => "point #" ++ toString index ++ " rejected: " ++ f.message
  | .badIndex index channels =>
    "indexer returned channel " ++ toString index ++ ", but only " ++ toString channels
      ++ " channels exist"
  | .channelClosed channel =>
    "channel " ++ toString channel ++ " closed before dispatch finished"
  | .crashed => "dispatch task failed"

/-- The wordings from the failure down to its first cause. -/
def chain (e : DispatchError) : List String :=
  e.message ::
    match e with
    | .source _ f => f.chain
    | .append _ f => f.chain
    | _ => []

end DispatchError

/-- How large a batch grows, and how many points are taken at most. -/
structure DispatchLimits where
  batchSize : Nat
  limit : Option Nat := none

namespace DispatchLimits

/-- A batch holds at least one point. -/
def fullSize (s : DispatchLimits) : Nat := max s.batchSize 1

/-- Whether so many points are as many as are wanted. -/
def reached (s : DispatchLimits) (points : Nat) : Bool := s.limit.any (· ≤ points)

end DispatchLimits

/-- Dispatch between two steps: one open batch at most for each channel. -/
structure Dispatcher (ι : Type) where
  indexer : ι
  pool : Pool LineBatch
  slots : List (Option LineBatch)
  points : Nat := 0

/-- A batch on its way to a channel. -/
structure Parcel where
  channel : Nat
  batch : LineBatch
  deriving DecidableEq, Repr

/-- What becomes of one item of the source. -/
inductive Taken (ι : Type) where
  | ended
  | failed (e : DispatchError) (d : Dispatcher ι)
  | kept (d : Dispatcher ι)
  | full (p : Parcel) (d : Dispatcher ι)

namespace Dispatcher

variable {ι : Type}

def start (indexer : ι) (pool : Pool LineBatch) (channels : Nat) : Dispatcher ι :=
  { indexer, pool, slots := List.replicate channels none }

def channels (d : Dispatcher ι) : Nat := d.slots.length

/-- The open batch of a channel; one is taken from the pool if there is none. -/
def openBatch (d : Dispatcher ι) : Option LineBatch → LineBatch × Pool LineBatch
  | some batch => (batch, d.pool)
  | none => d.pool.acquire

/-- Adds a point to the open batch of a channel. A batch that refuses a point is lost with what it
held. -/
def place (size : Nat) (d : Dispatcher ι) (channel : Nat) (slot : Option LineBatch) (p : Point) :
    Taken ι :=
  match d.openBatch slot with
  | (batch, pool) =>
    match batch.append p with
    | .error f => .failed (.append d.points f) { d with pool, slots := d.slots.set channel none }
    | .ok batch =>
      if size ≤ batch.points then
        .full ⟨channel, batch⟩
          { d with pool, slots := d.slots.set channel none, points := d.points + 1 }
      else
        .kept { d with pool, slots := d.slots.set channel (some batch), points := d.points + 1 }

/-- Routes a point. -/
def route [Indexer ι] (size : Nat) (d : Dispatcher ι) (p : Point) : Taken ι :=
  match Indexer.pick d.indexer p with
  | (channel, indexer) =>
    let d := { d with indexer }
    match d.slots[channel]? with
    | none => .failed (.badIndex channel d.channels) d
    | some slot => d.place size channel slot p

/-- Takes one item. An empty point ends a source like its end. -/
def take [Indexer ι] (size : Nat) (d : Dispatcher ι) : Source.Item → Taken ι
  | .done => .ended
  | .failed f => .failed (.source d.points f) d
  | .crashed => .failed .crashed d
  | .point p => if p.isEmpty then .ended else d.route size p

/-- Closes the slot of a channel: an open batch with points is due to be sent, one without goes back
to the pool. -/
def flush (d : Dispatcher ι) (channel : Nat) : Option Parcel × Dispatcher ι :=
  match d.slots[channel]? with
  | some (some batch) =>
    let d := { d with slots := d.slots.set channel none }
    if batch.isEmpty then (none, { d with pool := d.pool.release batch })
    else (some ⟨channel, batch⟩, d)
  | _ => (none, d)

end Dispatcher
end BulkLoad
