import BulkLoad.Dispatch.Basic

/-!
Dispatch over channels that take every batch at once, unless their receiver is gone.
-/
namespace BulkLoad

/-- A channel as dispatch sees it: whether its receiver is gone, and the batches it took, the newest
first. -/
structure Outlet where
  closed : Bool := false
  newestFirst : List LineBatch := []
  deriving DecidableEq, Repr

/-- The batches that a channel took, in order. -/
def Outlet.received (o : Outlet) : List LineBatch := o.newestFirst.reverse

def Outlet.push (o : Outlet) (b : LineBatch) : Outlet :=
  { o with newestFirst := b :: o.newestFirst }

/-- What dispatch did when it came to its end. -/
structure DispatchSummary where
  points : Nat
  batchesPerChannel : List Nat
  headers : Option (List String)
  limitReached : Bool
  deriving DecidableEq, Repr

def DispatchSummary.batches (s : DispatchSummary) : Nat := sumOf id s.batchesPerChannel

/-- Dispatch with the channels behind it, the batches counted for each channel, and the journal, the
newest event first. -/
structure Dispatch (ι : Type) where
  dispatcher : Dispatcher ι
  outlets : List Outlet
  sent : List Nat
  toldNewestFirst : Journal := []

/-- How a run of dispatch ends, and the items it never asked for. -/
structure DispatchOutcome (ι : Type) where
  result : Except DispatchError DispatchSummary
  final : Dispatch ι
  unread : List Source.Item

namespace Dispatch

variable {ι : Type}

def target : String := "ingestion::scan"

def start (indexer : ι) (pool : Pool LineBatch) (outlets : List Outlet) : Dispatch ι where
  dispatcher := .start indexer pool outlets.length
  outlets := outlets
  sent := List.replicate outlets.length 0

def tell (s : Dispatch ι) (told : Journal) : Dispatch ι :=
  { s with toldNewestFirst := told.reverse ++ s.toldNewestFirst }

def told (s : Dispatch ι) : Journal := s.toldNewestFirst.reverse

def dispatchedCounter : String := "tsbs_load_batches_dispatched_total"

/-- Progress is told once for so many batches. -/
def progressInterval : Nat := 1000

def progress (batches points : Nat) : Journal :=
  if batches % progressInterval = 0 then
    [Journal.say .debug target "Dispatch progress"
      [("batches", .nat batches), ("points", .nat points)]]
  else []

/-- Hands a batch over. A channel without receiver refuses it, and the batch is lost. -/
def send (s : Dispatch ι) (p : Parcel) : Except DispatchError (Dispatch ι) :=
  match s.outlets[p.channel]? with
  | none => .error (.channelClosed p.channel)
  | some outlet =>
    if outlet.closed then .error (.channelClosed p.channel)
    else
      let sent := s.sent.modify p.channel (· + 1)
      .ok
        ({ s with outlets := s.outlets.set p.channel (outlet.push p.batch), sent }.tell
          (.count dispatchedCounter 1 :: progress (sumOf id sent) s.dispatcher.points))

/-- Sends the open batches of the channels listed. -/
def flushAll (s : Dispatch ι) : List Nat → Except DispatchError Unit × Dispatch ι
  | [] => (.ok (), s)
  | channel :: channels =>
    match s.dispatcher.flush channel with
    | (none, d) => flushAll { s with dispatcher := d } channels
    | (some p, d) =>
      match { s with dispatcher := d }.send p with
      | .ok s => flushAll s channels
      | .error e => (.error e, { s with dispatcher := d })

def finished (s : Dispatch ι) (limitReached : Bool) : Event :=
  Journal.say .info target "Dispatch loop finished"
    [ ("points", .nat s.dispatcher.points), ("batches", .nat (sumOf id s.sent))
    , ("limit_reached", .bool limitReached) ]

/-- The end of the loop: what is open is sent. -/
def finish (s : Dispatch ι) (headers : Option (List String)) (limitReached : Bool)
    (unread : List Source.Item) : DispatchOutcome ι :=
  match s.flushAll (List.range s.outlets.length) with
  | (.error e, s) => ⟨.error e, s, unread⟩
  | (.ok (), s) =>
    ⟨.ok ⟨s.dispatcher.points, s.sent, headers, limitReached⟩, s.tell [s.finished limitReached],
      unread⟩

/-- The loop over the items. Whether enough points are taken is asked before each item. -/
def loop [Indexer ι] (limits : DispatchLimits) (headers : Option (List String)) (s : Dispatch ι) :
    List Source.Item → DispatchOutcome ι
  | [] => s.finish headers (limits.reached s.dispatcher.points) []
  | item :: items =>
    if limits.reached s.dispatcher.points then s.finish headers true (item :: items)
    else
      match s.dispatcher.take limits.fullSize item with
      | .ended => s.finish headers false items
      | .failed e d => ⟨.error e, { s with dispatcher := d }, items⟩
      | .kept d => loop limits headers { s with dispatcher := d } items
      | .full p d =>
        match { s with dispatcher := d }.send p with
        | .ok s => loop limits headers s items
        | .error e => ⟨.error e, { s with dispatcher := d }, items⟩

def headersTold : Option (List String) → Journal
  | none => []
  | some lines =>
    [Journal.say .info target "Source headers consumed" [("lines", .nat lines.length)]]

/-- A run of dispatch over a source. -/
def run [Indexer ι] (limits : DispatchLimits) (source : Source.Stream) (s : Dispatch ι) :
    DispatchOutcome ι :=
  match source.headers with
  | .error f => ⟨.error (.source 0 f), s.tell source.opening, source.items⟩
  | .ok headers =>
    loop limits headers (s.tell (source.opening ++ headersTold headers)) source.items

end Dispatch
end BulkLoad
