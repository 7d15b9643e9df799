import BulkLoad.Journal
import BulkLoad.Write.Reply

/-!
The other end of the wire: where requests go, what they carry, and how they are answered.
-/
namespace BulkLoad

/-- Where a worker writes to. -/
structure Destination where
  worker : Nat
  url : String := ""
  deriving DecidableEq, Repr

structure Request where
  destination : Destination
  gzip : Bool
  body : Bytes
  deriving DecidableEq, Repr

/-- One answer: the reply, the time until it came, and the chance number drawn after it. -/
structure Exchange where
  reply : Reply
  took : Nat := 0
  chance : Nat := 0
  deriving DecidableEq, Repr

/-- A request and the time at which it was sent. -/
structure Delivery where
  request : Request
  time : Nat
  deriving DecidableEq, Repr

/-- The answers still to come and the one that follows them for ever, the time, and the requests
received, the newest first. -/
structure World where
  clock : Nat := 0
  answers : List Exchange := []
  fallback : Destination → Exchange := fun _ => ⟨.noContent, 0, 0⟩
  newestFirst : List Delivery := []

namespace World

def deliveries (w : World) : List Delivery := w.newestFirst.reverse

def requests (w : World) : List Request := w.deliveries.map Delivery.request

/-- The same request at several times, the latest first. -/
def receive (w : World) (r : Request) (times : List Nat) : World :=
  { w with newestFirst := times.map (⟨r, ·⟩) ++ w.newestFirst }

end World

end BulkLoad
