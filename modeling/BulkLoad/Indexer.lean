import BulkLoad.Batch.Line

/-!
Which channel a point goes to.
-/
namespace BulkLoad

/-- A choice of a channel for each point, which may depend on the points before it. -/
class Indexer (ι : Type) where
  pick : ι → Point → Nat × ι

namespace Hash

/-- The offset basis of the 32-bit FNV-1a hash. -/
def offsetBasis : UInt32 := 0x811c9dc5

/-- The prime of the 32-bit FNV-1a hash. -/
def prime : UInt32 := 0x01000193

/-- The 32-bit FNV-1a hash: each byte is mixed in before the product, which wraps. -/
def fnv1a (s : Bytes) : UInt32 := s.foldl (fun hash b => (hash ^^^ b.toUInt32) * prime) offsetBasis

end Hash

/-- The channels in turn. -/
structure RoundRobin where
  channels : Nat
  next : Nat := 0

namespace RoundRobin

/-- There is always one channel to go to. -/
def ofChannels (channels : Nat) : RoundRobin := { channels := max channels 1 }

instance : Indexer RoundRobin where
  pick r _ := (r.next, { r with next := (r.next + 1) % r.channels })

end RoundRobin

/-- One channel for all points. -/
structure Constant where
  index : Nat := 0

instance : Indexer Constant where
  pick c _ := (c.index, c)

/-- The same channel for all points with the same key. -/
structure KeyHash where
  channels : Nat
  key : Point → Bytes

namespace KeyHash

def ofChannels (channels : Nat) (key : Point → Bytes) : KeyHash := ⟨max channels 1, key⟩

def index (k : KeyHash) (p : Point) : Nat := (Hash.fnv1a (k.key p)).toNat % k.channels

instance : Indexer KeyHash where
  pick k p := (k.index p, k)

end KeyHash

/-- How a load routes its points: by series when each worker has its own channel, else in turn. -/
inductive Routing where
  | inTurn (state : RoundRobin)
  | bySeries (rule : KeyHash)

namespace Routing

def ofChannels (hashWorkers : Bool) (channels : Nat) : Routing :=
  if hashWorkers then .bySeries (.ofChannels channels Point.seriesKey)
  else .inTurn (.ofChannels channels)

instance : Indexer Routing where
  pick
    | .inTurn r, p => let (i, r) := Indexer.pick r p; (i, .inTurn r)
    | .bySeries k, p => let (i, k) := Indexer.pick k p; (i, .bySeries k)

end Routing
end BulkLoad
