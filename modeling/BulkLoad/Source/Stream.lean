import BulkLoad.Batch.Line
import BulkLoad.Journal

/-!
What a source of points gives: the header lines, then one item after another. After the last item
the source is at its end and stays there.
-/
namespace BulkLoad.Source

/-- What one request for a point gives. -/
inductive Item where
  | point (p : Point)
  | done
  | failed (f : Fault)
  | crashed
  deriving DecidableEq, Repr

/-- The header lines, what is told while they are read, and the items. -/
structure Stream where
  headers : Except Fault (Option (List String)) := .ok none
  opening : Journal := []
  items : List Item := []

/-- Points held in memory, each a request's worth. -/
structure Memory where
  points : List Point := []
  headers : Option (List String) := none

namespace Memory

/-- The headers are handed over once. -/
def takeHeaders (m : Memory) : Option (List String) × Memory :=
  (m.headers, { m with headers := none })

/-- The next point; an empty one is taken and stands for the end. -/
def next (m : Memory) : Option Point × Memory :=
  match m.points with
  | [] => (none, m)
  | p :: points => (if p.isEmpty then none else some p, { m with points })

def remaining (m : Memory) : Nat := m.points.length

def toStream (m : Memory) : Stream where
  headers := .ok m.headers
  items := m.points.map fun p => if p.isEmpty then .done else .point p

end Memory
end BulkLoad.Source
