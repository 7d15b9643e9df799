import BulkLoad.Decimal.Fixed

/-!
Mean, spread and extremes of values that come one by one.

Neither adding a value nor merging two accumulators looks back at earlier values. The arithmetic is
left open: the program counts with doubles, and the same steps over an exact field can be compared
with their closed forms.
-/
namespace BulkLoad

/-- The arithmetic of measurements. `least` and `greatest` take the value kept so far first. -/
class Measure (α : Type) extends Add α, Sub α, Mul α, Div α where
  ofNat : Nat → α
  least : α → α → α
  greatest : α → α → α

namespace Measure

/-- A value that is no number gives way to any other; of equal values the first stays. -/
instance : Measure Float where
  ofNat := Float.ofNat
  least a b := if a.isNaN then b else if b < a then b else a
  greatest a b := if a.isNaN then b else if a < b then b else a

end Measure

/-- An accumulator: the number of values, their mean, the sum of squared deviations from it, and the
extremes. -/
structure Running (α : Type) where
  count : Nat
  mean : α
  m2 : α
  min : α
  max : α

namespace Running

variable {α : Type} [Measure α]

open BulkLoad.Measure

/-- Before any value all quantities are zero. -/
def empty : Running α := ⟨0, ofNat 0, ofNat 0, ofNat 0, ofNat 0⟩

/-- Adds a value. -/
def push (s : Running α) (value : α) : Running α :=
  if s.count = 0 then ⟨1, value, ofNat 0, value, value⟩
  else
    let count := s.count + 1
    let delta := value - s.mean
    let mean := s.mean + delta / ofNat count
    { count
      mean
      m2 := s.m2 + delta * (value - mean)
      min := least s.min value
      max := greatest s.max value }

/-- Adds what another accumulator has seen. -/
def merge (s t : Running α) : Running α :=
  if t.count = 0 then s
  else if s.count = 0 then t
  else
    let count := s.count + t.count
    let delta := t.mean - s.mean
    { count
      mean := s.mean + delta * ofNat t.count / ofNat count
      m2 := s.m2 + (t.m2 + delta * delta * (ofNat s.count * ofNat t.count) / ofNat count)
      min := least s.min t.min
      max := greatest s.max t.max }

def ofList (values : List α) : Running α := values.foldl push empty

/-- What several accumulators have seen, from the first to the last. -/
def mergeAll (parts : List (Running α)) : Running α := parts.foldl merge empty

/-- The sample variance; fewer than two values have none. -/
def variance (s : Running α) : α := if s.count < 2 then ofNat 0 else s.m2 / ofNat (s.count - 1)

end Running

/-- Measurements of a load. -/
abbrev RunningStats := Running Float

namespace RunningStats

def deviation (s : RunningStats) : Float := s.variance.sqrt

end RunningStats

/-- What is told of measurements. -/
structure StatsSummary where
  count : Nat
  min : Float
  max : Float
  mean : Float
  deviation : Float

namespace StatsSummary

def ofStats (s : RunningStats) : StatsSummary where
  count := s.count
  min := s.min
  max := s.max
  mean := s.mean
  deviation := s.deviation

/-- Three places each, or that there is nothing to tell. -/
def text (s : StatsSummary) : String :=
  if s.count = 0 then "N/A"
  else
    "min=" ++ Decimal.fixed 3 s.min ++ ", max=" ++ Decimal.fixed 3 s.max
      ++ ", mean=" ++ Decimal.fixed 3 s.mean ++ ", std=" ++ Decimal.fixed 3 s.deviation
      ++ " (n=" ++ toString s.count ++ ")"

end StatsSummary
end BulkLoad
