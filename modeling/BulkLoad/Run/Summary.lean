import BulkLoad.Run.Worker

/-!
What a load achieved, as a value and as text.
-/
namespace BulkLoad

structure LoadSummary where
  points : Nat
  rows : Nat
  batches : Nat
  elapsed : Nat
  workers : List WorkerReport
  batchesPerChannel : List Nat := []
  headers : Option (List String) := none
  limitReached : Bool := false

/-- Something so many times in a span, by the second; no rate without time. -/
def perSecond (count span : Nat) : Float :=
  let seconds := Span.seconds span
  if 0.0 < seconds then Float.ofNat count / seconds else 0.0

namespace LoadSummary

def pointRate (s : LoadSummary) : Float := perSecond s.points s.elapsed

def rowRate (s : LoadSummary) : Float := perSecond s.rows s.elapsed

/-- The latencies of all workers together. -/
def latency (s : LoadSummary) : RunningStats :=
  Running.mergeAll (s.workers.map WorkerReport.latency)

def backoff (s : LoadSummary) : Nat := sumOf WorkerReport.backoff s.workers

def loadedLine (s : LoadSummary) (count : Nat) (what : String) (rate : Float) : String :=
  "loaded " ++ toString count ++ " " ++ what ++ " in " ++ Decimal.fixed 3 (Span.seconds s.elapsed)
    ++ "sec with " ++ toString s.workers.length ++ " workers (mean rate "
    ++ Decimal.fixed 2 rate ++ " " ++ what ++ "/sec)"

def backoffLine (r : WorkerReport) : String :=
  "  worker " ++ toString r.worker ++ ": " ++ Decimal.fixed 3 (Span.seconds r.backoff) ++ "sec"

/-- The time held back, in total and for each worker that did; nothing if none did. -/
def backoffLines (s : LoadSummary) : List String :=
  if s.backoff = 0 then []
  else
    ("total backoff: " ++ Decimal.fixed 3 (Span.seconds s.backoff) ++ "sec")
      :: (s.workers.filter fun r => r.backoff ≠ 0).map backoffLine

def lines (s : LoadSummary) : List String :=
  [ s.loadedLine s.points "points" s.pointRate
  , s.loadedLine s.rows "rows" s.rowRate
  , "batches: " ++ toString s.batches
  , "batch latency (ms): " ++ (StatsSummary.ofStats s.latency).text ] ++ s.backoffLines

/-- Each line is ended. -/
def text (s : LoadSummary) : String := String.join (s.lines.map fun line => line ++ "\n")

end LoadSummary
end BulkLoad
