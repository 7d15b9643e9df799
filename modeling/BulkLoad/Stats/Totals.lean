import BulkLoad.Batch.Basic
import BulkLoad.Journal

/-!
What a load has written so far, and how it is told.
-/
namespace BulkLoad

/-- Running totals, in words of sixty-four bits that wrap. -/
structure Totals where
  points : UInt64 := 0
  rows : UInt64 := 0
  batches : UInt64 := 0
  deriving DecidableEq, Repr

namespace Totals

/-- Adds one batch. -/
def add (t : Totals) (c : BatchCounts) : Totals :=
  ⟨t.points + c.points.toUInt64, t.rows + c.rows.toUInt64, t.batches + 1⟩

end Totals

namespace Metrics

def batches : String := "tsbs_load_batches_total"

def points : String := "tsbs_load_points_total"

def rows : String := "tsbs_load_rows_total"

def batchDuration : String := "tsbs_load_batch_duration_ms"

def pointRate : String := "tsbs_load_points_per_second"

def rowRate : String := "tsbs_load_rows_per_second"

/-- A gauge of its own for each worker. -/
def workerBackoff (worker : Nat) : String :=
  "tsbs_load_worker_backoff_seconds\x7bworker=" ++ toString worker ++ "\x7d"

/-- A batch that was written in so many milliseconds. -/
def batchProcessed (c : BatchCounts) (millis : Float) : Journal :=
  [.count batches 1, .count points c.points, .count rows c.rows, .sample batchDuration millis]

def workerBackedOff (worker : Nat) (seconds : Float) : Journal :=
  [.gauge (workerBackoff worker) seconds]

def rates (pointsPerSecond rowsPerSecond : Float) : Journal :=
  [.gauge pointRate pointsPerSecond, .gauge rowRate rowsPerSecond]

end Metrics
end BulkLoad
