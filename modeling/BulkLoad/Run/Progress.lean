import BulkLoad.Run.Summary

/-!
Telling at regular times how far a load has come.
-/
namespace BulkLoad.Progress

def target : String := "loader::progress"

/-- The number of reports in a run: one at the end of every full period. A period of zero breaks the
reporter down before its first report. -/
def reports (period run : Nat) : Nat := if period = 0 then 0 else run / period

/-- What one report tells, from the totals at the last report and now. -/
def report (started last now : Nat) (previous current : Totals) : Journal :=
  let window := now - last
  let pointRate := perSecond (current.points.toNat - previous.points.toNat) window
  let rowRate := perSecond (current.rows.toNat - previous.rows.toNat) window
  Journal.say .info target "Load progress"
      [ ("elapsed_secs", .text (Decimal.fixed 1 (Span.seconds (now - started))))
      , ("points", .nat current.points.toNat), ("rows", .nat current.rows.toNat)
      , ("batches", .nat current.batches.toNat)
      , ("points_per_sec", .text (Decimal.fixed 2 pointRate))
      , ("rows_per_sec", .text (Decimal.fixed 2 rowRate)) ]
    :: Metrics.rates pointRate rowRate

/-- What is told when the reporter is stopped. -/
def toldStopped (period : Nat) : Journal :=
  if period = 0 then
    [ Journal.say .warn target "Progress reporter task failed"
        [("error", .text LoadError.brokeDown)] ]
  else []

end BulkLoad.Progress
