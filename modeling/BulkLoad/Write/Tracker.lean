import BulkLoad.Decimal.Fixed
import BulkLoad.Journal
import BulkLoad.Span

/-!
How long a worker has held back because of an overloaded server.

An episode begins with the first signal that the server is overloaded and ends with the first that
it is not; signals that repeat the state change nothing. An episode that has ended is told when the
worker next pauses.
-/
namespace BulkLoad

/-- What a tracker is told, and when. -/
structure Signal where
  time : Nat
  overloaded : Bool
  deriving DecidableEq, Repr

structure Tracker where
  worker : Nat
  started : Option Nat := none
  total : Nat := 0
  episodes : List Nat := []
  untold : Journal := []

namespace Tracker

def target : String := "backoff::tracker"

def histogram : String := "tsbs_load_backoff_seconds"

def finished (worker took : Nat) : Journal :=
  [ .sample histogram (Span.seconds took)
  , Journal.say .debug target "Backoff finished"
      [("worker", .nat worker), ("took_secs", .float (Span.seconds took))] ]

/-- A signal at a time of the clock. -/
def signal (t : Tracker) (now : Nat) (overloaded : Bool) : Tracker :=
  match overloaded, t.started with
  | true, none => { t with started := some now }
  | false, some start =>
    let took := now - start
    { t with
      started := none
      total := t.total + took
      episodes := t.episodes ++ [took]
      untold := t.untold ++ finished t.worker took }
  | _, _ => t

/-- A pause, in which the episodes that have ended are told. -/
def pause (t : Tracker) : Tracker × Journal := ({ t with untold := [] }, t.untold)

def totalMessage (total : Nat) : String :=
  "Backoffs took a total of " ++ Decimal.fixed 3 (Span.seconds total) ++ "s of runtime"

/-- The end of the worker's writing: the time it held back, and what is left to tell. -/
def close (t : Tracker) : Nat × Journal :=
  (t.total,
    t.untold ++
      [Journal.say .info target (totalMessage t.total)
        [("worker", .nat t.worker), ("total_secs", .float (Span.seconds t.total))]])

end Tracker
end BulkLoad
