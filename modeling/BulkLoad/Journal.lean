import BulkLoad.Sum

/-!
What a run tells the outside: log records and metrics, in the order in which they arise.
-/
namespace BulkLoad

inductive Level where
  | error
  | warn
  | info
  | debug
  | trace
  deriving DecidableEq, Repr

namespace Level

def name : Level → String
  | .error => "ERROR"
  | .warn => "WARN"
  | .info => "INFO"
  | .debug => "DEBUG"
  | .trace => "TRACE"

/-- The lower the more urgent. -/
def rank : Level → Nat
  | .error => 1
  | .warn => 2
  | .info => 3
  | .debug => 4
  | .trace => 5

end Level

/-- What a field of a log record holds. -/
inductive Datum where
  | nat (value : Nat)
  | bool (value : Bool)
  | float (value : Float)
  | text (value : String)

/-- A log record; `target` is the part of the program that speaks. -/
structure Record where
  level : Level
  target : String
  message : String
  fields : List (String × Datum) := []

inductive Event where
  | record (r : Record)
  | count (name : String) (amount : Nat)
  | gauge (name : String) (value : Float)
  | sample (name : String) (value : Float)

/-- What an event adds to a counter of that name. -/
def Event.amount (name : String) : Event → Nat
  | .count other amount => if other = name then amount else 0
  | _ => 0

abbrev Journal := List Event

namespace Journal

def say (level : Level) (target message : String) (fields : List (String × Datum) := []) : Event :=
  .record ⟨level, target, message, fields⟩

def records (j : Journal) : List Record :=
  j.filterMap fun e =>
    match e with
    | .record r => some r
    | _ => none

/-- What a counter of that name has grown by. -/
def counted (name : String) (j : Journal) : Nat :=
  sumOf (Event.amount name) j

@[simp] theorem counted_nil (name : String) : counted name [] = 0 := rfl

@[simp] theorem counted_append (name : String) (a b : Journal) :
    counted name (a ++ b) = counted name a + counted name b := by
  simp [counted]

end Journal
end BulkLoad
