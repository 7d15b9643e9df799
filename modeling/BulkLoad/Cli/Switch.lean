import BulkLoad.Cli.Refusal
import BulkLoad.Decimal.Natural

/-!
The switches of a command line: what each takes, and which have been given.

A switch that takes a value is settled only when the next switch comes or the arguments end. Until
then it waits, with its value or for it.
-/
namespace BulkLoad.Cli

/-- What a switch takes. A natural has a bound, and if `minus` it may be written with a minus sign,
which only zero satisfies. -/
inductive Kind where
  | flag
  | count
  | path
  | choice (names : List String)
  | natural (bound : Nat) (minus : Bool)
  | texts
  | help
  | version

/-- What a switch gives. -/
inductive Value where
  | flag
  | natural (n : Nat)
  | text (s : String)
  | texts (all : List String)
  deriving DecidableEq, Repr

/-- A switch by its long name, with a letter for short, and with a variable of the environment that
stands in for it. -/
structure Switch where
  name : String
  kind : Kind
  letter : Option Char := none
  envName : Option String := none

def Switch.takesValue (s : Switch) : Bool :=
  match s.kind with
  | .path | .choice _ | .natural .. | .texts => true
  | _ => false

/-- A count stops here. -/
def maxCount : Nat := 255

/-- Where a value comes from. -/
inductive Origin where
  | environment
  | commandLine
  deriving DecidableEq, Repr

structure Given where
  origin : Origin
  value : Value
  deriving DecidableEq, Repr

/-- The switches given so far by their names, and the one that waits. -/
structure Matches where
  given : List (String × Given) := []
  waiting : Option (Switch × Option String) := none

namespace Matches

def get? (m : Matches) (name : String) : Option Given := m.given.lookup name

def has (m : Matches) (name : String) : Bool := (m.get? name).isSome

def put (m : Matches) (name : String) (origin : Origin) (value : Value) : Matches :=
  { m with given := (name, ⟨origin, value⟩) :: m.given }

/-- How often a switch has been counted. -/
def counted (m : Matches) (name : String) : Nat :=
  match m.get? name with
  | some ⟨_, .natural n⟩ => n
  | _ => 0

/-- The texts given so far. -/
def listed (m : Matches) (name : String) : List String :=
  match m.get? name with
  | some ⟨_, .texts all⟩ => all
  | _ => []

/-- Puts a switch that may be given only once. -/
def putOnce (m : Matches) (s : Switch) (origin : Origin) (value : Except Refusal Value) :
    Except Refusal Matches :=
  if m.has s.name then .error (.repeated s.name) else value.map (m.put s.name origin)

def naturalValue (s : Switch) (bound : Nat) (minus : Bool) (text : String) : Except Refusal Value :=
  match Decimal.natural? bound minus text with
  | some n => .ok (.natural n)
  | none => .error (.unreadable s.name text)

/-- Takes a switch with the text that it was given. -/
def takeText (m : Matches) (s : Switch) (origin : Origin) (text : String) :
    Except Refusal Matches :=
  match s.kind with
  | .path =>
    m.putOnce s origin (if text = "" then .error (.notAllowed s.name text) else .ok (.text text))
  | .choice names =>
    m.putOnce s origin
      (if names.contains text then .ok (.text text) else .error (.notAllowed s.name text))
  | .natural bound minus => m.putOnce s origin (naturalValue s bound minus text)
  | .texts => .ok (m.put s.name origin (.texts (m.listed s.name ++ text.splitOn ",")))
  | .count => (naturalValue s maxCount true text).map (m.put s.name origin)
  | _ => .error (.surplusValue s.name)

/-- Takes a switch that was given without a text. -/
def takeBare (m : Matches) (s : Switch) : Except Refusal Matches :=
  match s.kind with
  | .flag => m.putOnce s .commandLine (.ok .flag)
  | .count => .ok (m.put s.name .commandLine (.natural (min (m.counted s.name + 1) maxCount)))
  | .help => .error .help
  | .version => .error .version
  | _ => .error (.missingValue s.name)

def take (m : Matches) (s : Switch) : Option String → Except Refusal Matches
  | some text => m.takeText s .commandLine text
  | none => m.takeBare s

/-- Takes the switch that waits. -/
def settle (m : Matches) : Except Refusal Matches :=
  match m.waiting with
  | none => .ok m
  | some (s, text) => { m with waiting := none }.take s text

/-- A switch that is complete. -/
def complete (m : Matches) (s : Switch) (text : Option String) : Except Refusal Matches := do
  (← m.settle).take s text

/-- A switch whose value is the next argument. -/
def await (m : Matches) (s : Switch) : Except Refusal Matches := do
  return { ← m.settle with waiting := some (s, none) }

/-- Whether the next word is the value of a switch. -/
def isAwaiting (m : Matches) : Bool :=
  match m.waiting with
  | some (_, none) => true
  | _ => false

end Matches
end BulkLoad.Cli
