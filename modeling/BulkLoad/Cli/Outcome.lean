import BulkLoad.Config.Basic
import BulkLoad.Files
import BulkLoad.Journal

/-!
What a command can see, and how it ends.
-/
namespace BulkLoad.Cli

/-- The files and the standard input. -/
structure Surroundings where
  files : Files := {}
  input : Bytes := []

/-- How a command ends: the wordings of its failure down to the first cause, whether it broke down
instead, what it prints, and what it tells. -/
structure Outcome where
  failure : Option (List String) := none
  crashed : Bool := false
  output : String := ""
  told : Journal := []

namespace Outcome

def exitCode (o : Outcome) : Nat :=
  if o.crashed then 101 else if o.failure.isSome then 1 else 0

/-- A failure in one line. -/
def failureText? (o : Outcome) : Option String := o.failure.map (": ".intercalate ·)

end Outcome

/-- Lines that are each ended. -/
def page (lines : List String) : String := String.join (lines.map (· ++ "\n"))

/-- Where the points of a configuration come from. -/
def sourceLabel (c : Config) : String := c.source.path.getD "<stdin>"

end BulkLoad.Cli
