/-!
Environment variables.
-/
namespace BulkLoad

/-- Variables by their names; the first entry of a name counts. -/
structure Environment where
  entries : List (String × String) := []

namespace Environment

def get? (env : Environment) (name : String) : Option String := env.entries.lookup name

def erase (env : Environment) (name : String) : Environment :=
  ⟨env.entries.filter fun e => e.1 ≠ name⟩

def set (env : Environment) (name value : String) : Environment := ⟨(name, value) :: env.entries⟩

/-- Sets a variable that is not there yet. -/
def setNew (env : Environment) (name value : String) : Environment :=
  match env.get? name with
  | some _ => env
  | none => env.set name value

end Environment
end BulkLoad
