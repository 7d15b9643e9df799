import BulkLoad.Text.Utf8

/-!
What goes wrong at one of the program's edges: in the text of a configuration, at the source of
points, at the server.
-/
namespace BulkLoad

/-- A failure with its own wording, and the failures below it that explain it. -/
inductive Fault where
  | configText (message : String)
  | configRule (field message : String)
  | source (message : String) (below : Option String)
  | badPoint (message : String)
  | write (worker : Nat) (message : String)
  | notInitialized (worker : Nat)
  | io (message : String)
  | other (message : String)
  deriving DecidableEq, Repr

namespace Fault

def message : Fault → String
  | .configText m => "config parse error: " ++ m
  | .configRule field m => "config validation error at '" ++ field ++ "': " ++ m
  | .source m _ => "point source error: " ++ m
  | .badPoint m => "malformed point: " ++ m
  | .write worker m => "worker " ++ toString worker ++ " write error: " ++ m
  | .notInitialized worker => "processor for worker " ++ toString worker ++ " is not initialized"
  | .io m => "io error: " ++ m
  | .other m => m

/-- The wordings from the failure down to its first cause. -/
def chain (f : Fault) : List String :=
  f.message ::
    match f with
    | .source _ (some below) => [below]
    | .io m => [m]
    | _ => []

end Fault
end BulkLoad
