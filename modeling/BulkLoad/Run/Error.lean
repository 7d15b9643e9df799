import BulkLoad.Dispatch.Basic

/-!
How a load fails.
-/
namespace BulkLoad

inductive LoadError where
  | config (message : String)
  | source (f : Fault)
  | dispatch (e : DispatchError)
  | worker (ordinal : Nat) (f : Fault)
  | task (name message : String)
  deriving DecidableEq, Repr

namespace LoadError

def message : LoadError → String
  | .config m => "invalid load configuration: " ++ m
  | .source f => "cannot open point source: " ++ f.message
  | .dispatch e => "dispatch failed: " ++ e.message
  | .worker ordinal f => "worker " ++ toString ordinal ++ " failed: " ++ f.message
  | .task name m => name ++ " task failed: " ++ m

/-- What is told of a task that broke down. -/
def brokeDown : String := "task panicked"

/-- The wordings from the failure down to its first cause. -/
def chain (e : LoadError) : List String :=
  e.message ::
    match e with
    | .source f => f.chain
    | .dispatch d => d.chain
    | .worker _ f => f.chain
    | _ => []

end LoadError
end BulkLoad
