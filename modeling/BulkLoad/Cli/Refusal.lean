/-!
Why a command line runs no command.
-/
namespace BulkLoad.Cli

/-- A mistake in a command line, or a question about the program itself. -/
inductive Refusal where
  | help
  | version
  | nothingGiven
  | missingCommand
  | unknownCommand (word : String)
  | unexpected (word : String)
  | missingValue (switch : String)
  | surplusValue (switch : String)
  | notAllowed (switch value : String)
  | unreadable (switch value : String)
  | repeated (switch : String)
  | conflict (switch other : String)
  deriving DecidableEq, Repr

namespace Refusal

def message : Refusal → String
  | .help => "a load harness with the commands load, validate, info and help"
  | .version => "tsbs-load 0.1.0"
  | .nothingGiven => "a command is missing: load, validate or info"
  | .missingCommand => "a command is missing after the switches: load, validate or info"
  | .unknownCommand word => "there is no command of this name: " ++ word
  | .unexpected word => "unexpected argument: " ++ word
  | .missingValue switch => "a value is missing for --" ++ switch
  | .surplusValue switch => "no value can be given to --" ++ switch
  | .notAllowed switch value => "value not allowed for --" ++ switch ++ ": " ++ value
  | .unreadable switch value => "value out of range for --" ++ switch ++ ": " ++ value
  | .repeated switch => "given twice: --" ++ switch
  | .conflict switch other => "cannot be used together: --" ++ switch ++ " and --" ++ other

/-- Help and version are answers; all else is a mistake. -/
def exitCode : Refusal → Nat
  | .help => 0
  | .version => 0
  | _ => 2

end Refusal
end BulkLoad.Cli
