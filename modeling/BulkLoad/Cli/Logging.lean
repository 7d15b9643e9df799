import BulkLoad.Cli.Invocation
import BulkLoad.Logging.Filter

/-!
Logging of a run: what the command line and the environment ask for, and what its start tells.
-/
namespace BulkLoad

/-- How logging is set up. A forced level lets no variable change it. -/
structure LogSettings where
  format : Cli.LogFormat := .json
  metricsPort : Option Nat := none
  level : Level := .info
  forced : Bool := false

inductive LoggingError where
  | running
  deriving DecidableEq, Repr

def LoggingError.message : LoggingError → String
  | .running => "Failed to initialize tracing subscriber"

namespace Logging

def filterName : String := "RUST_LOG"

/-- The filter of the environment, if it can be read, unless the level is forced. -/
def filter (s : LogSettings) (env : Environment) : LogFilter :=
  if s.forced then .upTo s.level
  else ((env.get? filterName).bind LogFilter.ofText?).getD (.upTo s.level)

def target : String := "observability"

def portText : Option Nat → String
  | none => "None"
  | some port => "Some(" ++ toString port ++ ")"

def toldPort (port : Nat) : Event :=
  Journal.say .info target "Prometheus metrics endpoint initialized" [("port", .nat port)]

def toldStarted (s : LogSettings) : Journal :=
  s.metricsPort.toList.map toldPort ++
    [Journal.say .debug target "Observability initialized"
      [("log_format", .text s.format.title), ("metrics_port", .text (portText s.metricsPort))]]

/-- Starts logging, which only one part of a process can do. -/
def start (s : LogSettings) (env : Environment) (running : Bool) :
    Except LoggingError (LogFilter × Journal) :=
  if running then .error .running else .ok (filter s env, toldStarted s)

/-- The settings that a command line asks for. -/
def ofInvocation (i : Cli.Invocation) : LogSettings where
  format := i.logFormat
  metricsPort :=
    match i.command with
    | .load o => o.metricsPort
    | _ => none
  level :=
    if i.quiet then .warn
    else
      match i.verbose with
      | 0 => .info
      | 1 => .debug
      | _ => .trace
  forced := i.quiet

end Logging
end BulkLoad
