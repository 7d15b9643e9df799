import BulkLoad.Cli.EnvFile
import BulkLoad.Cli.Load
import BulkLoad.Cli.Logging
import BulkLoad.Cli.Validate

/-!
The program as a whole: variables from a file, the command line, logging, and the command.
-/
namespace BulkLoad.Cli

namespace Command

def run (s : Surroundings) : Command → Outcome
  | .load o => LoadCommand.run s o
  | .validate o => Validate.run s o
  | .info o => Info.run s o

/-- The path of the configuration. -/
def config : Command → String
  | .load o => o.config
  | .validate o => o.config
  | .info o => o.config

/-- The source of the points: a file, or standard input; unknown without a configuration. -/
def source? (fs : Files) (c : Command) : Option (Option String) :=
  match configFor fs c.config with
  | .error _ => none
  | .ok config =>
    match c with
    | .load o => some (LoadCommand.override o config).source.path
    | _ => some config.source.path

/-- Whether the points come from standard input. -/
def readsInput (fs : Files) (c : Command) : Bool :=
  match c with
  | .load _ => c.source? fs == some none
  | _ => false

end Command

/-- How a run of the program ends: its exit code, what it prints, and the log records that the
filter keeps, in their format. -/
structure Ending where
  exitCode : Nat
  output : String := ""
  format : LogFormat
  log : List Record := []

namespace Program

def target : String := "tsbs_load"

def version : String := "0.1.0"

def envFile : String := ".env"

/-- The environment with the variables of the file, if there is one. -/
def environment (fs : Files) (env : Environment) : Environment :=
  match fs.open? envFile with
  | .ok (.bytes content) => EnvFile.load env content
  | _ => env

def toldStarting : Event :=
  Journal.say .info target "tsbs-load starting" [("version", .text version)]

def toldFailed (o : Outcome) : Journal :=
  (o.failureText?.map fun text =>
    Journal.say .error target "Command failed" [("error", .text text)]).toList

/-- Runs what the command line asks for. -/
def invoke (s : Surroundings) (env : Environment) (i : Invocation) : Ending :=
  match Logging.start (Logging.ofInvocation i) env false with
  | .error _ => { exitCode := 2, format := i.logFormat }
  | .ok (filter, started) =>
    let o := i.command.run s
    let told := started ++ [toldStarting] ++ o.told ++ toldFailed o
    { exitCode := o.exitCode
      output := o.output
      format := i.logFormat
      log := (Journal.records told).filter filter.keeps }

/-- Runs the program, unless the command line is refused. -/
def run (s : Surroundings) (env : Environment) (args : List String) : Except Refusal Ending := do
  let env := environment s.files env
  return invoke s env (← Invocation.parse env args)

/-- The files that a run looks at, as far as they follow from those that are known. -/
def paths (fs : Files) (env : Environment) (args : List String) : List String :=
  envFile ::
    match Invocation.parse (environment fs env) args with
    | .error _ => []
    | .ok i => i.command.config :: (i.command.source? fs).join.toList

def readsInput (fs : Files) (env : Environment) (args : List String) : Bool :=
  match Invocation.parse (environment fs env) args with
  | .error _ => false
  | .ok i => i.command.readsInput fs

/-- The variables that the program itself knows. -/
def variableNames : List String :=
  Logging.filterName ::
    (Invocation.globalSwitches ++ Invocation.loadSwitches).filterMap Switch.envName

end Program
end BulkLoad.Cli
