import BulkLoad.Cli.Grammar

/-!
The command line of the program: which command is to run, and how.

The switches for logging may stand before the command and behind it. Behind it they count more,
unless only the environment gives them there.
-/
namespace BulkLoad.Cli

inductive LogFormat where
  | json
  | pretty
  | compact
  deriving DecidableEq, Repr

namespace LogFormat

def name : LogFormat → String
  | .json => "json"
  | .pretty => "pretty"
  | .compact => "compact"

def title : LogFormat → String
  | .json => "Json"
  | .pretty => "Pretty"
  | .compact => "Compact"

def every : List LogFormat := [.json, .pretty, .compact]

def ofName? (s : String) : Option LogFormat := every.find? fun f => f.name == s

@[simp] theorem ofName?_name (f : LogFormat) : ofName? f.name = some f := by cases f <;> decide

end LogFormat

/-- How a load is to run; what is given here goes before the configuration. -/
structure LoadOptions where
  config : String
  workers : Option Nat := none
  batchSize : Option Nat := none
  limit : Option Nat := none
  hashWorkers : Bool := false
  dryRun : Bool := false
  urls : Option (List String) := none
  file : Option String := none
  metricsPort : Option Nat := none
  deriving DecidableEq, Repr

/-- Which configuration is to be shown, and whether as JSON. -/
structure ShowOptions where
  config : String
  json : Bool := false
  deriving DecidableEq, Repr

inductive Command where
  | load (o : LoadOptions)
  | validate (o : ShowOptions)
  | info (o : ShowOptions)
  deriving DecidableEq, Repr

structure Invocation where
  verbose : Nat := 0
  quiet : Bool := false
  logFormat : LogFormat := .pretty
  command : Command
  deriving DecidableEq, Repr

namespace Invocation

def maxWord : Nat := Nat.pow 2 64 - 1

def maxPort : Nat := Nat.pow 2 16 - 1

def globalSwitches : List Switch :=
  [ ⟨"verbose", .count, some 'v', some "TSBS_LOAD_VERBOSE"⟩
  , ⟨"quiet", .flag, some 'q', none⟩
  , ⟨"log-format", .choice (LogFormat.every.map LogFormat.name), none, some "TSBS_LOAD_LOG_FORMAT"⟩
  , ⟨"help", .help, some 'h', none⟩ ]

def globalConflicts : List (String × String) := [("quiet", "verbose")]

def versionSwitch : Switch := ⟨"version", .version, some 'V', none⟩

def loadSwitches : List Switch :=
  [ ⟨"config", .path, some 'c', some "TSBS_LOAD_CONFIG"⟩
  , ⟨"workers", .natural maxWord false, none, some "TSBS_LOAD_WORKERS"⟩
  , ⟨"batch-size", .natural maxWord false, none, some "TSBS_LOAD_BATCH_SIZE"⟩
  , ⟨"limit", .natural maxWord false, none, none⟩
  , ⟨"hash-workers", .flag, none, none⟩
  , ⟨"dry-run", .flag, none, none⟩
  , ⟨"urls", .texts, none, some "TSBS_LOAD_URLS"⟩
  , ⟨"file", .path, none, none⟩
  , ⟨"metrics-port", .natural maxPort true, none, some "TSBS_LOAD_METRICS_PORT"⟩ ]

def showSwitches : List Switch :=
  [⟨"config", .path, some 'c', none⟩, ⟨"json", .flag, none, none⟩]

def helpCommand : String := "help"

def commands : List String := ["load", "validate", "info", helpCommand]

/-- What may stand before the command. -/
def outerGrammar : Grammar := ⟨globalSwitches ++ [versionSwitch], commands, globalConflicts⟩

/-- What may stand behind a command. -/
def innerGrammar (command : String) : Grammar :=
  let own := if command = "load" then loadSwitches else showSwitches
  { switches := own ++ globalSwitches, conflicts := globalConflicts }

/-- Help on a command, if there is such a command. -/
def helpOn : List String → Refusal
  | [] => .help
  | word :: words =>
    if commands.contains word then (words.head?.map .unknownCommand).getD .help
    else .unknownCommand word

/-- What counts of a switch that may be given before the command and behind it. -/
def prevailing : Option Given → Option Given → Option Given
  | some outer, some inner =>
    if outer.origin = .commandLine ∧ inner.origin = .environment then some outer else some inner
  | outer, none => outer
  | none, inner => inner

def text? (m : Matches) (name : String) : Option String :=
  match m.get? name with
  | some ⟨_, .text s⟩ => some s
  | _ => none

def natural? (m : Matches) (name : String) : Option Nat :=
  match m.get? name with
  | some ⟨_, .natural n⟩ => some n
  | _ => none

def texts? (m : Matches) (name : String) : Option (List String) :=
  match m.get? name with
  | some ⟨_, .texts all⟩ => some all
  | _ => none

def defaultConfig : String := "load.toml"

def loadOptions (m : Matches) : LoadOptions where
  config := (text? m "config").getD defaultConfig
  workers := natural? m "workers"
  batchSize := natural? m "batch-size"
  limit := natural? m "limit"
  hashWorkers := m.has "hash-workers"
  dryRun := m.has "dry-run"
  urls := texts? m "urls"
  file := text? m "file"
  metricsPort := natural? m "metrics-port"

def showOptions (m : Matches) : ShowOptions :=
  ⟨(text? m "config").getD defaultConfig, m.has "json"⟩

def commandOf (name : String) (m : Matches) : Command :=
  if name = "load" then .load (loadOptions m)
  else if name = "validate" then .validate (showOptions m)
  else .info (showOptions m)

/-- The switches for logging, of those given before the command and behind it. -/
def globals (outer inner : Matches) : Matches where
  given := globalSwitches.filterMap fun s =>
    (prevailing (outer.get? s.name) (inner.get? s.name)).map fun g => (s.name, g)

def ofMatches (outer inner : Matches) (name : String) : Invocation :=
  let m := globals outer inner
  { verbose := m.counted "verbose"
    quiet := m.has "quiet"
    logFormat := ((text? m "log-format").bind LogFormat.ofName?).getD .pretty
    command := commandOf name inner }

/-- Takes all that is given behind a command. -/
def readInner (env : Environment) (name : String) (args : List String) :
    Except Refusal Matches := do
  let g := innerGrammar name
  let (m, _) ← g.walk {} args
  let m ← g.finish env m
  g.check m
  return m

/-- A command line. What stands behind the command is read to its end before what stands before it
is settled. -/
def parse (env : Environment) (args : List String) : Except Refusal Invocation := do
  let (outer, rest) ← outerGrammar.walk {} args
  match rest with
  | none =>
    let outer ← outerGrammar.finish env outer
    .error (if outer.given.isEmpty then .nothingGiven else .missingCommand)
  | some (name, args) =>
    if name = helpCommand then .error (helpOn args)
    else
      let inner ← readInner env name args
      let outer ← outerGrammar.finish env outer
      outerGrammar.check outer
      return ofMatches outer inner name

end Invocation
end BulkLoad.Cli
