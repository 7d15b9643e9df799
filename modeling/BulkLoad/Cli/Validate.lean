import BulkLoad.Cli.Invocation
import BulkLoad.Cli.Outcome
import BulkLoad.Config.Load

/-!
The command that checks a configuration without loading anything.
-/
namespace BulkLoad.Cli

/-- A checked configuration: why it cannot be used, or what it is and what is odd about it. -/
structure Validation where
  path : String
  result : Except String (Config × List String)

namespace Validation

def warnIf (odd : Bool) (message : String) : List String := if odd then [message] else []

/-- What may be used but is probably not meant. -/
def warnings (fs : Files) (c : Config) : List String :=
  let urls := c.influx.urls.length
  let source := c.source.path.getD ""
  warnIf (!c.doLoad) "do_load = false - batches will be counted but not written"
    ++ warnIf (c.hashWorkers && c.workers = 1) "hash_workers has no effect with a single worker"
    ++ warnIf (c.workers < urls)
      (toString urls ++ " urls configured but only " ++ toString c.workers
        ++ " workers - some urls receive no writes")
    ++ warnIf (c.influx.token ≠ "" && c.influx.bearer ≠ "")
      "both token and bearer are set - bearer is used"
    ++ warnIf (c.source.path.isSome && !fs.exists? source)
      ("source file does not exist yet: " ++ source)

def ofFile (fs : Files) (path : String) : Validation where
  path := path
  result :=
    if fs.exists? path then
      match Config.load fs path with
      | .ok c => .ok (c, warnings fs c)
      | .error f => .error f.message
    else .error ("File not found: " ++ path)

def isValid (v : Validation) : Bool :=
  match v.result with
  | .ok _ => true
  | .error _ => false

def summaryJson (c : Config) : Json :=
  Json.record
    [ ("workers", Json.nat c.workers), ("channels", Json.nat c.channelCount)
    , ("batch_size", Json.nat c.batchSize), ("url_count", Json.nat c.influx.urls.length)
    , ("database", Json.str c.influx.database), ("source", Json.str (sourceLabel c)) ]

def toJson (v : Validation) : Json :=
  let head := [("valid", Json.bool v.isValid), ("config_path", Json.str v.path)]
  Json.record <| head ++
    match v.result with
    | .error m => [("error", Json.str m)]
    | .ok (c, odd) =>
      (if odd.isEmpty then [] else [("warnings", Json.array (odd.map Json.str))])
        ++ [("summary", summaryJson c)]

def summaryLines (c : Config) : List String :=
  [ "", "  Workers: " ++ toString c.workers, "  Channels: " ++ toString c.channelCount
  , "  Batch size: " ++ toString c.batchSize, "  URLs: " ++ toString c.influx.urls.length
  , "  Database: " ++ c.influx.database, "  Source: " ++ sourceLabel c ]

def warningLines (odd : List String) : List String :=
  if odd.isEmpty then [] else ["", "⚠ Warnings:"] ++ odd.map ("  - " ++ ·)

def lines (v : Validation) : List String :=
  match v.result with
  | .ok (c, odd) =>
    ("✓ Configuration is valid: " ++ v.path) :: summaryLines c ++ warningLines odd
  | .error m => ["✗ Configuration is invalid: " ++ v.path, "", "  Error: " ++ m]

end Validation

namespace Validate

def target : String := "tsbs_load::commands::validate"

def run (s : Surroundings) (o : ShowOptions) : Outcome :=
  let v := Validation.ofFile s.files o.config
  { failure := if v.isValid then none else some ["Configuration validation failed"]
    output := if o.json then page [v.toJson.toPage] else page v.lines
    told := [Journal.say .info target "Validating configuration" [("config", .text o.config)]] }

end Validate
end BulkLoad.Cli
