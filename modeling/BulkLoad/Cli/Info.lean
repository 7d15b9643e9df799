import BulkLoad.Cli.Invocation
import BulkLoad.Cli.Outcome
import BulkLoad.Config.Load

/-!
The command that shows a configuration.
-/
namespace BulkLoad.Cli

/-- A configuration from a file for a command; the wordings of the failure if there is none. -/
def configFor (fs : Files) (path : String) : Except (List String) Config :=
  if fs.exists? path then
    match Config.load fs path with
    | .ok c => .ok c
    | .error f => .error (("Failed to load config from " ++ path) :: f.chain)
  else .error ["Configuration file not found: " ++ path]

namespace Info

def routing (c : Config) : String := if c.hashWorkers then "series hash" else "round robin"

/-- How requests say who sends them. -/
def auth (c : InfluxConfig) : String :=
  if c.bearer ≠ "" then "bearer" else if c.token ≠ "" then "token" else "none"

def loadJson (c : Config) : Json :=
  Json.record <|
    [ ("workers", Json.nat c.workers), ("channels", Json.nat c.channelCount)
    , ("channel_capacity", Json.nat c.channelCapacity), ("batch_size", Json.nat c.batchSize) ]
    ++ c.limit.toList.map (fun limit => ("limit", Json.nat limit))
    ++ [ ("batch_delay_ms", Json.nat c.batchDelayMs), ("routing", Json.str (routing c))
       , ("do_load", Json.bool c.doLoad)
       , ("reporting_period_ms", Json.nat c.reportingPeriodMs) ]

def retryJson (c : RetryConfig) : Json :=
  Json.record
    [ ("max_retries", Json.nat c.maxRetries), ("base_delay_ms", Json.nat c.baseDelayMs)
    , ("multiplier", Json.float c.multiplier), ("max_delay_ms", Json.nat c.maxDelayMs)
    , ("backoff_ms", Json.nat c.backoffMs) ]

def influxJson (c : InfluxConfig) : Json :=
  Json.record
    [ ("urls", Json.array (c.urls.map Json.str)), ("database", Json.str c.database)
    , ("consistency", Json.str c.consistency.name), ("gzip", Json.bool c.gzip)
    , ("no_sync", Json.bool c.noSync), ("auth", Json.str (auth c)) ]

def toJson (c : Config) : Json :=
  Json.record
    [ ("load", loadJson c), ("retry", retryJson c.retry), ("influx", influxJson c.influx)
    , ("source", Json.str (sourceLabel c)) ]

/-- A line in the tree below a heading. -/
def branch (name value : String) : String := "   ├─ " ++ name ++ ": " ++ value

/-- The last line of the tree below a heading. -/
def lastBranch (name value : String) : String := "   └─ " ++ name ++ ": " ++ value

def rule : String := String.ofList (List.replicate 62 '═')

def heading : List String :=
  [ "╔" ++ rule ++ "╗"
  , "║                  tsbs-load Configuration                     ║"
  , "╚" ++ rule ++ "╝"
  , "" ]

def loadLines (c : Config) : List String :=
  [ "📦 Load"
  , branch "Workers" (toString c.workers)
  , branch "Channels"
      (toString c.channelCount ++ " (capacity " ++ toString c.channelCapacity ++ ")")
  , branch "Batch size" (toString c.batchSize)
  , branch "Limit" ((c.limit.map fun limit => toString limit ++ " points").getD "none")
  , branch "Routing" (routing c)
  , branch "Batch delay" (toString c.batchDelayMs ++ " ms")
  , lastBranch "Write" (if c.doLoad then "yes" else "dry run") ]

def retryLines (c : RetryConfig) : List String :=
  [ ""
  , "🔁 Retry"
  , branch "Max attempts" (toString c.maxRetries)
  , branch "Delay"
      (toString c.baseDelayMs ++ " ms x" ++ Decimal.plain c.multiplier ++ " up to "
        ++ toString c.maxDelayMs ++ " ms")
  , lastBranch "Overload backoff" (toString c.backoffMs ++ " ms") ]

/-- The first url has a name in front, the others a blank of the same width. -/
def urlLines : List String → List String
  | [] => []
  | url :: urls => ("   ├─ URLs: " ++ url) :: urls.map ("   ├─       " ++ ·)

def influxLines (c : InfluxConfig) : List String :=
  ["", "🗄  InfluxDB"] ++ urlLines c.urls ++
    [ branch "Database" c.database
    , branch "Consistency" c.consistency.name
    , branch "Gzip" (toString c.gzip)
    , lastBranch "Auth" (auth c) ]

def lines (c : Config) : List String :=
  heading ++ loadLines c ++ retryLines c.retry ++ influxLines c.influx
    ++ ["", "📥 Source: " ++ sourceLabel c, ""]

def target : String := "tsbs_load::commands::info"

def run (s : Surroundings) (o : ShowOptions) : Outcome :=
  let told := [Journal.say .info target "Loading configuration info" [("config", .text o.config)]]
  match configFor s.files o.config with
  | .error causes => { failure := some causes, told }
  | .ok c => { output := if o.json then page [(toJson c).toPage] else page (lines c), told }

end Info
end BulkLoad.Cli
