import BulkLoad.Cli.Info
import BulkLoad.Influx.Load
import BulkLoad.Source.Open
import BulkLoad.Text.Quoted
import BulkLoad.Write.Stored

/-!
The command that loads points, by a configuration that the command line may override.
-/
namespace BulkLoad.Cli.LoadCommand

def target : String := "tsbs_load::commands::load"

def say (message : String) (fields : List (String × Datum) := []) : Event :=
  Journal.say .info target message fields

/-- The configuration with what the command line says, which goes first. -/
def override (o : LoadOptions) (c : Config) : Config where
  workers := o.workers.getD c.workers
  channelCapacity := c.channelCapacity
  batchSize := o.batchSize.getD c.batchSize
  limit := o.limit.or c.limit
  batchDelayMs := c.batchDelayMs
  hashWorkers := o.hashWorkers || c.hashWorkers
  doLoad := !o.dryRun && c.doLoad
  reportingPeriodMs := c.reportingPeriodMs
  retry := c.retry
  influx := { c.influx with urls := o.urls.getD c.influx.urls }
  source := ⟨o.file.or c.source.path⟩

def toldOverrides (o : LoadOptions) : Journal :=
  (o.workers.map fun n => say "Overriding worker count from CLI" [("workers", .nat n)]).toList
    ++ (o.batchSize.map fun n =>
      say "Overriding batch size from CLI" [("batch_size", .nat n)]).toList
    ++ (o.urls.map fun urls =>
      say "Overriding database URLs from CLI" [("urls", .text (Text.quotedList urls))]).toList

def toldConfig (c : Config) : Journal :=
  say "Configuration loaded"
      [ ("workers", .nat c.workers), ("batch_size", .nat c.batchSize)
      , ("channel_capacity", .nat c.channelCapacity), ("hash_workers", .bool c.hashWorkers)
      , ("do_load", .bool c.doLoad), ("urls", .text (Text.quotedList c.influx.urls))
      , ("database", .text c.influx.database) ]
    :: if c.doLoad then [] else [say "Dry run - batches are counted but not written"]

def haltCauses : LoadHalt → List String
  | .failed e => "Load failed" :: e.chain
  | .endless => ["Load failed", "the server stays overloaded"]

/-- The load itself, by a configuration that is ready, over a network in which nobody listens. -/
def runConfig (s : Surroundings) (c : Config) : Outcome :=
  match Http.checkUrls c.influx with
  | .error f => { failure := some ("Failed to set up InfluxDB target" :: f.chain) }
  | .ok () =>
    let (source, opening) := Source.choose s.files s.input c.source.path
    let world := Http.silentWorld c.influx
    let parts := InfluxLoad.parts .stored c (source.map Source.Lines.toStream) fun _ => world
    match InfluxLoad.launch c 0 parts with
    | none =>
      { crashed := true, told := if (InfluxLoad.bufferCount? c).isSome then opening else [] }
    | some o =>
      match o.result with
      | .error halt => { failure := some (haltCauses halt), told := opening ++ o.told }
      | .ok summary => { output := summary.text, told := opening ++ o.told }

def run (s : Surroundings) (o : LoadOptions) : Outcome :=
  let told := [say "Loading configuration" [("config", .text o.config)]]
  match configFor s.files o.config with
  | .error causes => { failure := some causes, told }
  | .ok c =>
    let c := override o c
    let told := told ++ toldOverrides o
    match c.validate with
    | .error f =>
      { failure := some ("Invalid configuration after CLI overrides" :: f.chain), told }
    | .ok () =>
      let outcome := runConfig s c
      { outcome with told := told ++ toldConfig c ++ outcome.told }

end BulkLoad.Cli.LoadCommand
