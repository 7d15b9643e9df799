import BulkLoad.Span

/-!
The settings of a load.

Counts and times are naturals; a time of zero milliseconds stands for none where a time may be
missing.
-/
namespace BulkLoad

/-- How many servers must hold a write before it counts. -/
inductive Consistency where
  | any
  | one
  | quorum
  | all
  deriving DecidableEq, Repr

namespace Consistency

def name : Consistency → String
  | .any => "any"
  | .one => "one"
  | .quorum => "quorum"
  | .all => "all"

def every : List Consistency := [.any, .one, .quorum, .all]

def ofName? (s : String) : Option Consistency := every.find? fun c => c.name == s

@[simp] theorem ofName?_name (c : Consistency) : ofName? c.name = some c := by cases c <;> decide

end Consistency

/-- How a refused write is tried again, and how long an overloaded server is left alone. -/
structure RetryConfig where
  maxRetries : Nat := 10
  baseDelayMs : Nat := 5
  multiplier : Float := 2.0
  maxDelayMs : Nat := 125
  backoffMs : Nat := 1000

/-- Where and how points are written. -/
structure InfluxConfig where
  urls : List String := ["http://localhost:8086"]
  database : String := "benchmark"
  consistency : Consistency := .all
  gzip : Bool := true
  token : String := ""
  bearer : String := ""
  noSync : Bool := false
  deriving DecidableEq

/-- Where points are read; without a path, from standard input. -/
structure SourceConfig where
  path : Option String := none
  deriving DecidableEq

structure Config where
  workers : Nat := 1
  channelCapacity : Nat := 100
  batchSize : Nat := 10000
  limit : Option Nat := none
  batchDelayMs : Nat := 0
  hashWorkers : Bool := false
  doLoad : Bool := true
  reportingPeriodMs : Nat := 10000
  retry : RetryConfig := {}
  influx : InfluxConfig := {}
  source : SourceConfig := {}

namespace Config

/-- Each worker has a channel of its own when points are routed by series, else all share one. -/
def channelCount (c : Config) : Nat := if c.hashWorkers then c.workers else 1

def batchDelay? (c : Config) : Option Nat := Span.ofMillis? c.batchDelayMs

def reportingPeriod? (c : Config) : Option Nat := Span.ofMillis? c.reportingPeriodMs

end Config

namespace InfluxConfig

/-- The workers take the urls in turn. -/
def urlFor? (c : InfluxConfig) (worker : Nat) : Option String := c.urls[worker % c.urls.length]?

theorem urlFor?_isSome {c : InfluxConfig} (hUrls : c.urls ≠ []) (worker : Nat) :
    (c.urlFor? worker).isSome = true := by
  have hPos : 0 < c.urls.length := List.length_pos_iff.2 hUrls
  simp [urlFor?, Nat.mod_lt worker hPos]

end InfluxConfig
end BulkLoad
