import BulkLoad.Config.Setting

/-!
How the settings of a load are named and arranged, for writing and for reading.

A group may also be given as a list of its members in order. What is not given has its default, and
names that are not known are passed over.
-/
namespace BulkLoad

namespace Setting

/-- A natural up to a greatest value. -/
def nat? (greatest : Nat) : Setting → Option Nat
  | .integer (.ofNat n) => if n ≤ greatest then some n else none
  | _ => none

/-- A double; an integer of sixty-four bits, with a sign or without, is rounded to one. -/
def float? : Setting → Option Float
  | .float x => some x
  | .integer n =>
    if -(Nat.pow 2 63 : Int) ≤ n ∧ n < (Nat.pow 2 64 : Int) then some (Float.ofInt n) else none
  | _ => none

def bool? : Setting → Option Bool
  | .bool b => some b
  | _ => none

def text? : Setting → Option String
  | .text s => some s
  | _ => none

def texts? : Setting → Option (List String)
  | .list items => items.mapM text?
  | _ => none

/-- A setting that may be absent. -/
def optional? {α : Type} (read : Setting → Option α) : Setting → Option (Option α)
  | .absent => some none
  | s => (read s).map some

/-- The values given under one name. -/
def givenAs (name : String) (members : List (String × Setting)) : List Setting :=
  (members.filter fun m => m.1 == name).map Prod.snd

/-- At most one value. -/
def single? : List Setting → Option (Option Setting)
  | [] => some none
  | [s] => some (some s)
  | _ => none

/-- The first items, as many as there are names; a missing one is not given. -/
def inOrder : List String → List Setting → List (Option Setting)
  | [], _ => []
  | _ :: names, [] => none :: inOrder names []
  | _ :: names, s :: ss => some s :: inOrder names ss

/-- The members whose names are not among those known. -/
def unknown (names : List String) (members : List (String × Setting)) : List (String × Setting) :=
  members.filter fun m => !names.contains m.1

/-- For each name the value given, if any. A name is given once. In JSON a list may not be longer
than the names; in TOML what stands behind the last name is not looked at. -/
def members? (format : Format) (names : List String) : Setting → Option (List (Option Setting))
  | .group members =>
    if membersAreHarmless (unknown names members) then
      names.mapM fun name => single? (givenAs name members)
    else none
  | .moment => some (names.map fun _ => none)
  | .list items =>
    if format = .json ∧ names.length < items.length then none else some (inOrder names items)
  | _ => none

/-- Reads what is given; the default stands for what is not. -/
def orElse? {α : Type} (read : Setting → Option α) (default : α) : Option Setting → Option α
  | none => some default
  | some s => read s

/-- Whether a value can stand for the contents of a name that has none. -/
def isEmptyContent : Format → Setting → Bool
  | .json, .absent => true
  | .toml, .list [] => true
  | .toml, .group [] => true
  | _, _ => false

end Setting

open Setting

def maxWord : Nat := Nat.pow 2 64 - 1

def maxHalfWord : Nat := Nat.pow 2 32 - 1

/-- A level is given by its name, alone or as the only member of a group without content. -/
def Consistency.ofSetting? (format : Format) : Setting → Option Consistency
  | .text s => ofName? s
  | .group [(name, content)] => if isEmptyContent format content then ofName? name else none
  | _ => none

def RetryConfig.names : List String :=
  ["max_retries", "base_delay_ms", "multiplier", "max_delay_ms", "backoff_ms"]

def RetryConfig.toSetting (c : RetryConfig) : Setting :=
  .group
    [ ("max_retries", .integer c.maxRetries)
    , ("base_delay_ms", .integer c.baseDelayMs)
    , ("multiplier", .float c.multiplier)
    , ("max_delay_ms", .integer c.maxDelayMs)
    , ("backoff_ms", .integer c.backoffMs) ]

def RetryConfig.ofSetting? (format : Format) (s : Setting) : Option RetryConfig := do
  let d : RetryConfig := {}
  match ← members? format names s with
  | [a, b, c, e, f] =>
    return {
      maxRetries := ← orElse? (nat? maxHalfWord) d.maxRetries a
      baseDelayMs := ← orElse? (nat? maxWord) d.baseDelayMs b
      multiplier := ← orElse? float? d.multiplier c
      maxDelayMs := ← orElse? (nat? maxWord) d.maxDelayMs e
      backoffMs := ← orElse? (nat? maxWord) d.backoffMs f }
  | _ => none

def InfluxConfig.names : List String :=
  ["urls", "database", "consistency", "gzip", "token", "bearer", "no_sync"]

def InfluxConfig.toSetting (c : InfluxConfig) : Setting :=
  .group
    [ ("urls", .list (c.urls.map .text))
    , ("database", .text c.database)
    , ("consistency", .text c.consistency.name)
    , ("gzip", .bool c.gzip)
    , ("token", .text c.token)
    , ("bearer", .text c.bearer)
    , ("no_sync", .bool c.noSync) ]

def InfluxConfig.ofSetting? (format : Format) (s : Setting) : Option InfluxConfig := do
  let d : InfluxConfig := {}
  match ← members? format names s with
  | [a, b, c, e, f, g, h] =>
    return {
      urls := ← orElse? texts? d.urls a
      database := ← orElse? text? d.database b
      consistency := ← orElse? (Consistency.ofSetting? format) d.consistency c
      gzip := ← orElse? bool? d.gzip e
      token := ← orElse? text? d.token f
      bearer := ← orElse? text? d.bearer g
      noSync := ← orElse? bool? d.noSync h }
  | _ => none

def SourceConfig.names : List String := ["path"]

def SourceConfig.toSetting (c : SourceConfig) : Setting :=
  .group [("path", c.path.elim .absent .text)]

def SourceConfig.ofSetting? (format : Format) (s : Setting) : Option SourceConfig := do
  match ← members? format names s with
  | [a] => return { path := ← orElse? (optional? text?) none a }
  | _ => none

namespace Config

def names : List String :=
  [ "workers", "channel_capacity", "batch_size", "limit", "batch_delay_ms", "hash_workers"
  , "do_load", "reporting_period_ms", "retry", "influx", "source" ]

def toSetting (c : Config) : Setting :=
  .group
    [ ("workers", .integer c.workers)
    , ("channel_capacity", .integer c.channelCapacity)
    , ("batch_size", .integer c.batchSize)
    , ("limit", c.limit.elim .absent fun n => .integer n)
    , ("batch_delay_ms", .integer c.batchDelayMs)
    , ("hash_workers", .bool c.hashWorkers)
    , ("do_load", .bool c.doLoad)
    , ("reporting_period_ms", .integer c.reportingPeriodMs)
    , ("retry", c.retry.toSetting)
    , ("influx", c.influx.toSetting)
    , ("source", c.source.toSetting) ]

def ofSetting? (format : Format) (s : Setting) : Option Config := do
  let d : Config := {}
  match ← members? format names s with
  | [a, b, c, e, f, g, h, i, j, k, l] =>
    return {
      workers := ← orElse? (nat? maxWord) d.workers a
      channelCapacity := ← orElse? (nat? maxWord) d.channelCapacity b
      batchSize := ← orElse? (nat? maxWord) d.batchSize c
      limit := ← orElse? (optional? (nat? maxWord)) d.limit e
      batchDelayMs := ← orElse? (nat? maxWord) d.batchDelayMs f
      hashWorkers := ← orElse? bool? d.hashWorkers g
      doLoad := ← orElse? bool? d.doLoad h
      reportingPeriodMs := ← orElse? (nat? maxWord) d.reportingPeriodMs i
      retry := ← orElse? (RetryConfig.ofSetting? format) d.retry j
      influx := ← orElse? (InfluxConfig.ofSetting? format) d.influx k
      source := ← orElse? (SourceConfig.ofSetting? format) d.source l }
  | _ => none

end Config
end BulkLoad
