import BulkLoad.Config.Findings
import BulkLoad.Fault

/-!
What a configuration must satisfy.

The rules about single fields are checked field by field, and the first finding is named. Then come
the rules that no field has by itself.
-/
namespace BulkLoad.Config

open Finding (TableOrder tooSmall tooShort found nested first?)

def Violation.fault (v : Violation) : Fault := .configRule v.field v.message

/-- A rule that is broken when the condition holds. -/
def brokenIf (broken : Bool) (field message : String) : List Violation :=
  if broken then [⟨field, message⟩] else []

def isHttpUrl (url : String) : Bool := url.startsWith "http://" || url.startsWith "https://"

/-- The urls that name no web server, from index `first` on. -/
def urlViolations (first : Nat) : List String → List Violation
  | [] => []
  | url :: urls =>
    brokenIf (!isHttpUrl url) ("influx.urls[" ++ toString first ++ "]")
        ("'" ++ url ++ "' must start with http:// or https://")
      ++ urlViolations (first + 1) urls

def retryWindow (r : RetryConfig) : List Violation :=
  brokenIf (r.maxDelayMs < r.baseDelayMs) "retry.base_delay_ms / retry.max_delay_ms"
    ("base_delay_ms (" ++ toString r.baseDelayMs ++ ") must be <= max_delay_ms ("
      ++ toString r.maxDelayMs ++ ")")

def retryFields (r : RetryConfig) : List (String × Option Finding) :=
  [("max_retries", tooSmall "1" (r.maxRetries < 1)), ("multiplier", tooSmall "1.0" (r.multiplier < 1.0))]

def influxFields (i : InfluxConfig) : List (String × Option Finding) :=
  [("urls", tooShort "1" (i.urls.length < 1)), ("database", tooShort "1" (i.database.length < 1))]

/-- The fields with rules of their own, as they are checked. -/
def fields (c : Config) : List (String × Option Finding) :=
  [("workers", tooSmall "1" (c.workers < 1)), ("channel_capacity", tooSmall "1" (c.channelCapacity < 1)),
    ("batch_size", tooSmall "1" (c.batchSize < 1)), ("retry", nested (retryFields c.retry)),
    ("influx", nested (influxFields c.influx))]

/-- Of the rules about single fields the first broken one, then all others that are broken. -/
def violationsIn (order : TableOrder) (c : Config) : List Violation :=
  (first? order "" (.record (found c.fields))).toList
    ++ retryWindow c.retry
    ++ urlViolations 0 c.influx.urls
    ++ brokenIf (c.limit = some 0) "limit" "limit must be > 0 (omit it to load the whole source)"

def violations (c : Config) : List Violation := c.violationsIn .asMade

/-- Accepts a configuration without broken rules, where tables give their entries in that order. -/
def validateIn (order : TableOrder) (c : Config) : Except Fault Unit :=
  match c.violationsIn order with
  | [] => .ok ()
  | v :: _ => .error v.fault

/-- Accepts a configuration without broken rules. -/
def validate (c : Config) : Except Fault Unit :=
  match c.violations with
  | [] => .ok ()
  | v :: _ => .error v.fault

end BulkLoad.Config
