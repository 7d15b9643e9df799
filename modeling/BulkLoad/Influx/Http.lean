import BulkLoad.Influx.Processor
import BulkLoad.Url.Parse

/-!
Requests to the write endpoint of a server.
-/
namespace BulkLoad.Http

def endpoint : String := "/write"

def withoutSlashes (base : String) : List Char := Text.dropEndWhile (· = '/') base.toList

/-- What the query says of a write. -/
def writePairs (c : InfluxConfig) : List (String × String) :=
  [("consistency", c.consistency.name), ("db", c.database)]
    ++ if c.noSync then [("no_sync", "true")] else []

def urlsField : String := "influx.urls"

/-- The write endpoint below a base. -/
def writeUrl (base : String) (c : InfluxConfig) : Except Fault Url :=
  match Url.parse (String.ofList (withoutSlashes base) ++ endpoint) with
  | .error e => .error (.configRule urlsField (base ++ ": " ++ e.message))
  | .ok url => .ok (url.addPairs (writePairs c))

/-- A bearer token goes before any other. -/
def authorization (c : InfluxConfig) : String :=
  if c.bearer = "" then "Token " ++ c.token else "Bearer " ++ c.bearer

def noUrls : Fault := .configRule urlsField "at least one url is required"

/-- A load needs a server to write to. -/
def checkUrls (c : InfluxConfig) : Except Fault Unit :=
  if c.urls.isEmpty then .error noUrls else .ok ()

def target : String := "targets::influx::http"

/-- The url that a worker writes to. -/
def workerUrl (c : InfluxConfig) (worker : Nat) : Except Fault Url :=
  match c.urlFor? worker with
  | none => .error noUrls
  | some base => writeUrl base c

/-- Workers are spread over the urls in turn. -/
def connector (c : InfluxConfig) : Connector where
  connect worker :=
    match workerUrl c worker with
    | .error f => (.error f, [])
    | .ok url =>
      (.ok ⟨worker, url.text⟩,
        [Journal.say .debug target "Influx write url"
          [("worker", .nat worker), ("url", .text url.text)]])

/-- Whether a byte may stand in the value of a header. -/
def isHeaderByte (b : UInt8) : Bool := b = 0x09 || (0x20 ≤ b && b ≠ 0x7F)

def isHeaderValue (value : String) : Bool := (Utf8.encode value).all isHeaderByte

def isWeb (u : Url) : Bool := u.scheme = "http".toList || u.scheme = "https".toList

/-- No longer URL is sent. -/
def longestUrl : Nat := 65534

/-- Whether a URL fits into a request: some characters may stand in a host but not there. -/
def isSendable (u : Url) : Bool :=
  u.toChars.length ≤ longestUrl
    && !u.host.any fun host => host.toChars.any fun c => c ∈ ['"', '\x60', '\x7b', '\x7d']

/-- What is told of a URL that no request can be made for. -/
def unfit (u : Url) : String := "builder error for url (" ++ u.text ++ ")"

/-- Why a request cannot be made at all, if it cannot. -/
def buildFault? (u : Url) (authorization : String) : Option String :=
  if !u.hasHost then some (unfit u)
  else if !isHeaderValue authorization then some "builder error"
  else if !isWeb u || !isSendable u.withoutCredentials then some (unfit u.withoutCredentials)
  else none

/-- What is told when nobody answers. -/
def unanswered (u : Url) : String :=
  "error sending request for url (" ++ u.withoutCredentials.text ++ ")"

/-- The reply to a request that reaches no server. -/
def refusal (u : Url) (authorization : String) : Reply :=
  .transportError ((buildFault? u authorization).getD (unanswered u))

/-- A network in which nobody listens. -/
def silentWorld (c : InfluxConfig) : World where
  fallback destination :=
    match Url.parse destination.url with
    | .ok url => ⟨refusal url (authorization c), 0, 0⟩
    | .error e => ⟨.transportError e.message, 0, 0⟩

def userAgent : String := "tsbs_load_influx"

/-- A request as a server receives it. -/
structure Post where
  line : String
  headers : List (String × String)
  body : Bytes

/-- The request that carries a body to a url; the body is packed already if `gzip` is set. -/
def Post.of (u : Url) (authorization : String) (gzip : Bool) (body : Bytes) : Post where
  line := "POST " ++ String.ofList (u.pathChars ++ u.queryChars) ++ " HTTP/1.1"
  headers :=
    [("content-type", "text/plain"), ("authorization", authorization)]
      ++ (if gzip then [("content-encoding", "gzip")] else [])
      ++ [("user-agent", userAgent), ("content-length", toString body.length)]
  body

end BulkLoad.Http
