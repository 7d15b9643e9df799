import BulkLoad.Source.Stream
import BulkLoad.Text.Blank

/-!
Points from a text, one a line.

The text arrives in chunks, and a read may fail between two of them. Lines that begin with `#` are
headers if they stand before the first point, else comments; blank lines count for nothing. A line
that is not ended when a read fails is lost.
-/
namespace BulkLoad.Source

/-- What one read gives. -/
inductive Chunk where
  | bytes (content : Bytes)
  | failure (message : String)
  deriving DecidableEq, Repr

/-- A line without its newline, or a failed read. -/
inductive Line where
  | text (content : Bytes)
  | failure (message : String)
  deriving DecidableEq, Repr

namespace Line

def newline : UInt8 := 0x0A

def carriageReturn : UInt8 := 0x0D

def hash : UInt8 := 0x23

/-- Lines that are complete, the newest first, and the bytes of the line begun, in reverse. -/
structure Cut where
  complete : List Line := []
  begun : Bytes := []

def Cut.feed (s : Cut) (b : UInt8) : Cut :=
  if b = newline then ⟨.text s.begun.reverse :: s.complete, []⟩ else ⟨s.complete, b :: s.begun⟩

def Cut.read (s : Cut) : Chunk → Cut
  | .bytes content => content.foldl feed s
  | .failure m => ⟨.failure m :: s.complete, []⟩

/-- At the end of the text a line begun is a line. -/
def Cut.finish (s : Cut) : List Line :=
  (if s.begun.isEmpty then s.complete else .text s.begun.reverse :: s.complete).reverse

/-- The lines of a text, however it was cut into chunks. -/
def ofChunks (chunks : List Chunk) : List Line := (chunks.foldl Cut.read {}).finish

/-- What a line is to a load. -/
inductive Kind where
  | blank
  | comment (text : Bytes)
  | data (point : Point)
  deriving DecidableEq, Repr

/-- Carriage returns at the end of a line are no part of it. -/
def strip (content : Bytes) : Bytes := Text.dropEndWhile (· = carriageReturn) content

def kind (content : Bytes) : Kind :=
  match strip content with
  | [] => .blank
  | b :: rest => if b = hash then .comment rest else .data (b :: rest)

/-- The text of a header line. -/
def headerText (comment : Bytes) : String :=
  String.ofList (Text.trim (Utf8.decodeLossyChars comment))

end Line

/-- A source of lines: what is still to come, the number of lines read, and what was found at the
head of the text. A source may be broken: then every read after the last line fails. -/
structure Lines where
  rest : List Line
  broken : Option String := none
  count : Nat := 0
  pending : Option Point := none
  headers : Option (List String) := none
  opened : Bool := false

namespace Lines

def ofChunks (chunks : List Chunk) : Lines := { rest := Line.ofChunks chunks }

def readFault (count : Nat) (message : String) : Fault :=
  .source ("read failed at line " ++ toString (count + 1)) (some message)

/-- The head of the text: the header lines in reverse, the first point, and what follows. -/
structure Head where
  headers : List String
  first : Except Fault (Option Point)
  rest : List Line
  count : Nat

/-- What a read after the last line gives. -/
def atEnd (broken : Option String) (count : Nat) : Except Fault (Option Point) :=
  match broken with
  | none => .ok none
  | some m => .error (readFault count m)

def readHead (broken : Option String) (count : Nat) (headers : List String) : List Line → Head
  | [] => ⟨headers, atEnd broken count, [], count⟩
  | .failure m :: rest => ⟨headers, .error (readFault count m), rest, count⟩
  | .text content :: rest =>
    match Line.kind content with
    | .blank => readHead broken (count + 1) headers rest
    | .comment text => readHead broken (count + 1) (Line.headerText text :: headers) rest
    | .data p => ⟨headers, .ok (some p), rest, count + 1⟩

def target : String := "ingestion::source"

/-- Reads the head of the text, once. A failed read loses the headers found before it. -/
def openHead (s : Lines) : Except Fault Unit × Lines × Journal :=
  if s.opened then (.ok (), s, [])
  else
    let head := readHead s.broken s.count [] s.rest
    let s := { s with rest := head.rest, count := head.count, opened := true }
    match head.first with
    | .error f => (.error f, s, [])
    | .ok first =>
      if head.headers.isEmpty then (.ok (), { s with pending := first }, [])
      else
        (.ok (), { s with pending := first, headers := some head.headers.reverse },
          [Journal.say .debug target "source headers read" [("count", .nat head.headers.length)]])

/-- The header lines, if there are any. -/
def takeHeaders (s : Lines) : Except Fault (Option (List String)) × Lines × Journal :=
  match s.openHead with
  | (.error f, s, told) => (.error f, s, told)
  | (.ok (), s, told) => (.ok s.headers, s, told)

/-- The next data line of the rest. -/
def nextData (broken : Option String) (count : Nat) :
    List Line → Except Fault (Option Point) × List Line × Nat
  | [] => (atEnd broken count, [], count)
  | .failure m :: rest => (.error (readFault count m), rest, count)
  | .text content :: rest =>
    match Line.kind content with
    | .data p => (.ok (some p), rest, count + 1)
    | _ => nextData broken (count + 1) rest

/-- The next point. -/
def next (s : Lines) : Except Fault (Option Point) × Lines × Journal :=
  match s.openHead with
  | (.error f, s, told) => (.error f, s, told)
  | (.ok (), s, told) =>
    match s.pending with
    | some p => (.ok (some p), { s with pending := none }, told)
    | none =>
      match nextData s.broken s.count s.rest with
      | (result, rest, count) => (result, { s with rest, count }, told)

/-- What the requests after the head give. -/
def items (broken : Option String) (count : Nat) : List Line → List Item
  | [] => (broken.map fun m => Item.failed (readFault count m)).toList
  | .failure m :: rest => .failed (readFault count m) :: items broken count rest
  | .text content :: rest =>
    match Line.kind content with
    | .data p => .point p :: items broken (count + 1) rest
    | _ => items broken (count + 1) rest

def toStream (s : Lines) : Stream :=
  match s.takeHeaders with
  | (headers, s, told) =>
    { headers
      opening := told
      items := (s.pending.map Item.point).toList ++ items s.broken s.count s.rest }

end Lines
end BulkLoad.Source
