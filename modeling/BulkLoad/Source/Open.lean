import BulkLoad.Files
import BulkLoad.Source.Lines

/-!
Opening the source of a load: a file, or standard input.
-/
namespace BulkLoad.Source

def openFault (path : String) (e : FileError) : Fault :=
  .source ("cannot open " ++ path) (some e.message)

def toldOpened : Journal := [Journal.say .debug Lines.target "data file opened"]

/-- A file of lines. A directory can be opened, but every read of it fails. -/
def openFile (fs : Files) (path : String) : Except Fault Lines × Journal :=
  match fs.open? path with
  | .error e => (.error (openFault path e), [])
  | .ok (.bytes content) => (.ok (Lines.ofChunks [.bytes content]), toldOpened)
  | .ok .directory => (.ok { rest := [], broken := some FileError.isDirectory.message }, toldOpened)
  | .ok (.unreadable e) => (.error (openFault path e), [])

def target : String := "targets::influx::benchmark"

/-- The source that a path names; without a path, standard input. -/
def choose (fs : Files) (input : Bytes) : Option String → Except Fault Lines × Journal
  | some path =>
    let (opened, told) := openFile fs path
    (opened, Journal.say .info target "Reading points from file" [("path", .text path)] :: told)
  | none =>
    (.ok (Lines.ofChunks [.bytes input]), [Journal.say .info target "Reading points from stdin"])

end BulkLoad.Source
