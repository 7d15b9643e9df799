import BulkLoad.Journal
import BulkLoad.Json.Printer

/-!
Log records as lines.
-/
namespace BulkLoad

def Datum.toJson : Datum → Json
  | .nat n => Json.nat n
  | .bool b => Json.bool b
  | .float x => Json.float x
  | .text s => Json.str s

def Datum.shown (d : Datum) : String :=
  match d with
  | .text s => s
  | d => d.toJson.toLine

namespace Record

/-- The message and the fields of a record's own. -/
def fieldsJson (r : Record) : Json :=
  Json.record (("message", Json.str r.message) :: r.fields.map fun f => (f.1, f.2.toJson))

def toJson (r : Record) : Json :=
  Json.record
    [("level", Json.str r.level.name), ("fields", r.fieldsJson), ("target", Json.str r.target)]

/-- For readers rather than for programs. -/
def plainLine (r : Record) : String :=
  r.level.name ++ " " ++ r.target ++ ": " ++ r.message
    ++ String.join (r.fields.map fun f => " " ++ f.1 ++ "=" ++ f.2.shown)

end Record
end BulkLoad
