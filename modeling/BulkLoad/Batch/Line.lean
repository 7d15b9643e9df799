import BulkLoad.Fault

/-!
Points in line protocol: `series fields timestamp`, parted by single spaces, the fields by commas.
-/
namespace BulkLoad

/-- A point is one line of text; the empty one marks the end of a source. -/
abbrev Point := Bytes

namespace Point

def sentinel : Point := []

def space : UInt8 := 0x20

def comma : UInt8 := 0x2C

/-- A byte string cut at every occurrence of a byte; there is one more part than occurrences. -/
def splitOn (separator : UInt8) (s : Bytes) : List Bytes :=
  s.foldr
    (fun b parts =>
      if b = separator then [] :: parts
      else
        match parts with
        | part :: more => (b :: part) :: more
        | [] => [[b]])
    [[]]

/-- The parts of a line between its spaces. -/
def sections (line : Point) : List Bytes := splitOn space line

/-- The name and tags in front of the first space. -/
def seriesKey (line : Point) : Bytes := line.takeWhile (· ≠ space)

def malformed (line : Point) : Fault :=
  .badPoint ("expected 'series fields timestamp', got: " ++ Utf8.decodeLossy line)

/-- The number of fields of a line with exactly three sections. -/
def rows (line : Point) : Except Fault Nat :=
  match sections line with
  | [_, fields, _] => .ok (splitOn comma fields).length
  | _ => .error (malformed line)

end Point
end BulkLoad
