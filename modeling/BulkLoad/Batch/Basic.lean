import BulkLoad.Batch.Line
import BulkLoad.Sum

/-!
Batches: the points that are written together.

A batch keeps the lines it accepted, the newest first; its payload is those lines in order, each
ended by a newline.
-/
namespace BulkLoad

/-- What a batch weighs. -/
structure BatchCounts where
  points : Nat := 0
  rows : Nat := 0
  deriving DecidableEq, Repr

structure LineBatch where
  newestFirst : List Point := []
  points : Nat := 0
  rows : Nat := 0
  deriving DecidableEq, Repr

namespace LineBatch

def empty : LineBatch := {}

def newline : UInt8 := 0x0A

/-- The accepted lines in order. -/
def lines (b : LineBatch) : List Point := b.newestFirst.reverse

/-- The bytes that go to the server. -/
def payload (b : LineBatch) : Bytes := b.lines.flatMap fun line => line ++ [newline]

def counts (b : LineBatch) : BatchCounts := ⟨b.points, b.rows⟩

def isEmpty (b : LineBatch) : Bool := b.points = 0

/-- Adds a line, or refuses it and leaves the batch as it was. -/
def append (b : LineBatch) (line : Point) : Except Fault LineBatch :=
  match Point.rows line with
  | .ok rows => .ok ⟨line :: b.newestFirst, b.points + 1, b.rows + rows⟩
  | .error f => .error f

def reset (_ : LineBatch) : LineBatch := empty

/-- The number of bytes of the payload. -/
def size (b : LineBatch) : Nat := sumOf (fun line => line.length + 1) b.newestFirst

@[simp] theorem payload_empty : empty.payload = [] := rfl

theorem points_append {b c : LineBatch} {line : Point} (hAppend : b.append line = .ok c) :
    c.points = b.points + 1 := by
  unfold append at hAppend
  split at hAppend
  · cases hAppend; rfl
  · simp at hAppend

end LineBatch
end BulkLoad
