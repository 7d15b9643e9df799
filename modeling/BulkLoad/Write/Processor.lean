import BulkLoad.Batch.Basic
import BulkLoad.Journal

/-!
What a worker does with its batches.

A processor is begun once, given one batch after another, and closed. It says how long each call
took, since it alone may wait.
-/
namespace BulkLoad

/-- Why a call gives no answer: it failed, its task broke down, or it waits for ever. -/
inductive Halt where
  | failed (f : Fault)
  | crashed
  | endless
  deriving DecidableEq, Repr

/-- What a call gave, the processor after it, the time it took, and what it told. -/
structure Call (π α : Type) where
  result : Except Halt α
  next : π
  took : Nat := 0
  told : Journal := []

class Processor (π : Type) where
  init : π → (worker : Nat) → (doLoad hashWorkers : Bool) → Call π Unit
  process : π → LineBatch → (doLoad : Bool) → Call π BatchCounts
  /-- The time the worker held back; a processor that never does has none. -/
  close : π → (doLoad : Bool) → Call π Nat := fun p _ => { result := .ok 0, next := p }

end BulkLoad
