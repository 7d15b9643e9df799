import BulkLoad.Write.Processor

/-!
A processor under observation.

A processor that keeps a record of the calls made on it behaves as it does without, so the record says
what was asked of a processor, in what order, and what came of it.
-/
namespace BulkLoad

/-- A call on a processor, and what it gave. -/
inductive Deed where
  | init (worker : Nat) (doLoad hashWorkers : Bool) (result : Except Halt Unit)
  | process (batch : LineBatch) (doLoad : Bool) (result : Except Halt BatchCounts)
  | close (doLoad : Bool) (result : Except Halt Nat)

/-- A processor with the calls made on it and what it told, the newest first. -/
structure Watched (π : Type) where
  processor : π
  newestFirst : List Deed := []
  toldNewestFirst : Journal := []

namespace Watched

variable {π α : Type}

/-- The calls in the order in which they were made. -/
def deeds (w : Watched π) : List Deed := w.newestFirst.reverse

def told (w : Watched π) : Journal := w.toldNewestFirst.reverse

/-- The same call, recorded. -/
def watch (w : Watched π) (call : Call π α) (deed : Except Halt α → Deed) : Call (Watched π) α where
  result := call.result
  next :=
    { processor := call.next
      newestFirst := deed call.result :: w.newestFirst
      toldNewestFirst := call.told.reverse ++ w.toldNewestFirst }
  took := call.took
  told := call.told

instance [Processor π] : Processor (Watched π) where
  init w worker doLoad hashWorkers :=
    w.watch (Processor.init w.processor worker doLoad hashWorkers) (.init worker doLoad hashWorkers)
  process w batch doLoad :=
    w.watch (Processor.process w.processor batch doLoad) (.process batch doLoad)
  close w doLoad := w.watch (Processor.close w.processor doLoad) (.close doLoad)

@[simp] theorem deeds_watch (w : Watched π) (call : Call π α) (deed : Except Halt α → Deed) :
    (w.watch call deed).next.deeds = w.deeds ++ [deed call.result] :=
  List.reverse_cons

@[simp] theorem told_watch (w : Watched π) (call : Call π α) (deed : Except Halt α → Deed) :
    (w.watch call deed).next.told = w.told ++ call.told := by
  simp [told, watch]

end Watched
end BulkLoad
