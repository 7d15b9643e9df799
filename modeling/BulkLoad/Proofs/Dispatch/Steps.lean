import BulkLoad.Dispatch.Run
import BulkLoad.Proofs.Batch.Lines
import BulkLoad.Proofs.Dispatch.Routing

/-!
What the steps of dispatch do to the lines it holds.

A dispatcher whose pool gives empty batches is described by the lines of its open batches alone: an
open batch holds its lines and nothing else, and a channel without lines has no open batch.
-/
namespace BulkLoad

/-- A pool gives empty batches if only such lie in it. -/
def Pool.Clean (p : Pool LineBatch) : Prop := ∀ b ∈ p.idle, b = .empty

namespace Pool.Clean

variable {p : Pool LineBatch}

theorem ofCapacity (requested : Nat) : (Pool.ofCapacity requested : Pool LineBatch).Clean := by
  simp [Clean, Pool.ofCapacity]

theorem acquire (hClean : p.Clean) : p.acquire.1 = .empty ∧ p.acquire.2.Clean := by
  unfold Pool.acquire
  split
  · rename_i b idle hIdle
    exact ⟨hClean b (by simp [hIdle]), fun c hc => hClean c (by simp [hIdle, hc])⟩
  · exact ⟨rfl, hClean⟩

theorem release (hClean : p.Clean) (b : LineBatch) : (p.release b).Clean := by
  unfold Pool.release
  split
  · intro c hc
    rcases List.mem_append.mp hc with hBefore | hNew
    · exact hClean c hBefore
    · rw [List.mem_singleton.mp hNew]
      rfl
  · exact hClean

end Pool.Clean

/-- The open batch of a channel that is owed these lines. -/
def LineBatch.open? (lines : List Point) : Option LineBatch :=
  if lines = [] then none else some (.ofLines lines)

open LineBatch (open? ofLines)

namespace Dispatcher

variable {ι : Type} {d : Dispatcher ι} {held : List (List Point)} {lines : List Point}
  {channel size : Nat} {p : Point}

/-- The open batches hold these lines, one list for each channel. -/
structure Holds (d : Dispatcher ι) (held : List (List Point)) : Prop where
  clean : d.pool.Clean
  slots : d.slots = held.map open?

theorem Holds.getElem?_slots (hHolds : d.Holds held) (channel : Nat) :
    d.slots[channel]? = held[channel]?.map open? := by
  rw [hHolds.slots, List.getElem?_map]

theorem openBatch_open? (hClean : d.pool.Clean) (lines : List Point) :
    (d.openBatch (open? lines)).1 = ofLines lines ∧ (d.openBatch (open? lines)).2.Clean := by
  by_cases hLines : lines = []
  · simpa [open?, hLines, openBatch] using hClean.acquire
  · simpa [open?, hLines, openBatch] using hClean

/-- The dispatcher with another pool and other lines in one of its open batches. -/
def withLines (d : Dispatcher ι) (pool : Pool LineBatch) (channel : Nat) (lines : List Point) :
    Dispatcher ι :=
  { d with pool, slots := d.slots.set channel (open? lines) }

theorem Holds.withLines (hHolds : d.Holds held) {pool : Pool LineBatch} (hClean : pool.Clean)
    (channel : Nat) (lines : List Point) :
    (d.withLines pool channel lines).Holds (held.set channel lines) := by
  refine ⟨hClean, ?_⟩
  simp [Dispatcher.withLines, hHolds.slots, List.map_set]

/-- An accepted point goes to the open batch of its channel, which is due when it is full. -/
theorem Holds.place_eq (hHolds : d.Holds held) (hAccepted : p.Accepted) (size channel : Nat)
    (lines : List Point) : ∃ pool : Pool LineBatch, pool.Clean ∧
      d.place size channel (open? lines) p =
        if size ≤ lines.length + 1 then
          .full ⟨channel, ofLines (lines ++ [p])⟩
            { d.withLines pool channel [] with points := d.points + 1 }
        else .kept { d.withLines pool channel (lines ++ [p]) with points := d.points + 1 } := by
  obtain ⟨hBatch, hClean⟩ := openBatch_open? hHolds.clean lines
  refine ⟨_, hClean, ?_⟩
  simp only [place, hBatch, LineBatch.append_ofLines hAccepted, LineBatch.points_ofLines,
    List.length_append, List.length_singleton]
  simp [Dispatcher.withLines, open?]

/-- A point that no batch accepts ends dispatch. -/
theorem place_of_not_accepted (hRefused : ¬p.Accepted) (d : Dispatcher ι) (size channel : Nat)
    (slot : Option LineBatch) :
    ∃ e d', d.place size channel slot p = .failed e d' := by
  cases hRows : p.rows with
  | ok rows => exact absurd ⟨rows, hRows⟩ hRefused
  | error f =>
      simp only [place, LineBatch.append, hRows]
      exact ⟨_, _, rfl⟩

/-- Closing a slot makes its lines due, if there are any, and leaves none behind. -/
theorem Holds.flush_eq (hHolds : d.Holds held) (hLines : held[channel]? = some lines) :
    d.flush channel = ((open? lines).map (⟨channel, ·⟩), d.withLines d.pool channel []) := by
  have hSlot := hHolds.getElem?_slots channel
  rw [hLines, Option.map_some] at hSlot
  by_cases hNone : lines = []
  · subst hNone
    have hSame : d.slots.set channel none = d.slots := by
      apply List.ext_getElem?
      intro i
      rw [List.getElem?_set]
      split
      · rename_i hHere
        subst hHere
        rw [hSlot]
        split <;> simp_all [open?]
      · rfl
    simp [flush, hSlot, open?, Dispatcher.withLines, hSame]
  · simp [flush, hSlot, open?, hNone, Dispatcher.withLines, LineBatch.isEmpty_ofLines]

variable [Indexer ι] {item : Source.Item}

/-- The dispatcher that has routed and counted a point. -/
def routedOn (d : Dispatcher ι) (p : Point) : Dispatcher ι :=
  { d with indexer := (Indexer.pick d.indexer p).2, points := d.points + 1 }

/-- All that can become of an item: the source is at its end, dispatch fails, or the item is a point
that joins the lines of its channel, whose batch is due when it is full. -/
theorem Holds.take_cases (hHolds : d.Holds held) (size : Nat) (item : Source.Item) :
    (d.take size item = .ended ∧ ∀ items, Source.leading (item :: items) = []) ∨
    (∃ e d', d.take size item = .failed e d' ∧ (¬item.Sound ∨ ∃ p, item = .point p ∧ p ≠ [] ∧
      (held.length ≤ (Indexer.pick d.indexer p).1 ∨ ¬p.Accepted))) ∨
    ∃ p lines pool, item = .point p ∧ p ≠ [] ∧ p.Accepted ∧ pool.Clean ∧
      held[(Indexer.pick d.indexer p).1]? = some lines ∧
      d.take size item =
        if size ≤ lines.length + 1 then
          .full ⟨(Indexer.pick d.indexer p).1, ofLines (lines ++ [p])⟩
            ((d.routedOn p).withLines pool (Indexer.pick d.indexer p).1 [])
        else .kept ((d.routedOn p).withLines pool (Indexer.pick d.indexer p).1 (lines ++ [p])) := by
  cases item with
  | done => exact .inl ⟨rfl, fun _ => rfl⟩
  | failed f => exact .inr (.inl ⟨_, _, rfl, .inl id⟩)
  | crashed => exact .inr (.inl ⟨_, _, rfl, .inl id⟩)
  | point p =>
      by_cases hEmpty : p = []
      · subst hEmpty
        exact .inl ⟨rfl, fun _ => rfl⟩
      · right
        have hTake : d.take size (.point p) = d.route size p := by simp [take, hEmpty]
        have hSlot := hHolds.getElem?_slots (Indexer.pick d.indexer p).1
        cases hLines : held[(Indexer.pick d.indexer p).1]? with
        | none =>
            left
            rw [hLines, Option.map_none] at hSlot
            refine ⟨_, _, by rw [hTake]; simp only [route, hSlot]; rfl, .inr ⟨p, rfl, hEmpty, .inl ?_⟩⟩
            exact List.getElem?_eq_none_iff.mp hLines
        | some lines =>
            rw [hLines, Option.map_some] at hSlot
            have hRoute : d.route size p =
                { d with indexer := (Indexer.pick d.indexer p).2 }.place size
                  (Indexer.pick d.indexer p).1 (open? lines) p := by
              simp only [route, hSlot]
            by_cases hAccepted : p.Accepted
            · right
              have hMoved : { d with indexer := (Indexer.pick d.indexer p).2 }.Holds held :=
                ⟨hHolds.clean, hHolds.slots⟩
              obtain ⟨pool, hClean, hPlace⟩ :=
                hMoved.place_eq hAccepted size (Indexer.pick d.indexer p).1 lines
              exact ⟨p, lines, pool, rfl, hEmpty, hAccepted, hClean, hLines,
                hTake.trans (hRoute.trans hPlace)⟩
            · left
              obtain ⟨e, d', hPlace⟩ := place_of_not_accepted hAccepted
                { d with indexer := (Indexer.pick d.indexer p).2 } size
                (Indexer.pick d.indexer p).1 (open? lines)
              exact ⟨e, d', hTake.trans (hRoute.trans hPlace),
                .inr ⟨p, rfl, hEmpty, .inr hAccepted⟩⟩

end Dispatcher
end BulkLoad
