import BulkLoad.Proofs.Run.Scanning

/-!
Where dispatch gets its batches from, and where it leaves them.

A batch is built only when the pool has none, and then a slot is free for it. Every other step moves
batches about; only one that fails may lose one.
-/
namespace BulkLoad

namespace Pool

variable {α : Type} [Reusable α]

/-- A value comes out of the pool, or it is a new one. -/
theorem acquire_cases (p : Pool α) :
    (p.acquire.2.built = p.built ∧ p.acquire.2.available + 1 = p.available) ∨
      (p.acquire.2.built = p.built + 1 ∧ p.available = 0 ∧ p.acquire.2.available = 0) := by
  unfold acquire available
  split
  · rename_i a idle hIdle
    exact .inl ⟨rfl, by simp [hIdle]⟩
  · rename_i hIdle
    exact .inr ⟨rfl, by simp [hIdle], by simp [hIdle]⟩

theorem release_of_available_lt {p : Pool α} (hRoom : p.available < p.capacity) (a : α) :
    p.release a = { p with idle := p.idle ++ [Reusable.reset a] } :=
  if_pos hRoom

end Pool

namespace Dispatcher

variable {ι : Type}

/-- The number of open batches. -/
def openCount (d : Dispatcher ι) : Nat := sumOf (fun slot => slot.isSome.toNat) d.slots

/-- An empty slot is one that no open batch needs. -/
theorem openCount_lt {d : Dispatcher ι} {channel : Nat} (hFree : d.slots[channel]? = some none) :
    d.openCount < d.slots.length := by
  have hSet := sumOf_set_add (fun slot : Option LineBatch => slot.isSome.toNat)
    (some .empty) hFree
  have hLe : sumOf (fun slot => slot.isSome.toNat) (d.slots.set channel (some .empty)) ≤
      sumOf (fun _ => 1) (d.slots.set channel (some .empty)) :=
    sumOf_le fun slot _ => Bool.toNat_le slot.isSome
  rw [sumOf_one, List.length_set] at hLe
  simp only [Option.isSome_none, Option.isSome_some, Bool.toNat_false, Bool.toNat_true] at hSet
  rw [openCount]
  omega

/-- What a step of dispatch does with its batches. One more may have left the slots to be sent, and
then its slot is free; some may be lost. -/
structure Draws (d next : Dispatcher ι) (due : Option Parcel) (lost : Nat) : Prop where
  capacity : next.pool.capacity = d.pool.capacity
  slots : next.slots.length = d.slots.length
  room : ∀ p, due = some p → next.slots[p.channel]? = some none
  conserved : next.pool.built + d.pool.available + d.openCount =
    d.pool.built + next.pool.available + next.openCount + due.isSome.toNat + lost
  built : next.pool.built = d.pool.built ∨
    next.pool.built = d.pool.built + 1 ∧ d.pool.available = 0 ∧ d.openCount < d.slots.length

theorem Draws.refl (d : Dispatcher ι) : Draws d d none 0 :=
  ⟨rfl, rfl, nofun, by simp, .inl rfl⟩

/-- A slot is opened if it is not yet, and its batch stays there, is due, or is lost. -/
theorem draws_slot {d : Dispatcher ι} {channel : Nat} {slot : Option LineBatch}
    (hSlot : d.slots[channel]? = some slot) {batch : LineBatch} {pool : Pool LineBatch}
    (hOpen : d.openBatch slot = (batch, pool)) (points : Nat) {new : Option LineBatch}
    {due : Option Parcel} {lost : Nat}
    (hOne : new.isSome.toNat + due.isSome.toNat + lost = 1)
    (hRoom : ∀ p, due = some p → p.channel = channel ∧ new = none) :
    Draws d { d with pool, slots := d.slots.set channel new, points } due lost := by
  obtain rfl : (d.openBatch slot).2 = pool := by rw [hOpen]
  have hSum := sumOf_set_add (fun slot : Option LineBatch => slot.isSome.toNat) new hSlot
  obtain ⟨hLt, hGet⟩ := List.getElem?_eq_some_iff.mp hSlot
  have hFree : ∀ p, due = some p → (d.slots.set channel new)[p.channel]? = some none := by
    intro p hDue
    obtain ⟨hChannel, hNew⟩ := hRoom p hDue
    rw [hChannel, hNew, List.getElem?_set_self hLt]
  cases slot with
  | some b =>
      refine ⟨rfl, List.length_set, hFree, ?_, .inl rfl⟩
      simp only [openBatch, openCount, Option.isSome_some, Bool.toNat_true] at hSum ⊢
      omega
  | none =>
      refine ⟨d.pool.capacity_acquire, List.length_set, hFree, ?_, ?_⟩
      · simp only [openBatch, openCount, Option.isSome_none, Bool.toNat_false] at hSum ⊢
        rcases d.pool.acquire_cases with ⟨hBuilt, hIdle⟩ | ⟨hBuilt, hNone, hStill⟩
        · omega
        · omega
      · rcases d.pool.acquire_cases with ⟨hBuilt, -⟩ | ⟨hBuilt, hNone, -⟩
        · exact .inl hBuilt
        · exact .inr ⟨hBuilt, hNone, openCount_lt hSlot⟩

/-- What becomes of the batches when an item is taken. -/
def DrawsFor (d : Dispatcher ι) : Taken ι → Prop
  | .ended => True
  | .failed _ next => ∃ lost, Draws d next none lost
  | .kept next => Draws d next none 0
  | .full p next => Draws d next (some p) 0

theorem drawsFor_place {d : Dispatcher ι} {channel : Nat} {slot : Option LineBatch}
    (hSlot : d.slots[channel]? = some slot) (size : Nat) (p : Point) :
    DrawsFor d (d.place size channel slot p) := by
  rcases hOpen : d.openBatch slot with ⟨batch, pool⟩
  simp only [place, hOpen]
  cases batch.append p with
  | error f => exact ⟨1, draws_slot hSlot hOpen d.points rfl fun q hDue => by cases hDue⟩
  | ok batch =>
      by_cases hFull : size ≤ batch.points
      · simp only [hFull, if_true]
        exact draws_slot hSlot hOpen (d.points + 1) rfl fun q hDue => by cases hDue; exact ⟨rfl, rfl⟩
      · simp only [hFull, if_false]
        exact draws_slot hSlot hOpen (d.points + 1) rfl fun q hDue => by cases hDue

/-- Routing as such needs no batch. -/
theorem DrawsFor.of_indexer {d : Dispatcher ι} {indexer : ι} {taken : Taken ι}
    (hDraws : DrawsFor { d with indexer } taken) : DrawsFor d taken := by
  have hSame {next : Dispatcher ι} {due : Option Parcel} {lost : Nat}
      (hDraws : Draws { d with indexer } next due lost) : Draws d next due lost :=
    ⟨hDraws.capacity, hDraws.slots, hDraws.room, hDraws.conserved, hDraws.built⟩
  cases taken with
  | ended => trivial
  | failed e next => exact hDraws.imp fun _ => hSame
  | kept next => exact hSame hDraws
  | full p next => exact hSame hDraws

theorem drawsFor_take [Indexer ι] (d : Dispatcher ι) (size : Nat) (item : Source.Item) :
    DrawsFor d (d.take size item) := by
  cases item with
  | done => trivial
  | failed f => exact ⟨0, .refl d⟩
  | crashed => exact ⟨0, .refl d⟩
  | point p =>
      simp only [take]
      split
      · trivial
      · simp only [route]
        apply DrawsFor.of_indexer
        cases hSlot : d.slots[(Indexer.pick d.indexer p).1]? with
        | none => exact ⟨0, .refl _⟩
        | some slot =>
            exact drawsFor_place (d := { d with indexer := (Indexer.pick d.indexer p).2 }) hSlot size p

/-- Closing a slot loses an open batch only if the pool is full already. -/
theorem draws_flush (d : Dispatcher ι) (channel : Nat) :
    ∃ lost, Draws d (d.flush channel).2 (d.flush channel).1 lost ∧
      (lost = 0 ∨ 0 < d.openCount ∧ d.pool.capacity ≤ d.pool.available) := by
  unfold flush
  split
  · rename_i batch hSlot
    have hSum := sumOf_set_add (fun slot : Option LineBatch => slot.isSome.toNat) none hSlot
    obtain ⟨hLt, -⟩ := List.getElem?_eq_some_iff.mp hSlot
    simp only [Option.isSome_some, Option.isSome_none, Bool.toNat_true, Bool.toNat_false] at hSum
    have hOpen : 0 < d.openCount := by rw [openCount]; omega
    split
    · by_cases hRoom : d.pool.available < d.pool.capacity
      · have hRelease := Pool.release_of_available_lt hRoom batch
        refine ⟨0, ⟨d.pool.capacity_release batch, List.length_set, nofun, ?_, ?_⟩, .inl rfl⟩
        · simp only [hRelease, openCount, Pool.available, List.length_append,
            List.length_singleton, Option.isSome_none, Bool.toNat_false] at hSum ⊢
          omega
        · simp only [hRelease]
          exact .inl trivial
      · have hRelease : d.pool.release batch = d.pool := if_neg hRoom
        refine ⟨1, ⟨d.pool.capacity_release batch, List.length_set, nofun, ?_, ?_⟩,
          .inr ⟨hOpen, Nat.le_of_not_lt hRoom⟩⟩
        · simp only [hRelease, openCount, Option.isSome_none, Bool.toNat_false] at hSum ⊢
          omega
        · simp only [hRelease]
          exact .inl trivial
    · refine ⟨0, ⟨rfl, List.length_set, ?_, ?_, .inl rfl⟩, .inl rfl⟩
      · rintro p hDue
        cases hDue
        exact List.getElem?_set_self hLt
      · simp only [openCount, Option.isSome_some, Bool.toNat_true] at hSum ⊢
        omega
  · exact ⟨0, .refl d, .inl rfl⟩

end Dispatcher

namespace Concurrent.Scan

variable {ι : Type}

/-- Dispatch has given up. -/
def Failed (s : Scan ι) : Prop := ∃ e unread, s.phase = .returned (.error e) unread

/-- A step of dispatch by itself draws on its batches. It loses one only if it is the last step, or if
the pool has no room for an open batch. -/
theorem draws_advance [Indexer ι] {limits : DispatchLimits} {s t : Scan ι}
    (hStep : s.advance? limits = some t) :
    s.due = none ∧ ¬s.Failed ∧
      ∃ lost, s.dispatch.dispatcher.Draws t.dispatch.dispatcher t.due lost ∧
        (lost = 0 ∨ t.Failed ∨
          0 < s.dispatch.dispatcher.openCount ∧ s.pool.capacity ≤ s.pool.available) := by
  have hIdle := (dispatch_advance hStep).1
  refine ⟨hIdle, ?_, ?_⟩
  · rintro ⟨e, unread, hReturned⟩
    rw [advance_of_returned hReturned] at hStep
    cases hStep
  · rcases s with ⟨phase, due, d⟩
    obtain rfl : due = none := hIdle
    cases phase with
    | returned result unread => simp [advance?] at hStep
    | opening source =>
        simp only [advance?] at hStep
        split at hStep <;> cases hStep <;> exact ⟨0, .refl _, .inl rfl⟩
    | reading headers items =>
        cases items with
        | nil => cases hStep; exact ⟨0, .refl _, .inl rfl⟩
        | cons item items =>
            have hDraws := d.dispatcher.drawsFor_take limits.fullSize item
            simp only [advance?] at hStep
            split at hStep
            · cases hStep
              exact ⟨0, .refl _, .inl rfl⟩
            · cases hTake : d.dispatcher.take limits.fullSize item with
              | ended =>
                  rw [hTake] at hStep
                  cases hStep
                  exact ⟨0, .refl _, .inl rfl⟩
              | failed e next =>
                  rw [hTake] at hStep hDraws
                  cases hStep
                  obtain ⟨lost, hDraws⟩ := hDraws
                  exact ⟨lost, hDraws, .inr (.inl ⟨e, items, rfl⟩)⟩
              | kept next =>
                  rw [hTake] at hStep hDraws
                  cases hStep
                  exact ⟨0, hDraws, .inl rfl⟩
              | full p next =>
                  rw [hTake] at hStep hDraws
                  cases hStep
                  exact ⟨0, hDraws, .inl rfl⟩
    | flushing headers limitReached unread channels =>
        cases channels with
        | nil => cases hStep; exact ⟨0, .refl _, .inl rfl⟩
        | cons channel channels =>
            cases hStep
            obtain ⟨lost, hDraws, hLost⟩ := d.dispatcher.draws_flush channel
            exact ⟨lost, hDraws, hLost.imp id .inr⟩

end Concurrent.Scan
end BulkLoad
