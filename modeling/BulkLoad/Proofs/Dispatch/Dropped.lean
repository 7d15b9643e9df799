import BulkLoad.Proofs.Dispatch.Partition
import BulkLoad.Proofs.Dispatch.Stock
import BulkLoad.Proofs.Dispatch.Turn

/-!
What becomes of the batches that dispatch takes from the pool.

A run that ends well has sent every batch that it took. A run that fails puts none back: it drops the
batches that are open, and the one in its hands if that is what it failed with. An open batch always
holds a point, so none is ever found that could be put back unsent.
-/
namespace BulkLoad

/-- The batches that dispatch has in its hands when it fails: one that refuses a point, or that a
closed channel does not take. -/
def DispatchError.inHand : DispatchError → Nat
  | .append _ _ => 1
  | .channelClosed _ => 1
  | _ => 0

namespace Dispatcher

variable {ι : Type} {d next : Dispatcher ι} {size : Nat}

/-- Every open batch holds a point. -/
def Filled (d : Dispatcher ι) : Prop := ∀ batch, some batch ∈ d.slots → batch.isEmpty = false

theorem filled_set (hFilled : d.Filled) (pool : Pool LineBatch) (channel points : Nat)
    {new : Option LineBatch} (hNew : ∀ batch, new = some batch → batch.isEmpty = false) :
    { d with pool, slots := d.slots.set channel new, points }.Filled := by
  intro batch hBatch
  rcases List.mem_or_eq_of_mem_set hBatch with hBefore | hHere
  · exact hFilled batch hBefore
  · exact hNew batch hHere.symm

theorem filled_place (hFilled : d.Filled) {channel : Nat} {slot : Option LineBatch} {p : Point}
    (hNext : (d.place size channel slot p).next? = some next) : next.Filled := by
  unfold place at hNext
  split at hNext
  rename_i batch pool hOpen
  cases hAppend : batch.append p with
  | error f =>
      rw [hAppend] at hNext
      cases hNext
  | ok appended =>
      have hPoints := LineBatch.points_append hAppend
      rw [hAppend] at hNext
      dsimp only at hNext
      split at hNext
      · cases hNext
        exact filled_set hFilled pool channel (d.points + 1) fun b hb => by cases hb
      · cases hNext
        refine filled_set hFilled pool channel (d.points + 1) fun b hb => ?_
        cases hb
        simp [LineBatch.isEmpty, hPoints]

theorem filled_take [Indexer ι] (hFilled : d.Filled) {item : Source.Item}
    (hNext : (d.take size item).next? = some next) : next.Filled := by
  cases item with
  | done => cases hNext
  | failed f => cases hNext
  | crashed => cases hNext
  | point p =>
      simp only [take] at hNext
      split at hNext
      · cases hNext
      · simp only [route] at hNext
        split at hNext
        · cases hNext
        · exact filled_place (d := { d with indexer := (Indexer.pick d.indexer p).2 }) hFilled hNext

/-- An item that dispatch fails with costs the batch in its hands. -/
theorem draws_of_failed [Indexer ι] {item : Source.Item} {e : DispatchError}
    (hTake : d.take size item = .failed e next) : Draws d next none e.inHand := by
  cases item with
  | done => cases hTake
  | failed f => cases hTake; exact .refl d
  | crashed => cases hTake; exact .refl d
  | point p =>
      simp only [take] at hTake
      split at hTake
      · cases hTake
      · simp only [route] at hTake
        split at hTake
        · cases hTake
          exact ⟨rfl, rfl, by simp, by simp [openCount, DispatchError.inHand], .inl rfl⟩
        · rename_i slot hSlot
          rcases hOpen : ({ d with indexer := (Indexer.pick d.indexer p).2 } : Dispatcher ι).openBatch
            slot with ⟨batch, pool⟩
          simp only [place, hOpen] at hTake
          cases hAppend : batch.append p with
          | ok appended =>
              rw [hAppend] at hTake
              dsimp only at hTake
              split at hTake <;> cases hTake
          | error f =>
              rw [hAppend] at hTake
              cases hTake
              have hDraws := @draws_slot _ { d with indexer := (Indexer.pick d.indexer p).2 } _ _
                hSlot _ _ hOpen d.points none none 1 rfl fun p hDue => by cases hDue
              exact ⟨hDraws.capacity, hDraws.slots, by simp, hDraws.conserved, hDraws.built⟩

/-- Closing a slot sends its batch, if one is open, and puts none back. -/
theorem flush_cases (hFilled : d.Filled) (channel : Nat) :
    (d.flush channel = (none, d) ∧ ∀ batch, d.slots[channel]? ≠ some (some batch)) ∨
      ∃ batch, d.slots[channel]? = some (some batch) ∧
        d.flush channel = (some ⟨channel, batch⟩, { d with slots := d.slots.set channel none }) := by
  unfold flush
  split
  · rename_i batch hSlot
    have hPoints := hFilled batch (List.mem_of_getElem? hSlot)
    rw [if_neg (by simp [hPoints])]
    exact .inr ⟨batch, hSlot, rfl⟩
  · rename_i hNone
    exact .inl ⟨rfl, hNone⟩

/-- An open batch that leaves its slot is due. -/
theorem draws_of_open {channel : Nat} {batch : LineBatch}
    (hSlot : d.slots[channel]? = some (some batch)) :
    Draws d { d with slots := d.slots.set channel none } (some ⟨channel, batch⟩) 0 :=
  draws_slot hSlot rfl d.points rfl fun p hDue => by cases hDue; exact ⟨rfl, rfl⟩

/-- Without an open batch there is nothing to count. -/
theorem openCount_eq_zero (hNone : ∀ batch, some batch ∉ d.slots) : d.openCount = 0 := by
  have hZero : ∀ slot ∈ d.slots, slot.isSome.toNat = 0 := by
    intro slot hSlot
    cases slot with
    | none => rfl
    | some batch => exact absurd hSlot (hNone batch)
  rw [openCount, sumOf_congr hZero, sumOf_zero]

end Dispatcher

namespace Dispatch

variable {ι : Type} {first : Pool LineBatch} {took : Nat} {s next : Dispatch ι}

/-- The number of batches that the channels took. -/
def delivered (s : Dispatch ι) : Nat := sumOf (fun outlet => outlet.newestFirst.length) s.outlets

theorem delivered_send {p : Parcel} (hSend : s.send p = .ok next) :
    next.delivered = s.delivered + 1 := by
  unfold send at hSend
  split at hSend
  · cases hSend
  · rename_i outlet hOutlet
    split at hSend
    · cases hSend
    · cases hSend
      have hSum := sumOf_set_add (fun outlet : Outlet => outlet.newestFirst.length)
        (outlet.push p.batch) hOutlet
      simp only [Outlet.push, List.length_cons] at hSum
      simp only [delivered, tell, Outlet.push]
      omega

/-- A batch is refused by a channel that is closed. -/
theorem inHand_of_send {p : Parcel} {e : DispatchError} (hSend : s.send p = .error e) :
    e.inHand = 1 := by
  unfold send at hSend
  split at hSend
  · cases hSend
    rfl
  · split at hSend
    · cases hSend
      rfl
    · cases hSend

/-- The batches of a dispatch that began with this pool, when so many had been taken by the channels:
each of them is idle, open or delivered, but for those that are lost. -/
structure Books (first : Pool LineBatch) (took : Nat) (s : Dispatch ι) (lost : Nat) : Prop where
  lanes : s.dispatcher.slots.length = s.outlets.length
  built : first.built ≤ s.dispatcher.pool.built
  grown : took ≤ s.delivered
  conserved : s.dispatcher.pool.built + first.available + took =
    first.built + s.dispatcher.pool.available + s.dispatcher.openCount + s.delivered + lost

theorem Books.tell (hBooks : Books first took s 0) (told : Journal) :
    Books first took (s.tell told) 0 :=
  ⟨hBooks.lanes, hBooks.built, hBooks.grown, hBooks.conserved⟩

/-- What a step draws on, and what becomes due with it, is all in the books. -/
theorem Books.draw (hBooks : Books first took s 0) {d : Dispatcher ι} {due : Option Parcel}
    {lost : Nat} (hDraws : s.dispatcher.Draws d due lost) :
    Books first took { s with dispatcher := d } (due.isSome.toNat + lost) := by
  refine ⟨hDraws.slots.trans hBooks.lanes, ?_, hBooks.grown, ?_⟩
  · have hBefore := hBooks.built
    rcases hDraws.built with hSame | ⟨hMore, -⟩
    · simp only [hSame]
      exact hBefore
    · simp only [hMore]
      omega
  · have hBefore := hBooks.conserved
    have hStep := hDraws.conserved
    simp only [delivered] at hBefore ⊢
    omega

/-- A batch that is sent is delivered. -/
theorem Books.send (hBooks : Books first took s 1) {p : Parcel} (hSend : s.send p = .ok next) :
    Books first took next 0 := by
  have hDispatcher := dispatcher_send hSend
  have hDelivered := delivered_send hSend
  have hBefore := hBooks.conserved
  have hTook := hBooks.grown
  refine ⟨?_, hDispatcher ▸ hBooks.built, by omega, ?_⟩
  · rw [hDispatcher, (outlets_send hSend).2]
    exact hBooks.lanes
  · rw [hDispatcher]
    omega

/-- One turn keeps the books, and one that fails loses what it has in its hands. -/
theorem Books.turn [Indexer ι] (hBooks : Books first took s 0) (hFilled : s.dispatcher.Filled)
    (size : Nat) (item : Source.Item) :
    match s.turn size item with
    | .ended => True
    | .failed e last => Books first took last e.inHand
    | .goesOn next => Books first took next 0 ∧ next.dispatcher.Filled := by
  have hDraws := s.dispatcher.drawsFor_take size item
  cases hTake : s.dispatcher.take size item with
  | ended => simp only [Dispatch.turn, hTake]
  | failed e d =>
      simp only [Dispatch.turn, hTake]
      simpa using hBooks.draw (Dispatcher.draws_of_failed hTake)
  | kept d =>
      rw [hTake] at hDraws
      have hNext : (s.dispatcher.take size item).next? = some d := by rw [hTake]; rfl
      simp only [Dispatch.turn, hTake]
      exact ⟨hBooks.draw hDraws, Dispatcher.filled_take hFilled hNext⟩
  | full p d =>
      rw [hTake] at hDraws
      have hNext : (s.dispatcher.take size item).next? = some d := by rw [hTake]; rfl
      have hDue := hBooks.draw hDraws
      simp only [Dispatch.turn, hTake]
      cases hSend : { s with dispatcher := d }.send p with
      | error e =>
          dsimp only
          rw [inHand_of_send hSend]
          exact hDue
      | ok next =>
          dsimp only
          refine ⟨hDue.send hSend, ?_⟩
          rw [dispatcher_send hSend]
          exact Dispatcher.filled_take hFilled hNext

/-- The batches that are in the hands of a run when it ends. -/
def inHand {α : Type} : Except DispatchError α → Nat
  | .ok _ => 0
  | .error e => e.inHand

/-- Sending what is open keeps the books. What is still open in the end was open before, in a channel
that was not to be closed. -/
theorem Books.flushAll (hBooks : Books first took s 0) (hFilled : s.dispatcher.Filled)
    (channels : List Nat) :
    Books first took (s.flushAll channels).2 (inHand (s.flushAll channels).1) ∧
      ((s.flushAll channels).1 = .ok () → ∀ (i : Nat) (batch : LineBatch),
        (s.flushAll channels).2.dispatcher.slots[i]? = some (some batch) →
          s.dispatcher.slots[i]? = some (some batch) ∧ i ∉ channels) := by
  induction channels generalizing s with
  | nil => exact ⟨hBooks, fun _ i batch hOpen => ⟨hOpen, List.not_mem_nil⟩⟩
  | cons channel channels ih =>
      rcases s.dispatcher.flush_cases hFilled channel with ⟨hFlush, hNone⟩ | ⟨batch, hSlot, hFlush⟩
      · obtain ⟨hLater, hOpen⟩ := ih hBooks hFilled
        simp only [Dispatch.flushAll, hFlush]
        refine ⟨hLater, fun hDone i batch hLeft => ?_⟩
        obtain ⟨hBefore, hOther⟩ := hOpen hDone i batch hLeft
        refine ⟨hBefore, fun hMem => ?_⟩
        rcases List.mem_cons.mp hMem with rfl | hLater
        · exact hNone batch hBefore
        · exact hOther hLater
      · have hDue := hBooks.draw (Dispatcher.draws_of_open hSlot)
        have hStill : ({ s.dispatcher with slots := s.dispatcher.slots.set channel none } :
            Dispatcher ι).Filled :=
          Dispatcher.filled_set hFilled s.dispatcher.pool channel s.dispatcher.points
            fun b hb => by cases hb
        simp only [Dispatch.flushAll, hFlush]
        cases hSend : ({ s with dispatcher := { s.dispatcher with
            slots := s.dispatcher.slots.set channel none } } : Dispatch ι).send ⟨channel, batch⟩ with
        | error e =>
            dsimp only
            rw [inHand, inHand_of_send hSend]
            exact ⟨hDue, fun hDone => by cases hDone⟩
        | ok next =>
            have hSame := dispatcher_send hSend
            obtain ⟨hLater, hOpen⟩ := ih (hDue.send hSend) (by rw [hSame]; exact hStill)
            dsimp only
            refine ⟨hLater, fun hDone i other hLeft => ?_⟩
            obtain ⟨hBefore, hOther⟩ := hOpen hDone i other hLeft
            rw [hSame] at hBefore
            dsimp only at hBefore
            have hElsewhere : channel ≠ i := by
              rintro rfl
              rw [List.getElem?_set_self (List.getElem?_eq_some_iff.mp hSlot).1] at hBefore
              cases hBefore
            rw [List.getElem?_set_ne hElsewhere] at hBefore
            exact ⟨hBefore, by simp [hElsewhere.symm, hOther]⟩

/-- A run that ends well leaves no batch open. -/
theorem Books.finish (hBooks : Books first took s 0) (hFilled : s.dispatcher.Filled)
    (headers : Option (List String)) (limitReached : Bool) (unread : List Source.Item) :
    let o := s.finish headers limitReached unread
    Books first took o.final (inHand o.result) ∧
      (∀ summary, o.result = .ok summary → o.final.dispatcher.openCount = 0) := by
  obtain ⟨hFlushed, hOpen⟩ := hBooks.flushAll hFilled (List.range s.outlets.length)
  intro o
  simp only [o, Dispatch.finish]
  rcases hFlush : s.flushAll (List.range s.outlets.length) with ⟨result, last⟩
  rw [hFlush] at hFlushed hOpen
  cases result with
  | error e => exact ⟨hFlushed, fun summary hDone => by cases hDone⟩
  | ok done =>
      refine ⟨hFlushed.tell _, fun summary _ => Dispatcher.openCount_eq_zero fun batch hBatch => ?_⟩
      obtain ⟨i, hi⟩ := List.getElem?_of_mem hBatch
      obtain ⟨hBefore, hOther⟩ := hOpen rfl i batch hi
      have hLt := (List.getElem?_eq_some_iff.mp hBefore).1
      rw [hBooks.lanes] at hLt
      exact hOther (List.mem_range.mpr hLt)

theorem Books.loop [Indexer ι] (hBooks : Books first took s 0) (hFilled : s.dispatcher.Filled)
    (limits : DispatchLimits) (headers : Option (List String)) (items : List Source.Item) :
    let o := s.loop limits headers items
    Books first took o.final (inHand o.result) ∧
      (∀ summary, o.result = .ok summary → o.final.dispatcher.openCount = 0) := by
  induction items generalizing s with
  | nil => exact hBooks.finish hFilled _ _ _
  | cons item items ih =>
      have hTurn := hBooks.turn hFilled limits.fullSize item
      rw [loop_cons]
      split
      · exact hBooks.finish hFilled _ _ _
      · cases hCase : s.turn limits.fullSize item with
        | ended => exact hBooks.finish hFilled _ _ _
        | failed e last =>
            rw [hCase] at hTurn
            exact ⟨hTurn, fun summary hDone => by cases hDone⟩
        | goesOn next =>
            rw [hCase] at hTurn
            exact ih hTurn.1 hTurn.2

theorem Books.run [Indexer ι] (x : ι) (pool : Pool LineBatch) (outlets : List Outlet)
    (limits : DispatchLimits) (source : Source.Stream) :
    let o := (start x pool outlets).run limits source
    Books pool (start x pool outlets).delivered o.final (inHand o.result) ∧
      (∀ summary, o.result = .ok summary → o.final.dispatcher.openCount = 0) := by
  have hNone : ∀ batch, some batch ∉ (start x pool outlets).dispatcher.slots := by
    simp [start, Dispatcher.start]
  have hStart : Books pool (start x pool outlets).delivered (start x pool outlets) 0 := by
    refine ⟨List.length_replicate, Nat.le_refl _, Nat.le_refl _, ?_⟩
    rw [Dispatcher.openCount_eq_zero hNone]
    rfl
  have hFilled : (start x pool outlets).dispatcher.Filled :=
    fun batch hBatch => absurd hBatch (hNone batch)
  cases hHeaders : source.headers with
  | error f =>
      simp only [Dispatch.run, hHeaders]
      exact ⟨hStart.tell source.opening, fun summary hDone => by cases hDone⟩
  | ok headers =>
      simp only [Dispatch.run, hHeaders]
      exact (hStart.tell (source.opening ++ headersTold headers)).loop hFilled limits headers
        source.items

/-- Whatever the source, the channels and the pool, the batches that a run takes are delivered or idle
when it ends, but for those that it drops: the ones that are open then, and the one in its hands. A
run that ends well drops none. So the pool has got back all that was not delivered just if nothing is
open and nothing in hand. -/
theorem batches_of_run [Indexer ι] (x : ι) (pool : Pool LineBatch) (outlets : List Outlet)
    (limits : DispatchLimits) (source : Source.Stream) :
    let s := start x pool outlets
    let o := s.run limits source
    let last := o.final.dispatcher
    let calls := last.pool.built - pool.built
    let sent := o.final.delivered - s.delivered
    let dropped := last.openCount + inHand o.result
    pool.built ≤ last.pool.built ∧ s.delivered ≤ o.final.delivered ∧
      last.pool.available + sent + dropped = pool.available + calls ∧
      (last.pool.available + sent = pool.available + calls ↔
        last.openCount = 0 ∧ inHand o.result = 0) ∧
      ∀ summary, o.result = .ok summary → dropped = 0 := by
  intro s o last calls sent dropped
  obtain ⟨hBooks, hDone⟩ := Books.run x pool outlets limits source
  have hBuilt : pool.built ≤ last.pool.built := hBooks.built
  have hTook : s.delivered ≤ o.final.delivered := hBooks.grown
  have hConserved : last.pool.built + pool.available + s.delivered =
    pool.built + last.pool.available + last.openCount + o.final.delivered + inHand o.result :=
      hBooks.conserved
  have hTotal : last.pool.available + sent + dropped = pool.available + calls := by
    simp only [sent, dropped, calls]
    omega
  refine ⟨hBuilt, hTook, hTotal, ?_, fun summary hResult => ?_⟩
  · simp only [dropped] at hTotal
    omega
  · have hNone : last.openCount = 0 := hDone summary hResult
    simp only [dropped, hNone, hResult, inHand]

/-- One point, and then the source breaks. -/
def brokenSecond : Source.Stream where
  items := [.point (Utf8.encode "cpu u=1 1"), .failed (.source "read failed at line 2" none)]

/-- The batch that holds the point is neither delivered nor idle when the run fails. -/
theorem failed_run_drops_open_batch :
    let pool : Pool LineBatch := .ofCapacity 4
    let o := (start (RoundRobin.ofChannels 1) pool [{}]).run ⟨10, none⟩ brokenSecond
    (∃ e, o.result = .error e) ∧ o.final.dispatcher.pool.built = 1 ∧ o.final.delivered = 0 ∧
      o.final.dispatcher.pool.available ≠
        pool.available + (o.final.dispatcher.pool.built - pool.built) - o.final.delivered :=
  ⟨⟨_, rfl⟩, rfl, rfl, by decide +kernel⟩

end Dispatch
end BulkLoad
