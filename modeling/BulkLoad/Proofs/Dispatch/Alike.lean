import BulkLoad.Proofs.Dispatch.Steps

/-!
Dispatch does not depend on its pool.

While others put batches back, the pool of dispatch changes under its hands. All that dispatch sees of
a pool is an empty batch, so dispatchers that differ in their pools alone go on alike.
-/
namespace BulkLoad

variable {ι : Type}

/-- Two dispatchers that differ in their pools at most. -/
structure Dispatcher.Alike (d e : Dispatcher ι) : Prop where
  clean : d.pool.Clean
  clean' : e.pool.Clean
  indexer : d.indexer = e.indexer
  slots : d.slots = e.slots
  points : d.points = e.points

/-- What became of one item for two such dispatchers. -/
inductive Taken.Alike : Taken ι → Taken ι → Prop where
  | ended : Alike .ended .ended
  | failed (e : DispatchError) {d d' : Dispatcher ι} (hAlike : d.Alike d') :
      Alike (.failed e d) (.failed e d')
  | kept {d d' : Dispatcher ι} (hAlike : d.Alike d') : Alike (.kept d) (.kept d')
  | full (p : Parcel) {d d' : Dispatcher ι} (hAlike : d.Alike d') : Alike (.full p d) (.full p d')

namespace Dispatcher.Alike

variable {d e : Dispatcher ι} {size : Nat}

theorem refl (hClean : d.pool.Clean) : d.Alike d := ⟨hClean, hClean, rfl, rfl, rfl⟩

theorem trans {f : Dispatcher ι} (hLeft : d.Alike e) (hRight : e.Alike f) : d.Alike f :=
  ⟨hLeft.clean, hRight.clean', hLeft.indexer.trans hRight.indexer, hLeft.slots.trans hRight.slots,
    hLeft.points.trans hRight.points⟩

theorem openBatch (hAlike : d.Alike e) (slot : Option LineBatch) :
    (d.openBatch slot).1 = (e.openBatch slot).1 ∧ (d.openBatch slot).2.Clean ∧
      (e.openBatch slot).2.Clean := by
  cases slot with
  | some b => exact ⟨rfl, hAlike.clean, hAlike.clean'⟩
  | none =>
      obtain ⟨hBatch, hClean⟩ := hAlike.clean.acquire
      obtain ⟨hBatch', hClean'⟩ := hAlike.clean'.acquire
      exact ⟨hBatch.trans hBatch'.symm, hClean, hClean'⟩

theorem place (hAlike : d.Alike e) (channel : Nat) (slot : Option LineBatch) (p : Point) :
    (d.place size channel slot p).Alike (e.place size channel slot p) := by
  obtain ⟨hBatch, hClean, hClean'⟩ := hAlike.openBatch slot
  rcases hOpen : d.openBatch slot with ⟨b, pool⟩
  rcases hOpen' : e.openBatch slot with ⟨b', pool'⟩
  rw [hOpen] at hBatch hClean
  rw [hOpen'] at hBatch hClean'
  obtain rfl : b = b' := hBatch
  simp only [Dispatcher.place, hOpen, hOpen', ← hAlike.slots, ← hAlike.points]
  cases b.append p with
  | error f => exact .failed _ ⟨hClean, hClean', hAlike.indexer, rfl, rfl⟩
  | ok b =>
      dsimp only
      split
      · exact .full _ ⟨hClean, hClean', hAlike.indexer, rfl, rfl⟩
      · exact .kept ⟨hClean, hClean', hAlike.indexer, rfl, rfl⟩

theorem take [Indexer ι] (hAlike : d.Alike e) (size : Nat) (item : Source.Item) :
    (d.take size item).Alike (e.take size item) := by
  cases item with
  | done => exact .ended
  | failed f =>
      simp only [Dispatcher.take, hAlike.points]
      exact .failed _ hAlike
  | crashed => exact .failed _ hAlike
  | point p =>
      have hMoved : { d with indexer := (Indexer.pick d.indexer p).2 }.Alike
          { e with indexer := (Indexer.pick d.indexer p).2 } :=
        ⟨hAlike.clean, hAlike.clean', rfl, hAlike.slots, hAlike.points⟩
      simp only [Dispatcher.take, Dispatcher.route, Dispatcher.channels, ← hAlike.indexer]
      split
      · exact .ended
      · have hSlot : e.slots[(Indexer.pick d.indexer p).1]? =
            d.slots[(Indexer.pick d.indexer p).1]? := by rw [hAlike.slots]
        rw [hSlot]
        cases d.slots[(Indexer.pick d.indexer p).1]? with
        | none =>
            dsimp only
            rw [hAlike.slots]
            exact .failed _ ⟨hAlike.clean, hAlike.clean', rfl, rfl, hAlike.points⟩
        | some slot => exact hMoved.place _ slot p

theorem flush (hAlike : d.Alike e) (channel : Nat) :
    (d.flush channel).1 = (e.flush channel).1 ∧ (d.flush channel).2.Alike (e.flush channel).2 := by
  simp only [Dispatcher.flush, ← hAlike.slots]
  cases d.slots[channel]? with
  | none => exact ⟨rfl, hAlike⟩
  | some slot =>
      cases slot with
      | none => exact ⟨rfl, hAlike⟩
      | some b =>
          dsimp only
          split
          · exact ⟨rfl, hAlike.clean.release b, hAlike.clean'.release b, hAlike.indexer, rfl,
              hAlike.points⟩
          · exact ⟨rfl, hAlike.clean, hAlike.clean', hAlike.indexer, rfl, hAlike.points⟩

end Dispatcher.Alike

/-- No step puts anything into the pool but empty batches. -/
theorem Dispatcher.clean_take [Indexer ι] {d d' : Dispatcher ι} {size : Nat} {item : Source.Item}
    (hClean : d.pool.Clean)
    (hTake : (∃ e, d.take size item = .failed e d') ∨ d.take size item = .kept d' ∨
      ∃ p, d.take size item = .full p d') : d'.pool.Clean := by
  have hAlike := (Alike.refl hClean).take size item
  rcases hTake with ⟨e, hTake⟩ | hTake | ⟨p, hTake⟩ <;> rw [hTake] at hAlike
  · cases hAlike with
    | failed e hAlike => exact hAlike.clean
  · cases hAlike with
    | kept hAlike => exact hAlike.clean
  · cases hAlike with
    | full p hAlike => exact hAlike.clean

/-- Two runs of dispatch between the same steps, over pools of their own. -/
structure Dispatch.Alike (s t : Dispatch ι) : Prop where
  dispatcher : s.dispatcher.Alike t.dispatcher
  outlets : s.outlets = t.outlets
  sent : s.sent = t.sent
  told : s.toldNewestFirst = t.toldNewestFirst

structure DispatchOutcome.Alike (o o' : DispatchOutcome ι) : Prop where
  result : o.result = o'.result
  final : o.final.Alike o'.final
  unread : o.unread = o'.unread

/-- What dispatch comes to when its open batches were sent, or one of them could not be. -/
def DispatchOutcome.conclude (flushed : Except DispatchError Unit × Dispatch ι)
    (headers : Option (List String)) (limitReached : Bool) (unread : List Source.Item) :
    DispatchOutcome ι :=
  match flushed with
  | (.error e, s) => ⟨.error e, s, unread⟩
  | (.ok (), s) =>
    ⟨.ok ⟨s.dispatcher.points, s.sent, headers, limitReached⟩, s.tell [s.finished limitReached],
      unread⟩

theorem Dispatch.finish_eq (s : Dispatch ι) (headers : Option (List String)) (limitReached : Bool)
    (unread : List Source.Item) : s.finish headers limitReached unread =
      .conclude (s.flushAll (List.range s.outlets.length)) headers limitReached unread := rfl

theorem Dispatch.Alike.tell {s t : Dispatch ι} (hAlike : s.Alike t) (told : Journal) :
    (s.tell told).Alike (t.tell told) :=
  ⟨hAlike.dispatcher, hAlike.outlets, hAlike.sent, by simp only [Dispatch.tell, hAlike.told]⟩

theorem DispatchOutcome.Alike.conclude {flushed flushed' : Except DispatchError Unit × Dispatch ι}
    (hResult : flushed.1 = flushed'.1) (hFinal : flushed.2.Alike flushed'.2)
    (headers : Option (List String)) (limitReached : Bool) (unread : List Source.Item) :
    (DispatchOutcome.conclude flushed headers limitReached unread).Alike
      (.conclude flushed' headers limitReached unread) := by
  rcases flushed with ⟨result, s⟩
  rcases flushed' with ⟨result', t⟩
  obtain rfl : result = result' := hResult
  change s.Alike t at hFinal
  cases result with
  | error e => exact ⟨rfl, hFinal, rfl⟩
  | ok u =>
      have hTold : s.finished limitReached = t.finished limitReached := by
        simp only [Dispatch.finished, hFinal.dispatcher.points, hFinal.sent]
      simp only [DispatchOutcome.conclude]
      rw [hTold, hFinal.dispatcher.points, hFinal.sent]
      exact ⟨rfl, hFinal.tell _, rfl⟩

theorem DispatchOutcome.Alike.trans {o o' o'' : DispatchOutcome ι} (hLeft : o.Alike o')
    (hRight : o'.Alike o'') : o.Alike o'' :=
  ⟨hLeft.result.trans hRight.result,
    ⟨hLeft.final.dispatcher.trans hRight.final.dispatcher,
      hLeft.final.outlets.trans hRight.final.outlets, hLeft.final.sent.trans hRight.final.sent,
      hLeft.final.told.trans hRight.final.told⟩,
    hLeft.unread.trans hRight.unread⟩

namespace Dispatch.Alike

variable {s t : Dispatch ι}

theorem refl (hClean : s.dispatcher.pool.Clean) : s.Alike s := ⟨.refl hClean, rfl, rfl, rfl⟩

theorem withDispatcher (hAlike : s.Alike t) {d e : Dispatcher ι} (hDispatcher : d.Alike e) :
    { s with dispatcher := d }.Alike { t with dispatcher := e } :=
  ⟨hDispatcher, hAlike.outlets, hAlike.sent, hAlike.told⟩

/-- Either both hand a batch over or both fail alike. -/
theorem send (hAlike : s.Alike t) (p : Parcel) :
    (∃ e, s.send p = .error e ∧ t.send p = .error e) ∨
      ∃ s' t', s.send p = .ok s' ∧ t.send p = .ok t' ∧ s'.Alike t' := by
  simp only [Dispatch.send, ← hAlike.outlets, ← hAlike.sent, ← hAlike.dispatcher.points]
  cases s.outlets[p.channel]? with
  | none => exact .inl ⟨_, rfl, rfl⟩
  | some outlet =>
      dsimp only
      split
      · exact .inl ⟨_, rfl, rfl⟩
      · refine .inr ⟨_, _, rfl, rfl, Alike.tell ?_ _⟩
        exact ⟨hAlike.dispatcher, rfl, rfl, hAlike.told⟩

theorem flushAll (hAlike : s.Alike t) (channels : List Nat) :
    (s.flushAll channels).1 = (t.flushAll channels).1 ∧
      (s.flushAll channels).2.Alike (t.flushAll channels).2 := by
  induction channels generalizing s t with
  | nil => exact ⟨rfl, hAlike⟩
  | cons channel channels ih =>
      obtain ⟨hDue, hFlushed⟩ := hAlike.dispatcher.flush channel
      rcases hLeft : s.dispatcher.flush channel with ⟨due, d⟩
      rcases hRight : t.dispatcher.flush channel with ⟨due', e⟩
      rw [hLeft, hRight] at hDue hFlushed
      obtain rfl : due = due' := hDue
      have hMoved := hAlike.withDispatcher hFlushed
      cases due with
      | none =>
          simp only [Dispatch.flushAll, hLeft, hRight]
          exact ih hMoved
      | some p =>
          simp only [Dispatch.flushAll, hLeft, hRight]
          rcases hMoved.send p with ⟨e, hFails, hFails'⟩ | ⟨s', t', hSends, hSends', hSent⟩
          · simp only [hFails, hFails']
            exact ⟨trivial, hMoved⟩
          · simp only [hSends, hSends']
            exact ih hSent

theorem finish (hAlike : s.Alike t) (headers : Option (List String)) (limitReached : Bool)
    (unread : List Source.Item) :
    (s.finish headers limitReached unread).Alike (t.finish headers limitReached unread) := by
  obtain ⟨hResult, hFinal⟩ := hAlike.flushAll (List.range s.outlets.length)
  rw [Dispatch.finish_eq, Dispatch.finish_eq, ← hAlike.outlets]
  exact .conclude hResult hFinal headers limitReached unread

theorem loop [Indexer ι] (hAlike : s.Alike t) (limits : DispatchLimits)
    (headers : Option (List String)) (items : List Source.Item) :
    (s.loop limits headers items).Alike (t.loop limits headers items) := by
  induction items generalizing s t with
  | nil =>
      simp only [Dispatch.loop, hAlike.dispatcher.points]
      exact hAlike.finish headers _ []
  | cons item items ih =>
      simp only [Dispatch.loop, ← hAlike.dispatcher.points]
      split
      · exact hAlike.finish headers true (item :: items)
      · have hTaken := hAlike.dispatcher.take limits.fullSize item
        revert hTaken
        generalize s.dispatcher.take limits.fullSize item = taken
        generalize t.dispatcher.take limits.fullSize item = taken'
        intro hTaken
        cases hTaken with
        | ended => exact hAlike.finish headers false items
        | failed e hMoved => exact ⟨rfl, hAlike.withDispatcher hMoved, rfl⟩
        | kept hMoved => exact ih (hAlike.withDispatcher hMoved)
        | full p hMoved =>
            have hNext := hAlike.withDispatcher hMoved
            rcases hNext.send p with ⟨e, hFails, hFails'⟩ | ⟨s', t', hSends, hSends', hSent⟩
            · simp only [hFails, hFails']
              exact ⟨rfl, hNext, rfl⟩
            · simp only [hSends, hSends']
              exact ih hSent

theorem run [Indexer ι] (hAlike : s.Alike t) (limits : DispatchLimits) (source : Source.Stream) :
    (s.run limits source).Alike (t.run limits source) := by
  unfold Dispatch.run
  cases source.headers with
  | error f => exact ⟨rfl, hAlike.tell _, rfl⟩
  | ok headers => exact (hAlike.tell _).loop limits headers source.items

end Dispatch.Alike
end BulkLoad
