import BulkLoad.Proofs.Dispatch.Alike
import BulkLoad.Proofs.Dispatch.Turn

/-!
A limit cuts the source short.

Dispatch with a limit and dispatch without one over the first items of the same source go through the
same states: enough points are taken just where the shorter source has nothing left. The two differ in
what they say of the limit, and in nothing they do.
-/
namespace BulkLoad

/-- The source that has nothing after its first items. -/
def Source.Stream.firstItems (s : Source.Stream) (most : Nat) : Source.Stream :=
  { s with items := s.items.take most }

/-- The source with another item in one place; a place behind its end stays empty. -/
def Source.Stream.replaced (s : Source.Stream) (place : Nat) (item : Source.Item) : Source.Stream :=
  { s with items := s.items.set place item }

variable {ι : Type}

/-- A run with a limit does all that another run does, and says of the limit whether it was reached. -/
structure DispatchOutcome.Truncates (most : Nat) (limited whole : DispatchOutcome ι) : Prop where
  result : limited.result =
    whole.result.map fun d => { d with limitReached := decide (d.points = most) }
  dispatcher : limited.final.dispatcher = whole.final.dispatcher
  outlets : limited.final.outlets = whole.final.outlets
  sent : limited.final.sent = whole.final.sent
  unlimited : ∀ d, whole.result = .ok d → d.limitReached = false ∧ d.points ≤ most

namespace Dispatch

/-- One run as it relates to another that has no limit: both fail in the same state, or both come from
the same state to their end, where the first says whether it has as many points as it may. -/
inductive Limits (most : Nat) : DispatchOutcome ι → DispatchOutcome ι → Prop where
  | failed (e : DispatchError) (s : Dispatch ι) (unread unread' : List Source.Item) :
      Limits most ⟨.error e, s, unread⟩ ⟨.error e, s, unread'⟩
  | finished {s : Dispatch ι} (hWithin : s.dispatcher.points ≤ most)
      (headers : Option (List String)) (unread unread' : List Source.Item) :
      Limits most (s.finish headers (decide (s.dispatcher.points = most)) unread)
        (s.finish headers false unread')

/-- Closing a slot takes no point. -/
theorem points_flush (d : Dispatcher ι) (channel : Nat) :
    (d.flush channel).2.points = d.points := by
  unfold Dispatcher.flush
  split
  · dsimp only
    split <;> rfl
  · rfl

theorem points_flushAll (s : Dispatch ι) (channels : List Nat) :
    (s.flushAll channels).2.dispatcher.points = s.dispatcher.points := by
  induction channels generalizing s with
  | nil => rfl
  | cons channel channels ih =>
      have hPoints := points_flush s.dispatcher channel
      rw [flushAll]
      rcases hFlush : s.dispatcher.flush channel with ⟨due, d⟩
      rw [hFlush] at hPoints
      cases due with
      | none => exact (ih _).trans hPoints
      | some p =>
          dsimp only
          cases hSend : { s with dispatcher := d }.send p with
          | error e => exact hPoints
          | ok next => exact (ih next).trans (by rw [dispatcher_send hSend, ← hPoints])

theorem Limits.truncates {most : Nat} {limited whole : DispatchOutcome ι}
    (hLimits : Limits most limited whole) : limited.Truncates most whole := by
  cases hLimits with
  | failed e s unread unread' => exact ⟨rfl, rfl, rfl, rfl, fun d hOk => by cases hOk⟩
  | @finished s hWithin headers unread unread' =>
      have hPoints := points_flushAll s (List.range s.outlets.length)
      rw [finish_eq, finish_eq]
      rcases hFlush : s.flushAll (List.range s.outlets.length) with ⟨result, final⟩
      rw [hFlush] at hPoints
      change final.dispatcher.points = s.dispatcher.points at hPoints
      cases result with
      | error e => exact ⟨rfl, rfl, rfl, rfl, fun d hOk => by cases hOk⟩
      | ok u =>
          refine ⟨?_, rfl, rfl, rfl, fun d hOk => ?_⟩
          · simp [DispatchOutcome.conclude, Except.map, hPoints]
          · cases hOk
            exact ⟨rfl, hPoints ▸ hWithin⟩

variable [Indexer ι]

section

variable {most : Nat} {s : Dispatch ι}

omit [Indexer ι] in
theorem reached_eq (hWithin : s.dispatcher.points ≤ most) (size : Nat) :
    DispatchLimits.reached ⟨size, some most⟩ s.dispatcher.points =
      decide (s.dispatcher.points = most) := by
  simp only [DispatchLimits.reached, Option.any_some]
  exact decide_eq_decide.mpr ⟨Nat.le_antisymm hWithin, Nat.le_of_eq ∘ Eq.symm⟩

/-- From any state within the limit, the loop with the limit does what the loop without one does over
as many items as there are points missing. -/
theorem limits_loop (hWithin : s.dispatcher.points ≤ most) (size : Nat)
    (headers : Option (List String)) (items : List Source.Item) :
    Limits most (s.loop ⟨size, some most⟩ headers items)
      (s.loop ⟨size, none⟩ headers (items.take (most - s.dispatcher.points))) := by
  induction items generalizing s with
  | nil =>
      rw [List.take_nil, loop, reached_eq hWithin]
      exact .finished hWithin ..
  | cons item items ih =>
      have hReached := reached_eq hWithin size
      by_cases hFull : s.dispatcher.points = most
      · have hFinished := Limits.finished hWithin headers (item :: items) []
        rw [decide_eq_true hFull] at hFinished hReached
        rw [loop_cons, hReached, if_pos rfl, hFull, Nat.sub_self, List.take_zero]
        exact hFinished
      · have hOne : most - s.dispatcher.points = (most - (s.dispatcher.points + 1)) + 1 := by omega
        have hNever : DispatchLimits.reached ⟨size, none⟩ s.dispatcher.points = false := rfl
        have hSize : DispatchLimits.fullSize ⟨size, some most⟩ =
            DispatchLimits.fullSize ⟨size, none⟩ := rfl
        rw [decide_eq_false hFull] at hReached
        rw [hOne, List.take_succ_cons, loop_cons, loop_cons]
        simp only [hReached, hNever, hSize, Bool.false_eq_true, if_false]
        cases hTurn : s.turn (DispatchLimits.fullSize ⟨size, none⟩) item with
        | goesOn next =>
            have hPoints := points_turn hTurn
            dsimp only
            rw [← hPoints]
            exact ih (by omega)
        | ended =>
            have hFinished := Limits.finished hWithin headers items
              (items.take (most - (s.dispatcher.points + 1)))
            rwa [decide_eq_false hFull] at hFinished
        | failed e last => exact .failed ..

/-- No more is asked for than there are points missing. -/
theorem requests_le (hWithin : s.dispatcher.points ≤ most) (size : Nat)
    (items : List Source.Item) :
    s.requests ⟨size, some most⟩ items ≤ most - s.dispatcher.points := by
  induction items generalizing s with
  | nil =>
      rw [requests, reached_eq hWithin]
      split
      · exact Nat.zero_le _
      · rename_i hFull
        rw [decide_eq_true_iff] at hFull
        omega
  | cons item items ih =>
      rw [requests, reached_eq hWithin]
      split
      · exact Nat.zero_le _
      · rename_i hFull
        rw [decide_eq_true_iff] at hFull
        cases hTurn : s.turn (DispatchLimits.fullSize ⟨size, some most⟩) item with
        | goesOn next =>
            have hPoints := points_turn hTurn
            have hLater := ih (s := next) (by omega)
            dsimp only
            omega
        | ended =>
            dsimp only
            omega
        | failed e last =>
            dsimp only
            omega

end

/-- Dispatch with a limit gives what dispatch without one gives over the first items of the source,
with the same batches in every channel and the same pool, and says whether it dispatched as many
points as it may. It asks for no more points than that, so that what stands behind has no effect. -/
theorem limit_truncates (x : ι) (pool : Pool LineBatch) (outlets : List Outlet) (size most : Nat)
    (source : Source.Stream) :
    let s := start x pool outlets
    let limited := s.run ⟨size, some most⟩ source
    limited.Truncates most (s.run ⟨size, none⟩ (source.firstItems most)) ∧
      s.runRequests ⟨size, some most⟩ source ≤ most ∧
      limited.unread = source.items.drop (s.runRequests ⟨size, some most⟩ source) ∧
      ∀ (later : Nat) (item : Source.Item),
        let other := s.run ⟨size, some most⟩ (source.replaced (most + later) item)
        other.result = limited.result ∧ other.final = limited.final := by
  intro s limited
  have hNone : s.dispatcher.points = 0 := rfl
  have hRequests : s.runRequests ⟨size, some most⟩ source ≤ most := by
    unfold runRequests
    split
    · exact Nat.zero_le _
    · exact requests_le (Nat.zero_le most) ..
  refine ⟨?_, hRequests, unread_run .., fun later item => ?_⟩
  · apply Limits.truncates
    simp only [limited, run, Source.Stream.firstItems]
    cases source.headers with
    | error f => exact .failed ..
    | ok headers => exact limits_loop (Nat.zero_le most) ..
  · have hSame : (source.items.set (most + later) item).take
        (s.runRequests ⟨size, some most⟩ source) =
        source.items.take (s.runRequests ⟨size, some most⟩ source) :=
      List.take_set_of_le (Nat.le_trans hRequests (Nat.le_add_right ..))
    have hOther := run_of_take_requests ⟨size, some most⟩ hSame
    change s.run ⟨size, some most⟩ (source.replaced (most + later) item) = _ at hOther
    rw [hOther]
    exact ⟨rfl, rfl⟩

end Dispatch
end BulkLoad
