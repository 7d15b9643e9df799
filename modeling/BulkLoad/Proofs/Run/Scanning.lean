import BulkLoad.Proofs.Dispatch.Alike
import BulkLoad.Proofs.Dispatch.Partition
import BulkLoad.Proofs.Run.Concurrent

/-!
Dispatch among the workers does what dispatch does alone.

What is left of dispatch at some point is what it would come to if it went on by itself from there,
over channels that take every batch at once. No step changes that, however long dispatch waited
before it, except the one in which a channel is found closed.
-/
namespace BulkLoad

namespace Concurrent.Scan

variable {ι : Type} [Indexer ι] {limits : DispatchLimits} {s t : Scan ι}

/-- What dispatch comes to from a phase on if no channel makes it wait. -/
def resume (limits : DispatchLimits) (phase : Phase) (d : Dispatch ι) : DispatchOutcome ι :=
  match phase with
  | .opening source => d.run limits source
  | .reading headers items => d.loop limits headers items
  | .flushing headers limitReached unread channels =>
    .conclude (d.flushAll channels) headers limitReached unread
  | .returned result unread => ⟨result, d, unread⟩

/-- What dispatch comes to from here on, the batch included with which it waits. -/
def rest (limits : DispatchLimits) (s : Scan ι) : DispatchOutcome ι :=
  match s.due with
  | none => resume limits s.phase s.dispatch
  | some p =>
    match s.dispatch.send p with
    | .ok d => resume limits s.phase d
    | .error e => ⟨.error e, s.dispatch, s.unread⟩

theorem advance_of_returned {result : Except DispatchError DispatchSummary}
    {unread : List Source.Item} (hReturned : s.phase = .returned result unread) :
    s.advance? limits = none := by
  rcases s with ⟨phase, due, d⟩
  obtain rfl : phase = .returned result unread := hReturned
  cases due <;> rfl

theorem rest_of_returned {result : Except DispatchError DispatchSummary}
    {unread : List Source.Item} (hReturned : s.phase = .returned result unread)
    (hIdle : s.due = none) : s.rest limits = ⟨result, s.dispatch, unread⟩ := by
  simp only [rest, hIdle, hReturned, resume]

theorem rest_advance (hStep : s.advance? limits = some t) : t.rest limits = s.rest limits := by
  rcases s with ⟨phase, due, d⟩
  cases due with
  | some p => simp [advance?] at hStep
  | none =>
      cases phase with
      | returned result unread => simp [advance?] at hStep
      | opening source =>
          simp only [advance?] at hStep
          cases hHeaders : source.headers with
          | error f =>
              rw [hHeaders] at hStep
              cases hStep
              simp only [rest, resume, Dispatch.run, hHeaders]
          | ok headers =>
              rw [hHeaders] at hStep
              cases hStep
              simp only [rest, resume, Dispatch.run, hHeaders]
      | reading headers items =>
          cases items with
          | nil => cases hStep; rfl
          | cons item items =>
              simp only [advance?] at hStep
              split at hStep
              · rename_i hReached
                cases hStep
                simp only [rest, resume, Dispatch.loop, hReached, if_true]
                rfl
              · rename_i hOpen
                have hRest : rest limits ⟨.reading headers (item :: items), none, d⟩ =
                    Dispatch.loop limits headers d (item :: items) := rfl
                rw [hRest, Dispatch.loop, if_neg hOpen]
                cases hTake : d.dispatcher.take limits.fullSize item with
                | ended =>
                    rw [hTake] at hStep
                    cases hStep
                    rfl
                | failed e next =>
                    rw [hTake] at hStep
                    cases hStep
                    rfl
                | kept next =>
                    rw [hTake] at hStep
                    cases hStep
                    rfl
                | full p next =>
                    rw [hTake] at hStep
                    cases hStep
                    rfl
      | flushing headers limitReached unread channels =>
          cases channels with
          | nil => cases hStep; rfl
          | cons channel channels =>
              simp only [advance?] at hStep
              rcases hFlush : d.dispatcher.flush channel with ⟨due, next⟩
              rw [hFlush] at hStep
              cases hStep
              cases due with
              | none => simp only [rest, resume, Dispatch.flushAll, hFlush, withDispatcher]
              | some p =>
                  simp only [rest, resume, Dispatch.flushAll, hFlush, withDispatcher]
                  cases Dispatch.send { d with dispatcher := next } p with
                  | ok sent => rfl
                  | error e => rfl

/-- A batch that is handed over is the batch that was due. -/
theorem rest_deliver {p : Parcel} {next : Dispatch ι} (hDue : s.due = some p)
    (hSend : s.dispatch.send p = .ok next) :
    { s with due := none, dispatch := next }.rest limits = s.rest limits := by
  simp only [rest, hDue, hSend]

theorem alike_resume {d e : Dispatch ι} (hAlike : d.Alike e) (limits : DispatchLimits)
    (phase : Phase) : (resume limits phase d).Alike (resume limits phase e) := by
  cases phase with
  | opening source => exact hAlike.run limits source
  | reading headers items => exact hAlike.loop limits headers items
  | returned result unread => exact ⟨rfl, hAlike, rfl⟩
  | flushing headers limitReached unread channels =>
      obtain ⟨hResult, hFinal⟩ := hAlike.flushAll channels
      exact .conclude hResult hFinal headers limitReached unread

/-- It does not matter what lies in the pool. -/
theorem alike_rest_withPool (hClean : s.pool.Clean) {pool : Pool LineBatch} (hPool : pool.Clean) :
    ((s.withPool pool).rest limits).Alike (s.rest limits) := by
  have hAlike : (s.withPool pool).dispatch.Alike s.dispatch :=
    ⟨⟨hPool, hClean, rfl, rfl, rfl⟩, rfl, rfl, rfl⟩
  have hDue : (s.withPool pool).due = s.due := rfl
  unfold rest
  rw [hDue]
  cases s.due with
  | none => exact alike_resume hAlike limits s.phase
  | some p =>
      rcases hAlike.send p with ⟨e, hFails, hFails'⟩ | ⟨d, d', hSends, hSends', hSent⟩
      · simp only [hFails, hFails']
        exact ⟨rfl, hAlike, rfl⟩
      · simp only [hSends, hSends']
        exact alike_resume hSent limits s.phase

/-- A step of dispatch by itself is no delivery: it changes what is open and what was told. When
dispatch returns it waits for nothing. -/
theorem dispatch_advance (hStep : s.advance? limits = some t) :
    s.due = none ∧ (t.due = none ∨ ∀ result unread, t.phase ≠ .returned result unread) ∧
      ∃ (d : Dispatcher ι) (told : Journal),
        t.dispatch = { s.dispatch with dispatcher := d }.tell told ∧
          (s.pool.Clean → d.pool.Clean) := by
  rcases s with ⟨phase, due, d⟩
  cases due with
  | some p => simp [advance?] at hStep
  | none =>
      refine ⟨rfl, ?_⟩
      cases phase with
      | returned result unread => simp [advance?] at hStep
      | opening source =>
          simp only [advance?] at hStep
          split at hStep <;> cases hStep <;> exact ⟨.inl rfl, d.dispatcher, _, rfl, id⟩
      | reading headers items =>
          cases items with
          | nil => cases hStep; exact ⟨.inl rfl, d.dispatcher, [], rfl, id⟩
          | cons item items =>
              simp only [advance?] at hStep
              split at hStep
              · cases hStep
                exact ⟨.inl rfl, d.dispatcher, [], rfl, id⟩
              · split at hStep <;> rename_i hTake <;> cases hStep
                · exact ⟨.inl rfl, d.dispatcher, [], rfl, id⟩
                · refine ⟨.inl rfl, _, [], rfl, fun hClean => ?_⟩
                  exact Dispatcher.clean_take hClean (.inl ⟨_, hTake⟩)
                · refine ⟨.inl rfl, _, [], rfl, fun hClean => ?_⟩
                  exact Dispatcher.clean_take hClean (.inr (.inl hTake))
                · refine ⟨.inr (fun _ _ => nofun), _, [], rfl, fun hClean => ?_⟩
                  exact Dispatcher.clean_take hClean (.inr (.inr ⟨_, hTake⟩))
      | flushing headers limitReached unread channels =>
          cases channels with
          | nil => cases hStep; exact ⟨.inl rfl, d.dispatcher, _, rfl, id⟩
          | cons channel channels =>
              cases hStep
              refine ⟨.inr (fun _ _ => nofun), _, [], rfl, fun hClean => ?_⟩
              exact ((Dispatcher.Alike.refl hClean).flush channel).2.clean

theorem outlets_advance (hStep : s.advance? limits = some t) :
    t.dispatch.outlets = s.dispatch.outlets := by
  obtain ⟨-, -, d, told, hDispatch, -⟩ := dispatch_advance hStep
  rw [hDispatch]
  rfl

/-- How many steps dispatch has before it at most, those not counted in which it is not by itself. -/
def toGo (s : Scan ι) : Nat :=
  match s.phase with
  | .opening source => source.items.length + s.dispatch.outlets.length + 3
  | .reading _ items => items.length + s.dispatch.outlets.length + 2
  | .flushing _ _ _ channels => channels.length + 1
  | .returned _ _ => 0

/-- Dispatch that waits for nothing goes on until it returns, and it comes nearer to its return. -/
theorem goesOn (limits : DispatchLimits) (hIdle : s.due = none) :
    (∃ result unread, s.phase = .returned result unread) ∨
      ∃ t, s.advance? limits = some t ∧ t.toGo < s.toGo := by
  rcases s with ⟨phase, due, d⟩
  obtain rfl : due = none := hIdle
  cases phase with
  | returned result unread => exact .inl ⟨result, unread, rfl⟩
  | opening source =>
      right
      simp only [advance?]
      cases source.headers with
      | error f => exact ⟨_, rfl, Nat.succ_pos _⟩
      | ok headers => exact ⟨_, rfl, Nat.lt_succ_self _⟩
  | reading headers items =>
      right
      have hFlush (lines : List Source.Item) : (List.range d.outlets.length).length + 1 <
          lines.length + d.outlets.length + 2 := by
        rw [List.length_range]
        omega
      cases items with
      | nil => exact ⟨_, rfl, hFlush []⟩
      | cons item items =>
          have hNext : items.length + d.outlets.length + 2 <
              (item :: items).length + d.outlets.length + 2 := by
            rw [List.length_cons]
            omega
          simp only [advance?]
          split
          · exact ⟨_, rfl, hFlush _⟩
          · cases d.dispatcher.take limits.fullSize item with
            | ended => exact ⟨_, rfl, hFlush _⟩
            | failed e next => exact ⟨_, rfl, Nat.succ_pos _⟩
            | kept next => exact ⟨_, rfl, hNext⟩
            | full p next => exact ⟨_, rfl, hNext⟩
  | flushing headers limitReached unread channels =>
      right
      cases channels with
      | nil => exact ⟨_, rfl, Nat.succ_pos _⟩
      | cons channel channels =>
          simp only [advance?]
          exact ⟨_, rfl, Nat.lt_succ_self _⟩

/-- Each step of dispatch by itself brings it nearer to its return. -/
theorem toGo_advance (hStep : s.advance? limits = some t) : t.toGo < s.toGo := by
  rcases s.goesOn limits (dispatch_advance hStep).1 with ⟨result, unread, hReturned⟩ |
    ⟨next, hNext, hLess⟩
  · rw [advance_of_returned hReturned] at hStep
    cases hStep
  · rw [hStep] at hNext
    cases hNext
    exact hLess

omit [Indexer ι] in
theorem toGo_deliver {p : Parcel} {next : Dispatch ι} (hSend : s.dispatch.send p = .ok next) :
    { s with due := none, dispatch := next }.toGo = s.toGo := by
  simp only [toGo, (Dispatch.outlets_send hSend).2]

/-- A batch that is due only adds to what its channel took. -/
theorem received_rest_of_due {p : Parcel} (hDue : s.due = some p) {channel : Nat}
    (hNext : ∀ next, s.dispatch.send p = .ok next → next.receivedOn channel <+:
      ({ s with due := none, dispatch := next }.rest limits).final.receivedOn channel) :
    s.dispatch.receivedOn channel <+: (s.rest limits).final.receivedOn channel := by
  cases hSend : s.dispatch.send p with
  | error e => simp only [rest, hDue, hSend, List.prefix_rfl]
  | ok next =>
      have hRest := hNext next hSend
      rw [rest_deliver hDue hSend] at hRest
      refine .trans ?_ hRest
      rw [Dispatch.receivedOn_send hSend]
      split
      · exact List.prefix_append _ _
      · exact List.prefix_rfl

/-- What a channel took so far are the first of the batches that it comes to. -/
theorem received_rest (limits : DispatchLimits) (hIdle : s.due = none) (channel : Nat) :
    s.dispatch.receivedOn channel <+: (s.rest limits).final.receivedOn channel := by
  induction hToGo : s.toGo using Nat.strongRecOn generalizing s with
  | ind toGo ih =>
      subst hToGo
      rcases s.goesOn limits hIdle with ⟨result, unread, hReturned⟩ | ⟨t, hAdvance, hLess⟩
      · simp only [rest_of_returned hReturned hIdle, List.prefix_rfl]
      · have hSame : t.dispatch.receivedOn channel = s.dispatch.receivedOn channel := by
          rw [Dispatch.receivedOn, outlets_advance hAdvance, Dispatch.receivedOn]
        rw [← rest_advance hAdvance, ← hSame]
        cases hDue : t.due with
        | none => exact ih _ hLess hDue rfl
        | some p =>
            exact received_rest_of_due hDue fun next hSend =>
              ih _ ((toGo_deliver hSend).symm ▸ hLess) rfl rfl

/-- The same holds while a batch is due. -/
theorem received_prefix_rest (limits : DispatchLimits) (s : Scan ι) (channel : Nat) :
    s.dispatch.receivedOn channel <+: (s.rest limits).final.receivedOn channel := by
  cases hDue : s.due with
  | none => exact received_rest limits hDue channel
  | some p =>
      refine received_rest_of_due hDue fun next _ => ?_
      exact received_rest (s := { s with due := none, dispatch := next }) limits rfl channel

end Concurrent.Scan
end BulkLoad
