import BulkLoad.Proofs.Dispatch.Steps

/-!
One turn of the loop of dispatch.

A turn takes one item and sends the batch that the item fills, if it fills one. The loop is turn after
turn until one of them does not go on, so what it asks of the source can be counted in turns.
-/
namespace BulkLoad

variable {ι : Type}

/-- What comes of one turn. -/
inductive Turn (ι : Type) where
  | goesOn (next : Dispatch ι)
  | ended
  | failed (e : DispatchError) (s : Dispatch ι)

/-- The dispatcher that goes on to the next item, if one does. -/
def Taken.next? : Taken ι → Option (Dispatcher ι)
  | .ended => none
  | .failed _ _ => none
  | .kept d => some d
  | .full _ d => some d

namespace Dispatcher

variable {d next : Dispatcher ι} {size : Nat}

theorem points_place {channel : Nat} {slot : Option LineBatch} {p : Point}
    (hNext : (d.place size channel slot p).next? = some next) : next.points = d.points + 1 := by
  unfold place at hNext
  split at hNext
  split at hNext
  · cases hNext
  · split at hNext <;> cases hNext <;> rfl

/-- Who goes on has counted one point more. -/
theorem points_take [Indexer ι] {item : Source.Item}
    (hNext : (d.take size item).next? = some next) : next.points = d.points + 1 := by
  cases item with
  | done => cases hNext
  | failed f => cases hNext
  | crashed => cases hNext
  | point p =>
      simp only [take] at hNext
      split at hNext
      · cases hNext
      · simp only [route] at hNext
        split at hNext
        · cases hNext
        · have hPlaced := points_place hNext
          exact hPlaced

end Dispatcher

namespace Dispatch

/-- Sending a batch changes nothing in what is still open. -/
theorem dispatcher_send {s next : Dispatch ι} {p : Parcel}
    (hSend : s.send p = .ok next) : next.dispatcher = s.dispatcher := by
  unfold send at hSend
  split at hSend
  · cases hSend
  · split at hSend
    · cases hSend
    · cases hSend
      rfl

variable [Indexer ι]

/-- One turn with one item. -/
def turn (size : Nat) (s : Dispatch ι) (item : Source.Item) : Turn ι :=
  match s.dispatcher.take size item with
  | .ended => .ended
  | .failed e d => .failed e { s with dispatcher := d }
  | .kept d => .goesOn { s with dispatcher := d }
  | .full p d =>
    match { s with dispatcher := d }.send p with
    | .ok next => .goesOn next
    | .error e => .failed e { s with dispatcher := d }

theorem loop_cons (limits : DispatchLimits) (headers : Option (List String)) (s : Dispatch ι)
    (item : Source.Item) (items : List Source.Item) :
    s.loop limits headers (item :: items) =
      if limits.reached s.dispatcher.points then s.finish headers true (item :: items)
      else
        match s.turn limits.fullSize item with
        | .goesOn next => next.loop limits headers items
        | .ended => s.finish headers false items
        | .failed e last => ⟨.error e, last, items⟩ := by
  rw [loop, turn]
  split
  · rfl
  · cases s.dispatcher.take limits.fullSize item with
    | ended => rfl
    | failed e d => rfl
    | kept d => rfl
    | full p d =>
        dsimp only
        cases { s with dispatcher := d }.send p <;> rfl

/-- A turn that goes on has counted one point more. -/
theorem points_turn {s next : Dispatch ι} {size : Nat} {item : Source.Item}
    (hTurn : s.turn size item = .goesOn next) :
    next.dispatcher.points = s.dispatcher.points + 1 := by
  suffices hNext : (s.dispatcher.take size item).next? = some next.dispatcher from
    Dispatcher.points_take hNext
  cases hTake : s.dispatcher.take size item with
  | ended => simp [turn, hTake] at hTurn
  | failed e d => simp [turn, hTake] at hTurn
  | kept d =>
      simp only [turn, hTake] at hTurn
      cases hTurn
      rfl
  | full p d =>
      simp only [turn, hTake] at hTurn
      cases hSend : { s with dispatcher := d }.send p with
      | error e => simp [hSend] at hTurn
      | ok sent =>
          simp only [hSend] at hTurn
          cases hTurn
          rw [dispatcher_send hSend]
          rfl

/-- How often the loop asks for a point. A source with nothing left is asked as well, and is at its
end. -/
def requests (limits : DispatchLimits) (s : Dispatch ι) : List Source.Item → Nat
  | [] => if limits.reached s.dispatcher.points then 0 else 1
  | item :: items =>
    if limits.reached s.dispatcher.points then 0
    else
      match s.turn limits.fullSize item with
      | .goesOn next => requests limits next items + 1
      | .ended => 1
      | .failed _ _ => 1

/-- How often a run asks for a point: never, if the headers cannot be had. -/
def runRequests (limits : DispatchLimits) (source : Source.Stream) (s : Dispatch ι) : Nat :=
  match source.headers with
  | .error _ => 0
  | .ok headers => requests limits (s.tell (source.opening ++ headersTold headers)) source.items

omit [Indexer ι] in
theorem finish_unread (s : Dispatch ι) (headers : Option (List String)) (limitReached : Bool)
    (unread unread' : List Source.Item) :
    { s.finish headers limitReached unread with unread := unread' } =
      s.finish headers limitReached unread' := by
  unfold finish
  split <;> rfl

theorem cons_of_take_eq {α : Type} {a : α} {as others : List α} {more : Nat}
    (hSame : others.take (more + 1) = (a :: as).take (more + 1)) :
    ∃ rest, others = a :: rest ∧ rest.take more = as.take more := by
  cases others with
  | nil => cases hSame
  | cons first rest =>
      injection hSame with hFirst hRest
      exact ⟨rest, by rw [hFirst], hRest⟩

/-- What is not asked for makes no difference: a source that agrees on what is asked for is taken
alike, and the rest of it is left unread. -/
theorem loop_of_take_requests (limits : DispatchLimits) (headers : Option (List String))
    {s : Dispatch ι} {items other : List Source.Item}
    (hSame : other.take (s.requests limits items) = items.take (s.requests limits items)) :
    s.loop limits headers other =
      { s.loop limits headers items with unread := other.drop (s.requests limits items) } := by
  induction items generalizing s other with
  | nil =>
      cases hReached : limits.reached s.dispatcher.points with
      | true => cases other <;> simp [loop, requests, hReached, finish_unread]
      | false =>
          have hNone : other = [] := by simpa [requests, hReached] using hSame
          simp [hNone, loop, finish_unread]
  | cons item items ih =>
      cases hReached : limits.reached s.dispatcher.points with
      | true => cases other <;> simp [loop, requests, hReached, finish_unread]
      | false =>
          simp only [requests, hReached, Bool.false_eq_true, if_false] at hSame ⊢
          cases hTurn : s.turn limits.fullSize item with
          | goesOn next =>
              rw [hTurn] at hSame
              obtain ⟨rest, rfl, hRest⟩ := cons_of_take_eq hSame
              simpa [loop_cons, hReached, hTurn] using ih hRest
          | ended =>
              rw [hTurn] at hSame
              change other.take (0 + 1) = _ at hSame
              obtain ⟨rest, rfl, -⟩ := cons_of_take_eq hSame
              simp [loop_cons, hReached, hTurn, finish_unread]
          | failed e last =>
              rw [hTurn] at hSame
              change other.take (0 + 1) = _ at hSame
              obtain ⟨rest, rfl, -⟩ := cons_of_take_eq hSame
              simp [loop_cons, hReached, hTurn]

/-- A run never sees what stands behind the items that it asks for. -/
theorem run_of_take_requests (limits : DispatchLimits) {s : Dispatch ι}
    {source : Source.Stream} {items : List Source.Item}
    (hSame : items.take (s.runRequests limits source) =
      source.items.take (s.runRequests limits source)) :
    s.run limits { source with items } =
      { s.run limits source with unread := items.drop (s.runRequests limits source) } := by
  cases hHeaders : source.headers with
  | error f => simp [run, runRequests, hHeaders]
  | ok headers =>
      simp only [runRequests, hHeaders] at hSame
      simp only [run, runRequests, hHeaders]
      exact loop_of_take_requests limits headers hSame

/-- What a run leaves unread is what it did not ask for. -/
theorem unread_run (limits : DispatchLimits) (source : Source.Stream) (s : Dispatch ι) :
    (s.run limits source).unread = source.items.drop (s.runRequests limits source) := by
  have hSelf : s.run limits source = { s.run limits source with
      unread := source.items.drop (s.runRequests limits source) } :=
    run_of_take_requests limits rfl
  exact congrArg DispatchOutcome.unread hSelf

end Dispatch
end BulkLoad
