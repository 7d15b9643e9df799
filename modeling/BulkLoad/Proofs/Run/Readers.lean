import BulkLoad.Proofs.Dispatch.Placed
import BulkLoad.Proofs.Run.Conserving

/-!
Dispatch before readers, one for each channel.

A channel has room for so many batches, and dispatch waits with a batch for which there is none. A
reader takes batches when it likes, puts them back into the pool when it likes, and may quit; the
channel of a reader that has quit refuses what it is given. The steps may come in any order.
-/
namespace BulkLoad

namespace Readers

open Concurrent (Scan forall_update length_push_le length_pop_le)

/-- How dispatch is set up: its limits, the number of channels, and how much a channel holds, which is
one batch at least. -/
structure Setup where
  limits : DispatchLimits
  channels : Nat
  capacity : Nat

def Setup.room (x : Setup) : Nat := max x.capacity 1

/-- Dispatch, what waits in the channels, and what the readers have: all that they received in order,
what of it they have not put back yet, and whether they have quit. -/
structure State (ι : Type) where
  scan : Scan ι
  queue : Nat → List LineBatch := fun _ => []
  received : Nat → List LineBatch := fun _ => []
  kept : Nat → List LineBatch := fun _ => []
  quit : Nat → Bool := fun _ => false

variable {ι : Type}

namespace State

/-- A batch has gone from dispatch to a channel. -/
def deliver (s : State ι) (p : Parcel) (next : Dispatch ι) : State ι :=
  { s with
    scan := { s.scan with due := none, dispatch := next }
    queue := Function.update s.queue p.channel (s.queue p.channel ++ [p.batch]) }

/-- A batch has gone from a channel to its reader. -/
def receive (s : State ι) (channel : Nat) (b : LineBatch) (rest : List LineBatch) : State ι :=
  { s with
    queue := Function.update s.queue channel rest
    received := Function.update s.received channel (s.received channel ++ [b])
    kept := Function.update s.kept channel (s.kept channel ++ [b]) }

/-- A reader has put a batch back. -/
def recycle (s : State ι) (channel : Nat) (b : LineBatch) (rest : List LineBatch) : State ι :=
  { s with
    scan := s.scan.withPool (s.scan.pool.release b)
    kept := Function.update s.kept channel rest }

end State

/-- The steps that bring batches on. -/
inductive Move [Indexer ι] (x : Setup) (s : State ι) : State ι → Prop where
  /-- Dispatch goes on by itself. -/
  | advance {scan : Scan ι} (hScan : s.scan.advance? x.limits = some scan) :
      Move x s { s with scan }
  /-- Dispatch hands its batch over, as there is room for it. -/
  | deliver {p : Parcel} {next : Dispatch ι} (hDue : s.scan.due = some p)
      (hReader : s.quit p.channel = false) (hRoom : (s.queue p.channel).length < x.room)
      (hSend : s.scan.dispatch.send p = .ok next) : Move x s (s.deliver p next)
  /-- Dispatch finds that the reader has quit. -/
  | refuse {p : Parcel} (hDue : s.scan.due = some p) (hQuit : s.quit p.channel = true) :
      Move x s { s with scan := s.scan.refused p.channel }
  /-- A reader takes the batch that has waited longest. -/
  | receive {channel : Nat} {b : LineBatch} {rest : List LineBatch} (hChannel : channel < x.channels)
      (hReader : s.quit channel = false) (hQueue : s.queue channel = b :: rest) :
      Move x s (s.receive channel b rest)

/-- All steps, those included that a reader takes for itself. -/
inductive Step [Indexer ι] (x : Setup) (s : State ι) : State ι → Prop where
  | move {t : State ι} (hMove : Move x s t) : Step x s t
  | recycle {channel : Nat} {b : LineBatch} {rest : List LineBatch}
      (hChannel : channel < x.channels) (hKept : s.kept channel = b :: rest) :
      Step x s (s.recycle channel b rest)
  | quit {channel : Nat} (hChannel : channel < x.channels) (hReader : s.quit channel = false) :
      Step x s { s with quit := Function.update s.quit channel true }

/-- Dispatch before its first step. -/
def initial (x : Setup) (source : Source.Stream) (indexer : ι) (pool : Pool LineBatch) : State ι where
  scan :=
    { phase := .opening source
      dispatch := .start indexer pool (List.replicate x.channels {}) }

inductive Reachable [Indexer ι] (x : Setup) (source : Source.Stream) (indexer : ι)
    (pool : Pool LineBatch) : State ι → Prop where
  | initial : Reachable x source indexer pool (initial x source indexer pool)
  | step {s t : State ι} (hBefore : Reachable x source indexer pool s) (hStep : Step x s t) :
      Reachable x source indexer pool t

/-- Every run from a state on comes to a state of this kind, whatever the order of its steps, and
until then batches can be brought on. -/
inductive Inevitably [Indexer ι] (x : Setup) (P : State ι → Prop) : State ι → Prop where
  | now {s : State ι} (hHere : P s) : Inevitably x P s
  | later {s : State ι} (hGoesOn : ∃ t, Move x s t) (hAll : ∀ t, Step x s t → Inevitably x P t) :
      Inevitably x P s

/-- Dispatch over channels without bounds, which take every batch at once. -/
def unbounded [Indexer ι] (x : Setup) (source : Source.Stream) (indexer : ι)
    (pool : Pool LineBatch) : DispatchOutcome ι :=
  (Dispatch.start indexer pool (List.replicate x.channels {})).run x.limits source

/-- Dispatch has returned, and nothing waits for a reader that is left. -/
def Finished (x : Setup) (s : State ι) : Prop :=
  (∃ result unread, s.scan.phase = .returned result unread) ∧
    ∀ channel < x.channels, s.quit channel = false → s.queue channel = []

/-- Dispatch was refused by the channel of a reader that had quit. -/
def Refused (s : State ι) : Prop :=
  ∃ channel unread, s.quit channel = true ∧
    s.scan.phase = .returned (.error (.channelClosed channel)) unread

/-- What every run keeps. What is left of dispatch, the batch included with which it waits, is what is
left of it over channels without bounds, unless it was refused. -/
structure Tracks [Indexer ι] (x : Setup) (source : Source.Stream) (indexer : ι)
    (pool : Pool LineBatch) (s : State ι) : Prop where
  clean : s.scan.pool.Clean
  rest : (s.scan.rest x.limits).Alike (unbounded x source indexer pool) ∨ Refused s
  idle : s.scan.due = none ∨ ∀ result unread, s.scan.phase ≠ .returned result unread
  slots : s.scan.dispatch.dispatcher.slots.length = x.channels
  due : ∀ p, s.scan.due = some p → p.channel < x.channels
  outlets : s.scan.dispatch.outlets.length = x.channels
  attended : s.scan.dispatch.Attended
  sent : ∀ channel, s.scan.dispatch.receivedOn channel = s.received channel ++ s.queue channel
  first : ∀ channel, s.scan.dispatch.receivedOn channel <+:
    (unbounded x source indexer pool).final.receivedOn channel
  room : ∀ channel, (s.queue channel).length ≤ x.room

section Tracks

variable [Indexer ι] {x : Setup} {source : Source.Stream} {indexer : ι} {pool : Pool LineBatch}
  {s t : State ι}

/-- As long as dispatch is not refused, it has sent what it sends first over channels without
bounds. -/
theorem first_of_alike (hAlike : (s.scan.rest x.limits).Alike (unbounded x source indexer pool))
    (channel : Nat) : s.scan.dispatch.receivedOn channel <+:
      (unbounded x source indexer pool).final.receivedOn channel := by
  have hFirst := s.scan.received_prefix_rest x.limits channel
  rw [Dispatch.receivedOn, Dispatch.receivedOn, hAlike.final.outlets] at hFirst
  exact hFirst

/-- Dispatch that has returned does not wait with a batch. -/
theorem Tracks.idle_of_returned (hTracks : Tracks x source indexer pool s)
    {result : Except DispatchError DispatchSummary} {unread : List Source.Item}
    (hReturned : s.scan.phase = .returned result unread) : s.scan.due = none :=
  hTracks.idle.resolve_right fun hRunning => hRunning _ _ hReturned

theorem Tracks.placed (hTracks : Tracks x source indexer pool s) : s.scan.Placed x.channels :=
  ⟨hTracks.slots, hTracks.outlets, hTracks.due, hTracks.attended⟩

theorem Tracks.advance (hTracks : Tracks x source indexer pool s) {scan : Scan ι}
    (hScan : s.scan.advance? x.limits = some scan) :
    Tracks x source indexer pool { s with scan } := by
  obtain ⟨-, hIdle, d, told, hDispatch, hClean⟩ := Scan.dispatch_advance hScan
  have hPlaced := hTracks.placed.advance hScan
  have hSame (channel : Nat) :
      scan.dispatch.receivedOn channel = s.scan.dispatch.receivedOn channel := by
    rw [Dispatch.receivedOn, Scan.outlets_advance hScan, Dispatch.receivedOn]
  refine ⟨?_, ?_, hIdle, hPlaced.slots, hPlaced.due, hPlaced.outlets, hPlaced.attended,
    fun channel => (hSame channel).trans (hTracks.sent channel),
    fun channel => hSame channel ▸ hTracks.first channel, hTracks.room⟩
  · rw [Scan.pool, hDispatch]
    exact hClean hTracks.clean
  · rcases hTracks.rest with hAlike | ⟨channel, unread, -, hReturned⟩
    · exact .inl (Scan.rest_advance hScan ▸ hAlike)
    · rw [Scan.advance_of_returned hReturned] at hScan
      cases hScan

theorem Tracks.deliver (hTracks : Tracks x source indexer pool s) {p : Parcel} {next : Dispatch ι}
    (hDue : s.scan.due = some p) (hRoom : (s.queue p.channel).length < x.room)
    (hSend : s.scan.dispatch.send p = .ok next) : Tracks x source indexer pool (s.deliver p next) := by
  have hSame := Dispatch.dispatcher_send hSend
  have hAlike : ((s.deliver p next).scan.rest x.limits).Alike (unbounded x source indexer pool) := by
    rcases hTracks.rest with hAlike | ⟨channel, unread, -, hReturned⟩
    · exact Scan.rest_deliver hDue hSend ▸ hAlike
    · rw [hTracks.idle_of_returned hReturned] at hDue
      cases hDue
  have hPlaced := hTracks.placed.deliver hSend
  refine ⟨?_, .inl hAlike, .inl rfl, hPlaced.slots, nofun, hPlaced.outlets, hPlaced.attended,
    fun channel => ?_, first_of_alike hAlike, length_push_le hTracks.room hRoom p.batch⟩
  · rw [State.deliver, Scan.pool, hSame]
    exact hTracks.clean
  · have hGrown := Dispatch.receivedOn_send hSend channel
    by_cases hHere : channel = p.channel
    · subst hHere
      rw [if_pos rfl, hTracks.sent, List.append_assoc] at hGrown
      simpa [State.deliver] using hGrown
    · rw [if_neg hHere, hTracks.sent] at hGrown
      simpa [State.deliver, hHere] using hGrown

theorem Tracks.refuse (hTracks : Tracks x source indexer pool s) {p : Parcel}
    (hQuit : s.quit p.channel = true) :
    Tracks x source indexer pool { s with scan := s.scan.refused p.channel } :=
  ⟨hTracks.clean, .inr ⟨p.channel, _, hQuit, rfl⟩, .inl rfl, hTracks.slots, nofun, hTracks.outlets,
    hTracks.attended, hTracks.sent, hTracks.first, hTracks.room⟩

theorem Tracks.receive (hTracks : Tracks x source indexer pool s) {channel : Nat} {b : LineBatch}
    {rest : List LineBatch} (hQueue : s.queue channel = b :: rest) :
    Tracks x source indexer pool (s.receive channel b rest) := by
  refine ⟨hTracks.clean, hTracks.rest, hTracks.idle, hTracks.slots, hTracks.due, hTracks.outlets,
    hTracks.attended, fun other => ?_, hTracks.first, length_pop_le hTracks.room hQueue⟩
  have hSent := hTracks.sent other
  by_cases hHere : other = channel
  · subst hHere
    rw [hQueue] at hSent
    simpa [State.receive] using hSent
  · simpa [State.receive, hHere] using hSent

/-- A batch in the pool is as good as a new one. -/
theorem Tracks.recycle (hTracks : Tracks x source indexer pool s) (channel : Nat) (b : LineBatch)
    (rest : List LineBatch) : Tracks x source indexer pool (s.recycle channel b rest) := by
  have hClean := hTracks.clean.release b
  refine ⟨hClean, ?_, hTracks.idle, hTracks.slots, hTracks.due, hTracks.outlets, hTracks.attended,
    hTracks.sent, hTracks.first, hTracks.room⟩
  rcases hTracks.rest with hAlike | hRefused
  · exact .inl ((Scan.alike_rest_withPool hTracks.clean hClean).trans hAlike)
  · exact .inr hRefused

theorem quit_of_step (hStep : Step x s t) {channel : Nat} (hQuit : s.quit channel = true) :
    t.quit channel = true := by
  cases hStep with
  | move hMove => cases hMove <;> exact hQuit
  | recycle hChannel hKept => exact hQuit
  | quit hChannel hReader =>
      exact forall_update (P := fun i quit => s.quit i = true → quit = true) (fun _ => id)
        (fun _ => rfl) channel hQuit

theorem Tracks.quit (hTracks : Tracks x source indexer pool s) {channel : Nat}
    (hChannel : channel < x.channels) (hReader : s.quit channel = false) :
    Tracks x source indexer pool { s with quit := Function.update s.quit channel true } := by
  refine ⟨hTracks.clean, ?_, hTracks.idle, hTracks.slots, hTracks.due, hTracks.outlets,
    hTracks.attended, hTracks.sent, hTracks.first, hTracks.room⟩
  rcases hTracks.rest with hAlike | ⟨closed, unread, hQuit, hReturned⟩
  · exact .inl hAlike
  · exact .inr ⟨closed, unread, quit_of_step (.quit hChannel hReader) hQuit, hReturned⟩

theorem Tracks.step (hTracks : Tracks x source indexer pool s) (hStep : Step x s t) :
    Tracks x source indexer pool t := by
  cases hStep with
  | move hMove =>
      cases hMove with
      | advance hScan => exact hTracks.advance hScan
      | deliver hDue hReader hRoom hSend => exact hTracks.deliver hDue hRoom hSend
      | refuse hDue hQuit => exact hTracks.refuse hQuit
      | receive hChannel hReader hQueue => exact hTracks.receive hQueue
  | recycle hChannel hKept => exact hTracks.recycle _ _ _
  | quit hChannel hReader => exact hTracks.quit hChannel hReader

theorem tracks (hClean : pool.Clean) (hReach : Reachable x source indexer pool s) :
    Tracks x source indexer pool s := by
  induction hReach with
  | initial =>
      have hAlike : ((Readers.initial x source indexer pool).scan.rest x.limits).Alike
          (unbounded x source indexer pool) :=
        Dispatch.Alike.run (.refl hClean) x.limits source
      have hPlaced := Scan.placed_opening source indexer pool x.channels
      refine ⟨hClean, .inl hAlike, .inl rfl, hPlaced.slots, nofun, hPlaced.outlets,
        hPlaced.attended, fun channel => ?_, first_of_alike hAlike, fun _ => Nat.zero_le _⟩
      · simp only [Readers.initial, Dispatch.receivedOn, Dispatch.start, List.getElem?_replicate]
        split <;> rfl
  | step hBefore hStep ih => exact ih.step hStep

end Tracks

end Readers
end BulkLoad
