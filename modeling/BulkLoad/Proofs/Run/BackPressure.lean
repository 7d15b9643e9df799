import BulkLoad.Proofs.Run.Readers

/-!
Back-pressure changes nothing but the time at which things happen.

Dispatch waits before one channel at a time while it holds open batches for the others, but the channel
before which it waits is full, so its reader has something to take. Each step uses up what can still
happen; so every run ends, and it ends where it would have ended over channels without bounds. A
reader that quits makes room by refusing.
-/
namespace BulkLoad.Readers

open Concurrent (Scan sumOf_range_update sumOf_length_push sumOf_length_pop)

variable {ι : Type} [Indexer ι] {x : Setup} {source : Source.Stream} {indexer : ι}
  {pool : Pool LineBatch} {s t : State ι}

theorem Setup.room_pos (x : Setup) : 0 < x.room := Nat.le_max_right x.capacity 1

/-- A reader that is left can take a batch that waits. -/
theorem exists_receive {channel : Nat} (hChannel : channel < x.channels)
    (hReader : s.quit channel = false) (hWaiting : s.queue channel ≠ []) : ∃ t, Move x s t := by
  obtain ⟨b, rest, hQueue⟩ := List.exists_cons_of_ne_nil hWaiting
  exact ⟨_, .receive hChannel hReader hQueue⟩

/-- Nothing is stuck: as long as dispatch has not returned, or a batch waits for a reader that is left,
batches can be brought on. -/
theorem Tracks.goesOn (hTracks : Tracks x source indexer pool s) :
    Finished x s ∨ ∃ t, Move x s t := by
  cases hDue : s.scan.due with
  | some p =>
      right
      have hChannel := hTracks.due p hDue
      cases hReader : s.quit p.channel with
      | true => exact ⟨_, .refuse hDue hReader⟩
      | false =>
          by_cases hRoom : (s.queue p.channel).length < x.room
          · obtain ⟨next, hSend⟩ := hTracks.attended.exists_send (hTracks.outlets.symm ▸ hChannel)
            exact ⟨_, .deliver hDue hReader hRoom hSend⟩
          · -- the channel is full, so its reader is not at a loss
            have hFull : s.queue p.channel ≠ [] := by
              intro hEmpty
              rw [hEmpty] at hRoom
              exact hRoom x.room_pos
            exact exists_receive hChannel hReader hFull
  | none =>
      rcases s.scan.goesOn x.limits hDue with hReturned | ⟨scan, hScan, -⟩
      · by_cases hWaiting : ∃ channel < x.channels, s.quit channel = false ∧ s.queue channel ≠ []
        · obtain ⟨channel, hChannel, hReader, hWaiting⟩ := hWaiting
          exact .inr (exists_receive hChannel hReader hWaiting)
        · refine .inl ⟨hReturned, fun channel hChannel hReader => ?_⟩
          by_contra hQueue
          exact hWaiting ⟨channel, hChannel, hReader, hQueue⟩
      · exact .inr ⟨_, .advance hScan⟩

/-- What can still happen: a step of dispatch may bring a batch that is due, which may wait, be
received and be put back. -/
def State.toGo (x : Setup) (s : State ι) : Nat :=
  4 * s.scan.toGo + 3 * s.scan.due.isSome.toNat +
    2 * sumOf (fun channel => (s.queue channel).length) (List.range x.channels) +
    sumOf (fun channel => (s.kept channel).length) (List.range x.channels) +
    sumOf (fun channel => (!s.quit channel).toNat) (List.range x.channels)

theorem Tracks.toGo_move (hTracks : Tracks x source indexer pool s) (hMove : Move x s t) :
    t.toGo x < s.toGo x := by
  cases hMove with
  | @advance scan hScan =>
      have hNone := (Scan.dispatch_advance hScan).1
      have hDue := Bool.toNat_le scan.due.isSome
      have hLess := Scan.toGo_advance hScan
      simp only [State.toGo, hNone, Option.isSome_none, Bool.toNat_false]
      omega
  | @deliver p next hDue hReader hRoom hSend =>
      have hToGo := Scan.toGo_deliver hSend
      have hQueue := sumOf_length_push s.queue (hTracks.due p hDue) p.batch
      simp only [State.toGo, State.deliver, hToGo, hDue, Option.isSome_some, Option.isSome_none,
        Bool.toNat_true, Bool.toNat_false]
      omega
  | refuse hDue hQuit =>
      simp only [State.toGo, Scan.refused, Scan.toGo, hDue, Option.isSome_some, Option.isSome_none,
        Bool.toNat_true, Bool.toNat_false]
      omega
  | @receive channel b rest hChannel hReader hQueue =>
      have hWaiting := sumOf_length_pop hChannel hQueue
      have hKept := sumOf_length_push s.kept hChannel b
      simp only [State.toGo, State.receive]
      omega

theorem Tracks.toGo_step (hTracks : Tracks x source indexer pool s) (hStep : Step x s t) :
    t.toGo x < s.toGo x := by
  cases hStep with
  | move hMove => exact hTracks.toGo_move hMove
  | @recycle channel b rest hChannel hKept =>
      have hLess := sumOf_length_pop hChannel hKept
      simp only [State.toGo, State.recycle, Scan.toGo, Scan.withPool, Scan.withDispatcher]
      omega
  | @quit channel hChannel hReader =>
      have hLess := sumOf_range_update (fun quit => (!quit).toNat) s.quit true hChannel
      simp only [hReader, Bool.not_false, Bool.not_true, Bool.toNat_true, Bool.toNat_false] at hLess
      simp only [State.toGo]
      omega

/-- A run that stays among states of one kind until it comes to one of another comes to it. -/
theorem Tracks.inevitably {P Q : State ι → Prop} (hTracks : Tracks x source indexer pool s)
    (hHere : Q s)
    (hGoesOn : ∀ {s}, Tracks x source indexer pool s → Q s → P s ∨ ∃ t, Move x s t)
    (hStays : ∀ {s t}, Tracks x source indexer pool s → Q s → Step x s t → P t ∨ Q t) :
    Inevitably x P s := by
  induction hToGo : s.toGo x using Nat.strongRecOn generalizing s with
  | ind toGo ih =>
      subst hToGo
      rcases hGoesOn hTracks hHere with hNow | hMove
      · exact .now hNow
      · refine .later hMove fun t hStep => ?_
        rcases hStays hTracks hHere hStep with hNow | hThere
        · exact .now hNow
        · exact ih _ (hTracks.toGo_step hStep) (hTracks.step hStep) hThere rfl

/-- When dispatch returns it has done all that it does over channels without bounds, unless it was
refused. -/
theorem Tracks.of_returned (hTracks : Tracks x source indexer pool s)
    {result : Except DispatchError DispatchSummary} {unread : List Source.Item}
    (hReturned : s.scan.phase = .returned result unread) :
    (result = (unbounded x source indexer pool).result ∧ ∀ channel,
      s.received channel ++ s.queue channel =
        (unbounded x source indexer pool).final.receivedOn channel) ∨
    ∃ channel, s.quit channel = true ∧ result = .error (.channelClosed channel) := by
  rcases hTracks.rest with hAlike | ⟨channel, unread', hQuit, hRefused⟩
  · left
    rw [Scan.rest_of_returned hReturned (hTracks.idle_of_returned hReturned)] at hAlike
    refine ⟨hAlike.result, fun channel => ?_⟩
    rw [← hTracks.sent channel, Dispatch.receivedOn, Dispatch.receivedOn, hAlike.final.outlets]
  · right
    rw [hReturned] at hRefused
    cases hRefused
    exact ⟨channel, hQuit, rfl⟩

omit [Indexer ι] in
theorem ne_of_quit {channel other : Nat} (hQuit : s.quit channel = true)
    (hReader : s.quit other = false) : channel ≠ other := by
  rintro rfl
  rw [hQuit] at hReader
  cases hReader

/-- Nothing more comes to a reader that has quit. -/
theorem same_of_quit (hStep : Step x s t) {channel : Nat} (hQuit : s.quit channel = true) :
    t.queue channel = s.queue channel ∧ t.received channel = s.received channel := by
  cases hStep with
  | move hMove =>
      cases hMove with
      | advance hScan => exact ⟨rfl, rfl⟩
      | deliver hDue hReader hRoom hSend =>
          exact ⟨Function.update_of_ne (ne_of_quit hQuit hReader) _ _, rfl⟩
      | refuse hDue hQuit => exact ⟨rfl, rfl⟩
      | receive hChannel hReader hQueue =>
          have hOther := ne_of_quit hQuit hReader
          exact ⟨Function.update_of_ne hOther _ _, Function.update_of_ne hOther _ _⟩
  | recycle hChannel hKept => exact ⟨rfl, rfl⟩
  | quit hChannel hReader => exact ⟨rfl, rfl⟩

/-- Dispatch that waits before the channel of a reader that has quit does nothing but be refused. -/
theorem waits_or_refused (hStep : Step x s t) {p : Parcel} (hDue : s.scan.due = some p)
    (hQuit : s.quit p.channel = true) : t.scan.due = some p ∨
      ∃ unread, t.scan.phase = .returned (.error (.channelClosed p.channel)) unread := by
  cases hStep with
  | move hMove =>
      cases hMove with
      | advance hScan =>
          rw [(Scan.dispatch_advance hScan).1] at hDue
          cases hDue
      | deliver hDue' hReader hRoom hSend =>
          obtain rfl := Option.some.inj (hDue'.symm.trans hDue)
          exact absurd rfl (ne_of_quit hQuit hReader)
      | refuse hDue' hQuit' =>
          obtain rfl := Option.some.inj (hDue'.symm.trans hDue)
          exact .inr ⟨_, rfl⟩
      | receive hChannel hReader hQueue => exact .inl hDue
  | recycle hChannel hKept => exact .inl hDue
  | quit hChannel hReader => exact .inl hDue

/-- Dispatch would send the channel more than it has. -/
def Wants (x : Setup) (channel : Nat) (s : State ι) : Prop :=
  (s.scan.rest x.limits).final.receivedOn channel ≠ s.scan.dispatch.receivedOn channel

instance (x : Setup) (channel : Nat) (s : State ι) : Decidable (Wants x channel s) :=
  inferInstanceAs (Decidable (_ ≠ _))

/-- No step brings a channel whose reader has quit what it is still to be sent. -/
theorem Wants.step (hTracks : Tracks x source indexer pool s) {channel : Nat}
    (hQuit : s.quit channel = true) (hWants : Wants x channel s) (hStep : Step x s t) :
    Refused t ∨ Wants x channel t := by
  cases hStep with
  | move hMove =>
      cases hMove with
      | advance hScan =>
          right
          rw [Wants, Scan.rest_advance hScan]
          rw [Wants, Dispatch.receivedOn, Dispatch.receivedOn] at hWants
          rw [Dispatch.receivedOn, Dispatch.receivedOn, Scan.outlets_advance hScan]
          exact hWants
      | @deliver p next hDue hReader hRoom hSend =>
          right
          have hSame := Dispatch.receivedOn_send hSend channel
          rw [if_neg (ne_of_quit hQuit hReader)] at hSame
          rw [Wants, State.deliver, Scan.rest_deliver hDue hSend, hSame]
          exact hWants
      | refuse hDue hQuit => exact .inl ⟨_, _, hQuit, rfl⟩
      | receive hChannel hReader hQueue => exact .inr hWants
  | @recycle other b rest hChannel hKept =>
      right
      have hAlike : ((s.scan.withPool (s.scan.pool.release b)).rest x.limits).Alike
          (s.scan.rest x.limits) :=
        Scan.alike_rest_withPool hTracks.clean (hTracks.clean.release b)
      have hOutlets := hAlike.final.outlets
      rw [Wants, Dispatch.receivedOn, State.recycle, hOutlets, ← Dispatch.receivedOn]
      exact hWants
  | quit hChannel hReader => exact .inr hWants

/-- Dispatch that would send more to a reader that has quit is refused in the end. -/
theorem Tracks.refused_of_wants (hTracks : Tracks x source indexer pool s) {channel : Nat}
    (hQuit : s.quit channel = true) (hWants : Wants x channel s) : Inevitably x Refused s := by
  refine hTracks.inevitably (Q := fun s => s.quit channel = true ∧ Wants x channel s)
    ⟨hQuit, hWants⟩ ?_ ?_
  · rintro s hTracks ⟨-, hWants⟩
    rcases hTracks.goesOn with ⟨⟨result, unread, hReturned⟩, -⟩ | hMove
    · rw [Wants, Scan.rest_of_returned hReturned (hTracks.idle_of_returned hReturned)] at hWants
      exact absurd rfl hWants
    · exact .inr hMove
  · rintro s t hTracks ⟨hQuit, hWants⟩ hStep
    exact (hWants.step hTracks hQuit hStep).imp id fun hMore => ⟨quit_of_step hStep hQuit, hMore⟩

/-- Bounded channels come to the same as channels without bounds. None ever holds more than it has room
for, nothing is stuck, and every run ends. What a reader was handed, with what waits for it, are the
first of the batches that it would get over channels without bounds; when dispatch returns, they are
all of them and its result is the same, unless a reader has quit. Nothing more comes to that one: the
batch with which dispatch waits before its channel, or the next one that it would send there, ends
dispatch. -/
theorem bounded_as_unbounded (x : Setup) (source : Source.Stream) (indexer : ι)
    (hClean : pool.Clean) (hReach : Reachable x source indexer pool s) :
    let o := unbounded x source indexer pool
    (∀ channel, (s.queue channel).length ≤ max x.capacity 1) ∧
    (Finished x s ∨ ∃ t, Move x s t) ∧
    Inevitably x (Finished x) s ∧
    (∀ channel, s.received channel ++ s.queue channel <+: o.final.receivedOn channel) ∧
    (∀ result unread, s.scan.phase = .returned result unread →
      (result = o.result ∧
        ∀ channel, s.received channel ++ s.queue channel = o.final.receivedOn channel) ∨
      ∃ channel, s.quit channel = true ∧ result = .error (.channelClosed channel)) ∧
    ∀ channel, s.quit channel = true →
      (∀ t, Step x s t → t.quit channel = true ∧ t.queue channel = s.queue channel ∧
        t.received channel = s.received channel) ∧
      (∀ p, s.scan.due = some p → p.channel = channel →
        Move x s { s with scan := s.scan.refused channel } ∧
        ∀ t, Step x s t → t.scan.due = some p ∨
          ∃ unread, t.scan.phase = .returned (.error (.channelClosed channel)) unread) ∧
      (Wants x channel s → Inevitably x Refused s) := by
  intro o
  have hTracks := tracks hClean hReach
  refine ⟨hTracks.room, hTracks.goesOn, ?_, ?_, fun _ _ => hTracks.of_returned, ?_⟩
  · exact hTracks.inevitably (Q := fun _ => True) trivial (fun hTracks _ => hTracks.goesOn)
      fun _ _ _ => .inr trivial
  · intro channel
    rw [← hTracks.sent]
    exact hTracks.first channel
  · intro channel hQuit
    refine ⟨fun t hStep => ⟨quit_of_step hStep hQuit, same_of_quit hStep hQuit⟩, ?_,
      hTracks.refused_of_wants hQuit⟩
    rintro p hDue rfl
    exact ⟨.refuse hDue hQuit, fun t hStep => waits_or_refused hStep hDue hQuit⟩

/-- Two channels for one batch each, and three points for the first of them. -/
def short : Setup := { limits := ⟨1, none⟩, channels := 2, capacity := 1 }

def oneSided : Source.Stream where
  items := List.replicate 3 (.point (Utf8.encode "a x=1 1"))

/-- Dispatch waits before a full channel, and goes on if the reader takes a batch; if the reader quits
instead, dispatch is refused. -/
theorem bounded_as_unbounded_short : ∃ s t : State Constant,
    Reachable short oneSided (Constant.mk 0) (.ofCapacity 5) s ∧
      s.scan.due ≠ none ∧ (s.queue 0).length = 1 ∧ Inevitably short (Finished short) s ∧
      Step short s t ∧ t.quit 0 = true ∧ Inevitably short Refused t := by
  have hClean : (Pool.ofCapacity 5).Clean := .ofCapacity 5
  have hInitial : Reachable short oneSided (Constant.mk 0) (.ofCapacity 5)
    (initial short oneSided (Constant.mk 0) (.ofCapacity 5)) := .initial
  have hDue := (hInitial.step (.move (.advance rfl))).step (.move (.advance rfl))
  have hSent := hDue.step (.move (.deliver rfl rfl (by decide) rfl))
  have hFull := hSent.step (.move (.advance rfl))
  have hChannel : 0 < short.channels := by decide
  have hAlone := hFull.step (.quit hChannel rfl)
  obtain ⟨-, -, hEnds, -⟩ := bounded_as_unbounded short oneSided (Constant.mk 0) hClean hFull
  obtain ⟨-, -, -, -, -, hQuit⟩ := bounded_as_unbounded short oneSided (Constant.mk 0) hClean hAlone
  obtain ⟨-, -, hRefused⟩ := hQuit 0 rfl
  exact ⟨_, _, hFull, nofun, rfl, hEnds, .quit hChannel rfl, rfl, hRefused (by decide +kernel)⟩

end BulkLoad.Readers
