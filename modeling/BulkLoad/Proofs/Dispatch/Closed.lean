import BulkLoad.Proofs.Dispatch.Placed

/-!
Channels that have no receiver from the start.

Dispatch finds out about a closed channel when it has a batch for it, and goes no further. Until then
it does what it does when all channels are open, so nothing has come to a closed channel, and to the
others only what comes to them first anyway.
-/
namespace BulkLoad

variable {ι : Type}

/-- Dispatch over the same channels, when the flags say which of them are closed. -/
def Dispatch.shut (flags : List Bool) (s : Dispatch ι) : Dispatch ι :=
  { s with outlets := s.outlets.mapIdx fun channel o => { o with closed := flags.getD channel false } }

/-- The outcome of a run with closed channels as it relates to the one when all of them are open. -/
structure DispatchOutcome.Behind (flags : List Bool) (o whole : DispatchOutcome ι) : Prop where
  spared : ∀ channel : Nat, flags[channel]? = some true → o.final.receivedOn channel = []
  agrees : (o.result = whole.result ∧ o.unread = whole.unread ∧
      ∀ channel, o.final.receivedOn channel = whole.final.receivedOn channel) ∨
    ∃ closed : Nat, o.result = .error (.channelClosed closed) ∧ flags[closed]? = some true ∧
      ∀ channel, o.final.receivedOn channel <+: whole.final.receivedOn channel

namespace Dispatch

variable {flags : List Bool} {s next : Dispatch ι} {p : Parcel}

@[simp] theorem receivedOn_shut (flags : List Bool) (s : Dispatch ι) (channel : Nat) :
    (s.shut flags).receivedOn channel = s.receivedOn channel := by
  rw [receivedOn, shut, List.getElem?_mapIdx, Option.map_map]
  rfl

theorem getD_of_getElem? {channel : Nat} (hFlag : flags[channel]? ≠ some true) :
    flags.getD channel false = false := by
  rw [List.getD_eq_getElem?_getD]
  cases hGet : flags[channel]? with
  | none => rfl
  | some closed =>
      cases closed with
      | false => rfl
      | true => exact absurd hGet hFlag

/-- A closed channel refuses what it is sent. -/
theorem send_shut_of_closed (hChannel : p.channel < s.outlets.length)
    (hFlag : flags[p.channel]? = some true) :
    (s.shut flags).send p = .error (.channelClosed p.channel) := by
  simp [send, shut, hChannel, hFlag]

/-- The others take what they take when all are open. -/
theorem send_shut_of_open (hAttended : s.Attended) (hFlag : flags[p.channel]? ≠ some true)
    (hSend : s.send p = .ok next) : (s.shut flags).send p = .ok (next.shut flags) := by
  have hOpen := getD_of_getElem? hFlag
  unfold send at hSend
  cases hOutlet : s.outlets[p.channel]? with
  | none =>
      rw [hOutlet] at hSend
      cases hSend
  | some outlet =>
      have hTakes := hAttended outlet (List.mem_of_getElem? hOutlet)
      rw [hOutlet] at hSend
      simp only [hTakes, Bool.false_eq_true, if_false] at hSend
      cases hSend
      have hSet : (s.shut flags).outlets.set p.channel
          (Outlet.push { outlet with closed := flags.getD p.channel false } p.batch) =
          (s.outlets.set p.channel (outlet.push p.batch)).mapIdx fun channel o =>
            { o with closed := flags.getD channel false } := by
        rw [List.mapIdx_set]
        rfl
      have hHere : (s.shut flags).outlets[p.channel]? =
          some { outlet with closed := flags.getD p.channel false } := by
        rw [shut, List.getElem?_mapIdx, hOutlet, Option.map_some]
      simp only [send, hHere, hOpen, Bool.false_eq_true, if_false] at hSet ⊢
      rw [hSet]
      rfl

/-- Channels of which some are closed from the start. -/
theorem start_shut (indexer : ι) (pool : Pool LineBatch) (flags : List Bool) :
    (start indexer pool (List.replicate flags.length {})).shut flags =
      start indexer pool (flags.map fun closed => { closed }) := by
  have hOutlets : ((List.replicate flags.length ({} : Outlet)).mapIdx fun channel o =>
      { o with closed := flags.getD channel false }) = flags.map fun closed => { closed } := by
    apply List.ext_getElem
    · simp
    · intro channel hLeft hRight
      have hChannel : channel < flags.length := by simpa using hRight
      simp [hChannel]
  simp only [shut, start, hOutlets, List.length_replicate, List.length_map]

end Dispatch

namespace Concurrent.Scan

variable [Indexer ι] {limits : DispatchLimits} {flags : List Bool} {s t : Scan ι}

omit [Indexer ι] in
def shut (flags : List Bool) (s : Scan ι) : Scan ι := { s with dispatch := s.dispatch.shut flags }

/-- By itself dispatch does not look whether a channel is closed. -/
theorem advance_shut (hStep : s.advance? limits = some t) :
    (s.shut flags).advance? limits = some (t.shut flags) := by
  rcases s with ⟨phase, due, d⟩
  obtain rfl : due = none := (dispatch_advance hStep).1
  have hSlots : (d.shut flags).dispatcher = d.dispatcher := rfl
  have hLength : (d.shut flags).outlets.length = d.outlets.length := List.length_mapIdx
  cases phase with
  | returned result unread => cases hStep
  | opening source =>
      simp only [advance?, shut] at hStep ⊢
      cases hHeaders : source.headers with
      | error f =>
          rw [hHeaders] at hStep
          cases hStep
          rfl
      | ok headers =>
          rw [hHeaders] at hStep
          cases hStep
          rfl
  | reading headers items =>
      cases items with
      | nil =>
          cases hStep
          simp only [advance?, shut, startFlush, hLength, hSlots]
      | cons item items =>
          simp only [advance?, shut, hSlots] at hStep ⊢
          split at hStep
          · rename_i hReached
            cases hStep
            simp only [if_pos hReached, startFlush, hLength]
          · rename_i hOpen
            rw [if_neg hOpen]
            cases hTake : d.dispatcher.take limits.fullSize item with
            | ended =>
                rw [hTake] at hStep
                cases hStep
                simp only [startFlush, hLength]
            | failed e next =>
                rw [hTake] at hStep
                cases hStep
                rfl
            | kept next =>
                rw [hTake] at hStep
                cases hStep
                rfl
            | full p next =>
                rw [hTake] at hStep
                cases hStep
                rfl
  | flushing headers limitReached unread channels =>
      cases channels with
      | nil =>
          cases hStep
          rfl
      | cons channel channels =>
          cases hStep
          rfl

/-- Dispatch over channels of which those that the flags name have got nothing. -/
structure Spares (flags : List Bool) (s : Scan ι) : Prop where
  placed : s.Placed flags.length
  spared : ∀ channel : Nat, flags[channel]? = some true → s.dispatch.receivedOn channel = []

theorem Spares.advance (hSpares : s.Spares flags) (hStep : s.advance? limits = some t) :
    t.Spares flags := by
  refine ⟨hSpares.placed.advance hStep, fun channel hFlag => ?_⟩
  rw [Dispatch.receivedOn, outlets_advance hStep]
  exact hSpares.spared channel hFlag

omit [Indexer ι] in
theorem Spares.deliver (hSpares : s.Spares flags) {p : Parcel} {next : Dispatch ι}
    (hFlag : flags[p.channel]? ≠ some true) (hSend : s.dispatch.send p = .ok next) :
    { s with due := none, dispatch := next }.Spares flags := by
  refine ⟨hSpares.placed.deliver hSend, fun channel hClosed => ?_⟩
  have hOther : channel ≠ p.channel := by
    rintro rfl
    exact hFlag hClosed
  rw [Dispatch.receivedOn_send hSend, if_neg hOther]
  exact hSpares.spared channel hClosed

/-- A batch that is due for a closed channel is the end of dispatch. -/
theorem Spares.behind_of_closed (hSpares : s.Spares flags) {p : Parcel} (hDue : s.due = some p)
    (hFlag : flags[p.channel]? = some true) (limits : DispatchLimits) :
    ((s.shut flags).rest limits).Behind flags (s.rest limits) := by
  have hRest : (s.shut flags).rest limits =
      ⟨.error (.channelClosed p.channel), s.dispatch.shut flags, s.unread⟩ := by
    have hRefused := Dispatch.send_shut_of_closed
      (hSpares.placed.outlets.symm ▸ hSpares.placed.due p hDue) hFlag
    have hDue' : (s.shut flags).due = some p := hDue
    simp only [rest, hDue']
    rw [shut, hRefused]
    rfl
  rw [hRest]
  refine ⟨fun channel hClosed => ?_, .inr ⟨p.channel, rfl, hFlag, fun channel => ?_⟩⟩
  · rw [Dispatch.receivedOn_shut]
    exact hSpares.spared channel hClosed
  · rw [Dispatch.receivedOn_shut]
    exact received_prefix_rest limits s channel

/-- A batch that is due for an open channel is taken, whether others are closed or not. -/
theorem Spares.rest_of_open (hSpares : s.Spares flags) {p : Parcel} (hDue : s.due = some p)
    (hFlag : flags[p.channel]? ≠ some true) (limits : DispatchLimits) :
    ∃ next : Scan ι, next.Spares flags ∧ next.due = none ∧ next.toGo = s.toGo ∧
      next.rest limits = s.rest limits ∧
      (next.shut flags).rest limits = (s.shut flags).rest limits := by
  obtain ⟨d, hSend⟩ := hSpares.placed.exists_send hDue
  have hShut := Dispatch.send_shut_of_open hSpares.placed.attended hFlag hSend
  refine ⟨{ s with due := none, dispatch := d }, hSpares.deliver hFlag hSend, rfl,
    toGo_deliver hSend, rest_deliver hDue hSend, ?_⟩
  have hDue' : (s.shut flags).due = some p := hDue
  rw [← rest_deliver hDue' hShut]
  rfl

/-- What dispatch comes to when channels are closed. -/
theorem Spares.behind (hSpares : s.Spares flags) (hIdle : s.due = none) (limits : DispatchLimits) :
    ((s.shut flags).rest limits).Behind flags (s.rest limits) := by
  induction hToGo : s.toGo using Nat.strongRecOn generalizing s with
  | ind toGo ih =>
      subst hToGo
      rcases s.goesOn limits hIdle with ⟨result, unread, hReturned⟩ | ⟨t, hAdvance, hLess⟩
      · have hReturned' : (s.shut flags).phase = .returned result unread := hReturned
        rw [rest_of_returned hReturned hIdle, rest_of_returned hReturned' hIdle]
        refine ⟨fun channel hClosed => ?_, .inl ⟨rfl, rfl, fun channel => ?_⟩⟩
        · exact (Dispatch.receivedOn_shut ..).trans (hSpares.spared channel hClosed)
        · exact Dispatch.receivedOn_shut ..
      · have hNext := hSpares.advance hAdvance
        rw [← rest_advance hAdvance, ← rest_advance (advance_shut hAdvance)]
        cases hDue : t.due with
        | none => exact ih _ hLess hNext hDue rfl
        | some p =>
            by_cases hFlag : flags[p.channel]? = some true
            · exact hNext.behind_of_closed hDue hFlag limits
            · obtain ⟨next, hSpares', hIdle', hToGo, hRest, hShut⟩ :=
                hNext.rest_of_open hDue hFlag limits
              rw [← hRest, ← hShut]
              exact ih _ (hToGo ▸ hLess) hSpares' hIdle' rfl

end Concurrent.Scan

/-- A run over channels that are closed or open from the start lags behind the run over channels that
are all open. -/
theorem Dispatch.behind_run [Indexer ι] (x : ι) (pool : Pool LineBatch) (flags : List Bool)
    (limits : DispatchLimits) (source : Source.Stream) :
    ((start x pool (flags.map fun closed => { closed })).run limits source).Behind flags
      ((start x pool (List.replicate flags.length {})).run limits source) := by
  let s : Concurrent.Scan ι :=
    { phase := .opening source, dispatch := start x pool (List.replicate flags.length {}) }
  have hSpares : s.Spares flags := by
    refine ⟨Concurrent.Scan.placed_opening source x pool flags.length, fun channel _ => ?_⟩
    simp only [receivedOn, s, start, List.getElem?_replicate]
    split <;> rfl
  have hBehind := hSpares.behind rfl limits
  rw [← start_shut]
  exact hBehind

end BulkLoad
