import BulkLoad.Proofs.Dispatch.Closed

/-!
What dispatch leaves behind when it fails.

Whatever item dispatch fails on, the points before it were routed and appended as if it were not
there. Of the points of a channel the full batches have been sent, and no more than those: what does
not fill a batch is not sent by a run that fails.
-/
namespace BulkLoad

open LineBatch (open? ofLines)
open Journal

namespace Indexer

variable {ι : Type} [Indexer ι]

/-- The indexer after points that came one after another. -/
def after (x : ι) (points : List Point) : ι := points.foldl (fun x p => (pick x p).2) x

theorem after_append_singleton (x : ι) (points : List Point) (p : Point) :
    after x (points ++ [p]) = (pick (after x points) p).2 := by
  rw [after, List.foldl_append]
  rfl

theorem picks_append_singleton (x : ι) (points : List Point) (p : Point) :
    picks x (points ++ [p]) = picks x points ++ [(pick (after x points) p).1] := by
  induction points generalizing x with
  | nil => rfl
  | cons q points ih =>
      have hLater := ih (pick x q).2
      rw [List.cons_append, picks, hLater]
      rfl

/-- The last point goes to the channel that is picked for it, behind what was routed there before. -/
theorem routed_append_singleton (x : ι) (channel : Nat) (points : List Point) (p : Point) :
    routed x channel (points ++ [p]) = routed x channel points ++
      if (pick (after x points) p).1 = channel then [p] else [] := by
  have hLength : points.length = (picks x points).length := (length_picks x points).symm
  rw [routed, picks_append_singleton, List.zip_append hLength, List.filter_append, List.map_append]
  congr 1
  by_cases hHere : (pick (after x points) p).1 = channel <;> simp [hHere]

end Indexer

/-- Why dispatch ends with an item, when it has appended so many points and this is its indexer. -/
inductive Rejected {ι : Type} [Indexer ι] (x : ι) (channels points : Nat) :
    Source.Item → DispatchError → Prop where
  | failed (f : Fault) : Rejected x channels points (.failed f) (.source points f)
  | crashed : Rejected x channels points .crashed .crashed
  | refused {p : Point} {f : Fault} (hRows : p.rows = .error f) :
      Rejected x channels points (.point p) (.append points f)
  | outside {p : Point} (hOutside : channels ≤ (Indexer.pick x p).1) :
      Rejected x channels points (.point p) (.badIndex (Indexer.pick x p).1 channels)

/-- Where a run fails: before its first item, or with the item behind the points that it appended. -/
inductive StoppedAt {ι : Type} [Indexer ι] (x : ι) (channels : Nat) (source : Source.Stream) :
    List Point → DispatchError → List Source.Item → Prop where
  | opening {f : Fault} (hHeaders : source.headers = .error f) :
      StoppedAt x channels source [] (.source 0 f) source.items
  | item {appended : List Point} {item : Source.Item} {e : DispatchError}
      {unread : List Source.Item} (hItems : source.items = appended.map .point ++ item :: unread)
      (hRejected : Rejected (Indexer.after x appended) channels appended.length item e) :
      StoppedAt x channels source appended e unread

/-- A dispatcher that fails with an item says what is wrong with it. -/
theorem Dispatcher.rejected_of_take {ι : Type} [Indexer ι] {d d' : Dispatcher ι} {size : Nat}
    {item : Source.Item} {e : DispatchError} (hTake : d.take size item = .failed e d') :
    Rejected d.indexer d.channels d.points item e := by
  cases item with
  | done => cases hTake
  | failed f =>
      cases hTake
      exact .failed f
  | crashed =>
      cases hTake
      exact .crashed
  | point p =>
      simp only [take] at hTake
      split at hTake
      · cases hTake
      · simp only [route] at hTake
        split at hTake
        · rename_i hSlot
          cases hTake
          exact .outside (List.getElem?_eq_none_iff.mp hSlot)
        · simp only [place, LineBatch.append] at hTake
          cases hRows : p.rows with
          | error f =>
              rw [hRows] at hTake
              cases hTake
              exact .refused hRows
          | ok rows =>
              rw [hRows] at hTake
              dsimp only at hTake
              split at hTake <;> cases hTake

/-- Points in full groups, and those left over, which do not fill one. -/
structure InFullGroups (size : Nat) (points : List Point) (groups : List (List Point))
    (rest : List Point) : Prop where
  all : groups.flatten ++ rest = points
  full : ∀ group ∈ groups, group.length = size
  short : rest.length < size

namespace InFullGroups

variable {size : Nat} {points rest : List Point} {groups : List (List Point)}

theorem length_flatten (hFull : ∀ group ∈ groups, group.length = size) :
    groups.flatten.length = groups.length * size := by
  induction groups with
  | nil => simp
  | cons group groups ih =>
      have hFirst := hFull group List.mem_cons_self
      have hLater := ih fun other hOther => hFull other (List.mem_cons_of_mem _ hOther)
      rw [List.flatten_cons, List.length_append, hFirst, hLater, List.length_cons, Nat.succ_mul,
        Nat.add_comm]

/-- There are as many groups as the points fill. -/
theorem length_groups (hGroups : InFullGroups size points groups rest) :
    groups.length = points.length / size := by
  have hLength := congrArg List.length hGroups.all
  rw [List.length_append, length_flatten hGroups.full] at hLength
  have hShort := hGroups.short
  rw [← hLength]
  symm
  apply Nat.div_eq_of_lt_le
  · omega
  · rw [Nat.succ_mul]
    omega

/-- The groups hold the first points. -/
theorem flatten_groups (hGroups : InFullGroups size points groups rest) :
    groups.flatten = points.take (points.length / size * size) := by
  rw [← hGroups.length_groups, ← length_flatten hGroups.full, ← hGroups.all, List.take_left]

theorem nil (hSize : 0 < size) : InFullGroups size [] [] [] := ⟨rfl, by simp, hSize⟩

/-- One point more either stays among the rest or fills a group with it. -/
theorem keep (hGroups : InFullGroups size points groups rest) {p : Point}
    (hShort : rest.length + 1 < size) :
    InFullGroups size (points ++ [p]) groups (rest ++ [p]) := by
  refine ⟨?_, hGroups.full, by simpa using hShort⟩
  rw [← List.append_assoc, hGroups.all]

theorem fill (hGroups : InFullGroups size points groups rest) {p : Point}
    (hFull : rest.length + 1 = size) :
    InFullGroups size (points ++ [p]) (groups ++ [rest ++ [p]]) [] := by
  refine ⟨?_, fun group hGroup => ?_, by simp; omega⟩
  · simp [← hGroups.all]
  · rcases List.mem_append.mp hGroup with hBefore | hNew
    · exact hGroups.full group hBefore
    · rw [List.mem_singleton.mp hNew]
      simpa using hFull

end InFullGroups

/-- A channel has got all full batches of these points, and nothing else. -/
structure WholeBatches (size : Nat) (points : List Point) (received : List LineBatch) : Prop where
  count : received.length = points.length / size
  sizes : ∀ b ∈ received, b.points = size ∧ b.lines.length = size
  lines : received.flatMap LineBatch.lines = points.take (points.length / size * size)
  payload : received.flatMap LineBatch.payload =
    (points.take (points.length / size * size)).flatMap (· ++ [LineBatch.newline])

theorem InFullGroups.wholeBatches {size : Nat} {points rest : List Point}
    {groups : List (List Point)} (hGroups : InFullGroups size points groups rest) :
    WholeBatches size points (groups.map ofLines) := by
  have hLines : (groups.map ofLines).flatMap LineBatch.lines =
      points.take (points.length / size * size) := by
    rw [← hGroups.flatten_groups, List.flatMap_map]
    simp [List.flatMap_id']
  refine ⟨by simpa using hGroups.length_groups, fun b hb => ?_, hLines, ?_⟩
  · obtain ⟨group, hGroup, rfl⟩ := List.mem_map.mp hb
    simpa using hGroups.full group hGroup
  · rw [← hLines, List.flatMap_assoc]
    rfl

namespace Dispatch

variable {ι : Type} [Indexer ι]

/-- Dispatch that has appended these points and no others. What a channel was sent and what it is
still owed are its points, cut where a batch was full. -/
structure Gathers (x : ι) (size base : Nat) (points : List Point) (s : Dispatch ι)
    (taken : List (List LineBatch)) (held : List (List Point)) : Prop where
  holds : s.Holds base taken held
  count : s.dispatcher.points = points.length
  indexer : s.dispatcher.indexer = Indexer.after x points
  groups : ∀ (channel : Nat) (batches : List LineBatch) (lines : List Point),
    taken[channel]? = some batches → held[channel]? = some lines →
      ∃ groups, batches = groups.map ofLines ∧
        InFullGroups size (Indexer.routed x channel points) groups lines
  accepted : ∀ p ∈ points, p ≠ [] ∧ p.Accepted
  picks : ∀ channel ∈ Indexer.picks x points, channel < held.length

section

variable {x : ι} {size base : Nat} {points : List Point} {s : Dispatch ι}
  {taken : List (List LineBatch)} {held : List (List Point)}

theorem Gathers.short (hGathers : Gathers x size base points s taken held) : Short size held := by
  intro lines hLines
  obtain ⟨channel, hLt, rfl⟩ := List.getElem_of_mem hLines
  have hTakenLt : channel < taken.length := hGathers.holds.channels ▸ hLt
  obtain ⟨groups, -, hGroups⟩ := hGathers.groups channel _ _ (List.getElem?_eq_getElem hTakenLt)
    (List.getElem?_eq_getElem hLt)
  exact hGroups.short

/-- A point that is appended changes the batches and the lines of the channel it goes to. -/
theorem Gathers.append (hGathers : Gathers x size base points s taken held) {p : Point}
    {channel : Nat} (hChannel : (Indexer.pick (Indexer.after x points) p).1 = channel)
    (hLt : channel < held.length) (hSome : p ≠ []) (hAccepted : p.Accepted) {next : Dispatch ι}
    (hPoints : next.dispatcher.points = s.dispatcher.points + 1)
    (hIndexer : next.dispatcher.indexer = (Indexer.pick s.dispatcher.indexer p).2)
    {groups : List (List Point)} {lines : List Point}
    (hGroups : InFullGroups size (Indexer.routed x channel points ++ [p]) groups lines)
    (hNext : next.Holds base (taken.set channel (groups.map ofLines)) (held.set channel lines)) :
    Gathers x size base (points ++ [p]) next (taken.set channel (groups.map ofLines))
      (held.set channel lines) := by
  refine ⟨hNext, ?_, ?_, fun other batches' lines' hTaken hHeld => ?_, fun q hq => ?_,
    fun other hOther => ?_⟩
  · rw [hPoints, hGathers.count, List.length_append, List.length_singleton]
  · rw [hIndexer, hGathers.indexer, Indexer.after_append_singleton]
  · rw [Indexer.routed_append_singleton, hChannel]
    by_cases hSame : channel = other
    · subst hSame
      rw [List.getElem?_set_self (hGathers.holds.channels ▸ hLt)] at hTaken
      rw [List.getElem?_set_self hLt] at hHeld
      cases hTaken
      cases hHeld
      rw [if_pos rfl]
      exact ⟨groups, rfl, hGroups⟩
    · rw [List.getElem?_set_ne hSame] at hTaken hHeld
      rw [if_neg hSame, List.append_nil]
      exact hGathers.groups other batches' lines' hTaken hHeld
  · rcases List.mem_append.mp hq with hBefore | hNew
    · exact hGathers.accepted q hBefore
    · rw [List.mem_singleton.mp hNew]
      exact ⟨hSome, hAccepted⟩
  · rw [List.length_set]
    rw [Indexer.picks_append_singleton, hChannel] at hOther
    rcases List.mem_append.mp hOther with hBefore | hNew
    · exact hGathers.picks other hBefore
    · rw [List.mem_singleton.mp hNew]
      exact hLt

/-- All that can come of a turn: dispatch reads no more, it fails with the item, or the item is a
point that is appended. -/
theorem Gathers.turn_cases (hGathers : Gathers x size base points s taken held)
    (item : Source.Item) :
    s.turn size item = .ended ∨
    (∃ e last, s.turn size item = .failed e last ∧ last.outlets = s.outlets ∧
      Rejected (Indexer.after x points) held.length points.length item e) ∨
    ∃ p next taken' held', item = .point p ∧ s.turn size item = .goesOn next ∧
      held'.length = held.length ∧ Gathers x size base (points ++ [p]) next taken' held' := by
  rcases hGathers.holds.dispatcher.take_cases size item with ⟨hTake, -⟩ | ⟨e, d, hTake, -⟩ |
    ⟨p, lines, pool, rfl, hSome, hAccepted, hClean, hHeld, hTake⟩
  · left
    simp only [turn, hTake]
  · right
    left
    have hRejected := Dispatcher.rejected_of_take hTake
    have hChannels : s.dispatcher.channels = held.length := by
      rw [Dispatcher.channels, hGathers.holds.dispatcher.slots, List.length_map]
    rw [hGathers.indexer, hGathers.count, hChannels] at hRejected
    exact ⟨e, { s with dispatcher := d }, by simp only [turn, hTake], rfl, hRejected⟩
  · right
    right
    have hLt := (List.getElem?_eq_some_iff.mp hHeld).1
    have hTaken := List.getElem?_eq_getElem (hGathers.holds.channels ▸ hLt)
    have hChannel : (Indexer.pick (Indexer.after x points) p).1 =
        (Indexer.pick s.dispatcher.indexer p).1 := by rw [hGathers.indexer]
    obtain ⟨groups, hBatches, hGroups⟩ := hGathers.groups _ _ _ hTaken hHeld
    obtain ⟨next, hTurn, hPoints, hIndexer, hNext⟩ :=
      hGathers.holds.turn_point hGathers.short hClean hTaken hHeld hTake
    rcases hNext with ⟨hFull, hNext⟩ | ⟨hShort, hNext⟩
    · rw [hBatches, ← List.map_singleton, ← List.map_append] at hNext
      exact ⟨p, next, _, _, rfl, hTurn, List.length_set,
        hGathers.append hChannel hLt hSome hAccepted hPoints hIndexer (hGroups.fill hFull) hNext⟩
    · rw [← set_of_getElem? hTaken, hBatches] at hNext
      exact ⟨p, next, _, _, rfl, hTurn, List.length_set,
        hGathers.append hChannel hLt hSome hAccepted hPoints hIndexer (hGroups.keep hShort) hNext⟩

/-- The loop fails with the first item that it rejects, and by then it has appended all points before
that one. -/
theorem Gathers.loop {limits : DispatchLimits}
    (hGathers : Gathers x limits.fullSize base points s taken held)
    (headers : Option (List String)) (items : List Source.Item) {e : DispatchError}
    (hFails : (s.loop limits headers items).result = .error e) :
    ∃ more item last taken' held',
      items = more.map .point ++ item :: (s.loop limits headers items).unread ∧
      Rejected (Indexer.after x (points ++ more)) held.length (points ++ more).length item e ∧
      (s.loop limits headers items).final.outlets = last.outlets ∧ held'.length = held.length ∧
      Gathers x limits.fullSize base (points ++ more) last taken' held' := by
  have hDone (headers : Option (List String)) (limitReached : Bool) (unread : List Source.Item)
      (t : Dispatch ι) {points : List Point} {taken : List (List LineBatch)}
      {held : List (List Point)} (hGathers : Gathers x limits.fullSize base points t taken held) :
      (t.finish headers limitReached unread).result ≠ .error e := by
    have hDelivers := hGathers.holds.finish (x := x) limits.fullSize_pos hGathers.short headers
      limitReached unread
    rw [hDelivers.result]
    nofun
  induction items generalizing points s taken held with
  | nil => exact absurd hFails (hDone _ _ _ _ hGathers)
  | cons item items ih =>
      rw [loop_cons] at hFails ⊢
      split at hFails
      · exact absurd hFails (hDone _ _ _ _ hGathers)
      · rename_i hOpen
        rw [if_neg hOpen]
        rcases hGathers.turn_cases item with hTurn | ⟨e', last, hTurn, hOutlets, hRejected⟩ |
          ⟨p, next, taken', held', rfl, hTurn, hLength, hNext⟩
        · rw [hTurn] at hFails
          exact absurd hFails (hDone _ _ _ _ hGathers)
        · rw [hTurn] at hFails ⊢
          cases hFails
          refine ⟨[], item, s, taken, held, rfl, ?_, hOutlets, rfl, ?_⟩
          · rwa [List.append_nil]
          · rwa [List.append_nil]
        · rw [hTurn] at hFails ⊢
          obtain ⟨more, item, last, taken'', held'', hItems, hRejected, hOutlets, hLength', hLast⟩ :=
            ih hNext hFails
          refine ⟨p :: more, item, last, taken'', held'', ?_, ?_, hOutlets,
            hLength'.trans hLength, ?_⟩
          · rw [List.map_cons, List.cons_append]
            exact congrArg _ hItems
          · rwa [hLength, List.append_assoc] at hRejected
          · rwa [List.append_assoc] at hLast

theorem Gathers.receivedOn (hGathers : Gathers x size base points s taken held) {channel : Nat}
    (hChannel : channel < held.length) :
    WholeBatches size (Indexer.routed x channel points) (s.receivedOn channel) := by
  have hTaken : channel < taken.length := hGathers.holds.channels ▸ hChannel
  obtain ⟨groups, hBatches, hGroups⟩ := hGathers.groups channel _ _
    (List.getElem?_eq_getElem hTaken) (List.getElem?_eq_getElem hChannel)
  have hReceived : s.receivedOn channel = groups.map ofLines := by
    rw [Dispatch.receivedOn, hGathers.holds.outlets, List.getElem?_map,
      List.getElem?_eq_getElem hTaken, hBatches]
    simp
  rw [hReceived]
  exact hGroups.wholeBatches

end

/-- Over open channels, what a failed run has sent are the whole batches of the points before the item
that it failed with. -/
theorem sent_of_failed (x : ι) {pool : Pool LineBatch} (hClean : pool.Clean) (channels : Nat)
    (limits : DispatchLimits) (source : Source.Stream) {e : DispatchError}
    (hFails : ((start x pool (List.replicate channels {})).run limits source).result = .error e) :
    ∃ appended, StoppedAt x channels source appended e
        ((start x pool (List.replicate channels {})).run limits source).unread ∧
      (∀ p ∈ appended, p ≠ [] ∧ p.Accepted) ∧
      (∀ channel ∈ Indexer.picks x appended, channel < channels) ∧
      ∀ channel < channels, WholeBatches limits.fullSize (Indexer.routed x channel appended)
        (((start x pool (List.replicate channels {})).run limits source).final.receivedOn channel) := by
  cases hHeaders : source.headers with
  | error f =>
      simp only [run, hHeaders] at hFails ⊢
      cases hFails
      refine ⟨[], .opening hHeaders, by simp, by simp [Indexer.picks], fun channel hChannel => ?_⟩
      have hNone : ((start x pool (List.replicate channels {})).tell source.opening).receivedOn
          channel = [] := by
        simp [receivedOn, tell, start, hChannel, Outlet.received]
      rw [hNone]
      exact (InFullGroups.nil limits.fullSize_pos).wholeBatches
  | ok headers =>
      have hFresh : Gathers x limits.fullSize (counted dispatchedCounter source.opening) []
          ((start x pool (List.replicate channels {})).tell (source.opening ++ headersTold headers))
          (List.replicate channels []) (List.replicate channels []) := by
        refine ⟨holds_opened x hClean channels source.opening headers, rfl, rfl, ?_, by simp,
          by simp [Indexer.picks]⟩
        intro channel batches lines hTaken hHeld
        rw [List.getElem?_replicate] at hTaken hHeld
        split at hTaken
        · rename_i hChannel
          rw [if_pos hChannel] at hHeld
          cases hTaken
          cases hHeld
          exact ⟨[], rfl, .nil limits.fullSize_pos⟩
        · cases hTaken
      simp only [run, hHeaders] at hFails ⊢
      obtain ⟨appended, item, last, taken, held, hItems, hRejected, hOutlets, hLength, hLast⟩ :=
        hFresh.loop headers source.items hFails
      rw [List.nil_append] at hRejected hLast
      rw [List.length_replicate] at hRejected hLength
      refine ⟨appended, .item hItems hRejected, hLast.accepted, hLength ▸ hLast.picks,
        fun channel hChannel => ?_⟩
      rw [Dispatch.receivedOn, hOutlets]
      exact hLast.receivedOn (hLength ▸ hChannel)

/-- A run that fails has sent whole batches only. If an item of the source is to blame, each channel
has got the whole batches of its points before that item, and nothing behind it was read. If a closed
channel is to blame, no channel has got anything that it does not get when all are open. -/
theorem failed_run_sends_whole_batches (x : ι) {pool : Pool LineBatch} (hClean : pool.Clean)
    (flags : List Bool) (limits : DispatchLimits) (source : Source.Stream) {e : DispatchError}
    (hFails : ((start x pool (flags.map fun closed => { closed })).run limits source).result =
      .error e) :
    let o := (start x pool (flags.map fun closed => { closed })).run limits source
    let whole := (start x pool (List.replicate flags.length {})).run limits source
    (∀ channel : Nat, flags[channel]? = some true → o.final.receivedOn channel = []) ∧
      ((∃ closed : Nat, e = .channelClosed closed ∧ flags[closed]? = some true ∧
          ∀ channel, o.final.receivedOn channel <+: whole.final.receivedOn channel) ∨
        ∃ appended, StoppedAt x flags.length source appended e o.unread ∧
          (∀ p ∈ appended, p ≠ [] ∧ p.Accepted) ∧
          (∀ channel ∈ Indexer.picks x appended, channel < flags.length) ∧
          ∀ channel < flags.length, WholeBatches limits.fullSize (Indexer.routed x channel appended)
            (o.final.receivedOn channel)) := by
  intro o whole
  have hBehind := behind_run x pool flags limits source
  refine ⟨hBehind.spared, ?_⟩
  rcases hBehind.agrees with ⟨hResult, hUnread, hReceived⟩ | ⟨closed, hResult, hFlag, hPrefix⟩
  · right
    obtain ⟨appended, hStopped, hAccepted, hPicks, hSent⟩ :=
      sent_of_failed x hClean flags.length limits source (hResult ▸ hFails)
    refine ⟨appended, hUnread ▸ hStopped, hAccepted, hPicks, fun channel hChannel => ?_⟩
    rw [hReceived channel]
    exact hSent channel hChannel
  · left
    rw [hFails] at hResult
    cases hResult
    exact ⟨closed, rfl, hFlag, hPrefix⟩

/-- Three points and one that no batch accepts. -/
def badFourth : Source.Stream where
  items := [.point (Utf8.encode "a x=1 1"), .point (Utf8.encode "b x=1,y=2 2"),
    .point (Utf8.encode "a x=3 3"), .point (Utf8.encode "b"), .point (Utf8.encode "a x=5 5")]

/-- The first channel has got the one batch that its two points fill. The point that the second one
holds never came to be sent, so it makes no difference that this channel is closed. -/
theorem failed_run_sends_whole_batches_badFourth :
    let o := (start (RoundRobin.ofChannels 2) (.ofCapacity 1)
      ([false, true].map fun closed => { closed })).run ⟨2, none⟩ badFourth
    let e := DispatchError.append 3 (Point.malformed (Utf8.encode "b"))
    o.result = .error e ∧ o.final.receivedOn 1 = [] ∧
      ∃ appended, StoppedAt (RoundRobin.ofChannels 2) 2 badFourth appended e o.unread ∧
        WholeBatches 2 (Indexer.routed (RoundRobin.ofChannels 2) 0 appended)
          (o.final.receivedOn 0) := by
  intro o e
  have hFails : o.result = .error e := by rfl
  obtain ⟨hSpared, hCause⟩ := failed_run_sends_whole_batches (RoundRobin.ofChannels 2)
    (Pool.Clean.ofCapacity 1) [false, true] ⟨2, none⟩ badFourth hFails
  refine ⟨hFails, hSpared 1 rfl, ?_⟩
  rcases hCause with ⟨closed, hClosed, -⟩ | ⟨appended, hStopped, -, -, hSent⟩
  · change DispatchError.append 3 _ = _ at hClosed
    cases hClosed
  · exact ⟨appended, hStopped, hSent 0 (by decide)⟩

end Dispatch
end BulkLoad
