import BulkLoad.Proofs.Dispatch.Groups
import BulkLoad.Proofs.Dispatch.Turn
import BulkLoad.Proofs.Write.Settling

/-!
What dispatch owes to the channels.

A channel is owed the batches it has taken and the lines of its open batch. A point moves from the
source to the lines of one channel and changes nothing for the others, so what a channel takes in the
end is known before the loop begins: what it took already, and the groups of its lines and of the
points that are routed to it.
-/
namespace BulkLoad

open LineBatch (open? ofLines)
open Journal

/-- An open channel that has taken these batches. -/
def Outlet.taking (batches : List LineBatch) : Outlet := { newestFirst := batches.reverse }

@[simp] theorem Outlet.received_taking (batches : List LineBatch) :
    (Outlet.taking batches).received = batches := by
  simp [Outlet.taking, Outlet.received]

namespace Dispatch

variable {ι : Type} {s : Dispatch ι} {base : Nat} {taken : List (List LineBatch)}
  {held : List (List Point)} {channel size : Nat} {batches : List LineBatch} {lines : List Point}

/-- Every channel has taken its batches and is owed its lines; each batch that was taken counts once
for its channel and once in all. -/
structure Holds (s : Dispatch ι) (base : Nat) (taken : List (List LineBatch))
    (held : List (List Point)) : Prop where
  dispatcher : s.dispatcher.Holds held
  outlets : s.outlets = taken.map Outlet.taking
  sent : s.sent = taken.map List.length
  counted : counted dispatchedCounter s.toldNewestFirst = base + sumOf List.length taken
  channels : held.length = taken.length

theorem amount_progress (batches points : Nat) (name : String) :
    Journal.counted name (progress batches points) = 0 := by
  unfold progress
  split <;> simp

theorem modify_map_length (hTaken : taken[channel]? = some batches) (b : LineBatch) :
    (taken.map List.length).modify channel (· + 1) =
      (taken.set channel (batches ++ [b])).map List.length := by
  apply List.ext_getElem?
  intro i
  rw [List.getElem?_modify, List.getElem?_map, List.getElem?_map, List.getElem?_set]
  by_cases hHere : channel = i
  · subst hHere
    obtain ⟨hLt, hGet⟩ := List.getElem?_eq_some_iff.mp hTaken
    simp [hLt, hGet]
  · simp [hHere]

theorem counted_headersTold (headers : Option (List String)) (name : String) :
    Journal.counted name (headersTold headers) = 0 := by
  cases headers with
  | none => rfl
  | some lines => simp [headersTold]

/-- What is told besides adds its own count of batches and changes nothing else. -/
theorem Holds.telling (hHolds : s.Holds base taken held) (told : Journal) :
    (s.tell told).Holds (base + Journal.counted dispatchedCounter told) taken held := by
  refine ⟨hHolds.dispatcher, hHolds.outlets, hHolds.sent, ?_, hHolds.channels⟩
  rw [tell, counted_append, counted_reverse, hHolds.counted]
  omega

/-- An open channel takes what it is sent. -/
theorem Holds.send (hHolds : s.Holds base taken held)
    (hTaken : taken[channel]? = some batches) (b : LineBatch) :
    ∃ next, s.send ⟨channel, b⟩ = .ok next ∧ next.dispatcher = s.dispatcher ∧
      next.Holds base (taken.set channel (batches ++ [b])) held := by
  have hOutlet : s.outlets[channel]? = some (Outlet.taking batches) := by
    rw [hHolds.outlets, List.getElem?_map, hTaken, Option.map_some]
  have hSent := modify_map_length hTaken b
  rw [← hHolds.sent] at hSent
  have hSend : s.send ⟨channel, b⟩ = .ok
      ({ s with
          outlets := s.outlets.set channel ((Outlet.taking batches).push b)
          sent := s.sent.modify channel (· + 1) }.tell
        (.count dispatchedCounter 1 ::
          progress (sumOf id (s.sent.modify channel (· + 1))) s.dispatcher.points)) := by
    simp [Dispatch.send, hOutlet, Outlet.taking]
  refine ⟨_, hSend, rfl, hHolds.dispatcher, ?_, hSent, ?_, ?_⟩
  · simp [tell, hHolds.outlets, List.map_set, Outlet.push, Outlet.taking]
  · have hSum := sumOf_set_add List.length (batches ++ [b]) hTaken
    have hCounted := hHolds.counted
    rw [List.length_append, List.length_singleton] at hSum
    simp only [tell, counted_append, counted_reverse, counted_cons, amount_count, amount_progress,
      hCounted]
    omega
  · simpa using hHolds.channels

theorem set_of_getElem? {α : Type} {as : List α} {i : Nat} {a : α} (hGet : as[i]? = some a) :
    as.set i a = as := by
  obtain ⟨hLt, hGet⟩ := List.getElem?_eq_some_iff.mp hGet
  rw [← hGet, List.set_getElem_self]

/-- The lines that are owed do not fill a batch. -/
def Short (size : Nat) (held : List (List Point)) : Prop := ∀ lines ∈ held, lines.length < size

theorem Short.set (hShort : Short size held) (hLines : lines.length < size) (channel : Nat) :
    Short size (held.set channel lines) := by
  intro other hOther
  rcases List.mem_or_eq_of_mem_set hOther with hBefore | hNew
  · exact hShort other hBefore
  · rwa [hNew]

theorem Short.clear (hShort : Short size held) (hSize : 0 < size) (channel : Nat) :
    Short size (held.set channel []) := by
  have hNone : ([] : List Point).length < size := hSize
  exact hShort.set hNone channel

/-- Sending an open batch settles what its channel is owed. -/
theorem Holds.flush (hHolds : s.Holds base taken held) (hTaken : taken[channel]? = some batches)
    (hHeld : held[channel]? = some lines) : ∃ next : Dispatch ι,
      (∀ channels, s.flushAll (channel :: channels) = next.flushAll channels) ∧
      next.dispatcher.points = s.dispatcher.points ∧
      next.Holds base (taken.set channel (batches ++ (open? lines).toList))
        (held.set channel []) := by
  have hFlush := hHolds.dispatcher.flush_eq hHeld
  have hSettled := hHolds.dispatcher.withLines hHolds.dispatcher.clean channel []
  have hMoved : { s with dispatcher := s.dispatcher.withLines s.dispatcher.pool channel [] }.Holds
      base taken (held.set channel []) :=
    ⟨hSettled, hHolds.outlets, hHolds.sent, hHolds.counted, by simpa using hHolds.channels⟩
  cases hOpen : open? lines with
  | none =>
      refine ⟨{ s with dispatcher := s.dispatcher.withLines s.dispatcher.pool channel [] },
        fun channels => by simp only [Dispatch.flushAll, hFlush, hOpen, Option.map_none], rfl, ?_⟩
      rw [Option.toList_none, List.append_nil, set_of_getElem? hTaken]
      exact hMoved
  | some b =>
      obtain ⟨next, hSend, hSame, hNext⟩ := hMoved.send hTaken b
      refine ⟨next, fun channels => ?_, by rw [hSame]; rfl, hNext⟩
      simp only [Dispatch.flushAll, hFlush, hOpen, Option.map_some, hSend]

/-- What each channel has taken in the end, when these points are still to come: its batches, and the
groups of its lines and of its share of the points. -/
def owed [Indexer ι] (size : Nat) (taken : List (List LineBatch)) (held : List (List Point)) (x : ι)
    (points : List Point) : List (List LineBatch) :=
  (taken.zip held).mapIdx fun channel both =>
    both.1 ++ (groupsOf size (both.2 ++ Indexer.routed x channel points)).map ofLines

section

variable [Indexer ι] {x : ι} {points : List Point}

/-- What is owed stays the same if it does so for the one channel that changed. -/
theorem owed_set {y : ι} {later : List Point} {batches' : List LineBatch} {lines' : List Point}
    (hTaken : taken[channel]? = some batches) (hHeld : held[channel]? = some lines)
    (hHere : batches' ++ (groupsOf size (lines' ++ Indexer.routed y channel later)).map ofLines =
      batches ++ (groupsOf size (lines ++ Indexer.routed x channel points)).map ofLines)
    (hElse : ∀ other, other ≠ channel → Indexer.routed y other later =
      Indexer.routed x other points) :
    owed size (taken.set channel batches') (held.set channel lines') y later =
      owed size taken held x points := by
  obtain ⟨hTakenLt, hTakenGet⟩ := List.getElem?_eq_some_iff.mp hTaken
  obtain ⟨hHeldLt, hHeldGet⟩ := List.getElem?_eq_some_iff.mp hHeld
  apply List.ext_getElem
  · simp [owed]
  · intro other hLeft hRight
    by_cases hOther : channel = other
    · subst hOther
      simp [owed, hHere, hTakenGet, hHeldGet]
    · simp [owed, hOther, hElse other (Ne.symm hOther)]

/-- A point among the lines of its channel is owed like one that is still to come. -/
theorem owed_kept {p : Point} (hTaken : taken[(Indexer.pick x p).1]? = some batches)
    (hHeld : held[(Indexer.pick x p).1]? = some lines) :
    owed size taken (held.set (Indexer.pick x p).1 (lines ++ [p])) (Indexer.pick x p).2 points =
      owed size taken held x (p :: points) := by
  have hSet : owed size (taken.set (Indexer.pick x p).1 batches)
      (held.set (Indexer.pick x p).1 (lines ++ [p])) (Indexer.pick x p).2 points =
        owed size taken held x (p :: points) := by
    apply owed_set hTaken hHeld
    · rw [Indexer.routed_cons_self, List.append_assoc, List.singleton_append]
    · exact fun other hOther => (Indexer.routed_cons_of_ne (Ne.symm hOther) points).symm
  rwa [set_of_getElem? hTaken] at hSet

/-- So is a point that fills a batch, for the batch is a group of its channel. -/
theorem owed_full {p : Point} (hTaken : taken[(Indexer.pick x p).1]? = some batches)
    (hHeld : held[(Indexer.pick x p).1]? = some lines) (hFull : lines.length + 1 = size) :
    owed size (taken.set (Indexer.pick x p).1 (batches ++ [ofLines (lines ++ [p])]))
        (held.set (Indexer.pick x p).1 []) (Indexer.pick x p).2 points =
      owed size taken held x (p :: points) := by
  have hSize : 0 < size := by omega
  have hGroup : (lines ++ [p]).length = size := by simpa using hFull
  apply owed_set hTaken hHeld
  · have hFirst := List.append_cons lines p
      (Indexer.routed (Indexer.pick x p).2 (Indexer.pick x p).1 points)
    rw [Indexer.routed_cons_self, hFirst, groupsOf_append hSize hGroup, List.map_cons,
      List.nil_append, List.append_assoc, List.singleton_append]
  · exact fun other hOther => (Indexer.routed_cons_of_ne (Ne.symm hOther) points).symm

/-- Lines that do not fill a batch are owed as they are. -/
theorem map_groupsOf_of_lt (hShort : lines.length < size) :
    (groupsOf size lines).map ofLines = (open? lines).toList := by
  by_cases hNone : lines = []
  · subst hNone
    simp [groupsOf_nil hShort, open?]
  · simp [groupsOf_of_le hNone (Nat.le_of_lt hShort), open?, hNone]

theorem owed_flushed (hTaken : taken[channel]? = some batches)
    (hHeld : held[channel]? = some lines) (hShort : lines.length < size) :
    owed size (taken.set channel (batches ++ (open? lines).toList)) (held.set channel []) x [] =
      owed size taken held x [] := by
  have hSize : 0 < size := Nat.zero_lt_of_lt hShort
  apply owed_set hTaken hHeld
  · simp [groupsOf_nil hSize, map_groupsOf_of_lt hShort]
  · exact fun other hOther => rfl

theorem owed_of_settled (hSize : 0 < size) (hLength : held.length = taken.length)
    (hSettled : ∀ lines ∈ held, lines = []) : owed size taken held x [] = taken := by
  apply List.ext_getElem
  · simp [owed, hLength]
  · intro other hLeft hRight
    have hNone : held[other] = [] := hSettled _ (List.getElem_mem _)
    simp [owed, hNone, groupsOf_nil hSize]

/-- Once the channels are flushed they are owed nothing, and no channel is owed anything else than
before. -/
theorem Holds.flushAll (hHolds : s.Holds base taken held) (hShort : Short size held)
    (channels : List Nat) (hChannels : ∀ channel ∈ channels, channel < held.length) :
    ∃ (final : Dispatch ι) (taken' : List (List LineBatch)) (held' : List (List Point)),
      s.flushAll channels = (.ok (), final) ∧ final.Holds base taken' held' ∧
      final.dispatcher.points = s.dispatcher.points ∧
      owed size taken' held' x [] = owed size taken held x [] ∧
      held'.length = held.length ∧
      (∀ channel : Nat, held[channel]? = some [] → held'[channel]? = some []) ∧
      ∀ channel ∈ channels, held'[channel]? = some [] := by
  induction channels generalizing s taken held with
  | nil => exact ⟨s, taken, held, rfl, hHolds, rfl, rfl, rfl, fun _ hNone => hNone, by simp⟩
  | cons channel channels ih =>
      have hLt : channel < held.length := hChannels channel List.mem_cons_self
      have hHeld : held[channel]? = some held[channel] := List.getElem?_eq_getElem hLt
      have hTakenLt : channel < taken.length := hHolds.channels ▸ hLt
      have hTaken : taken[channel]? = some taken[channel] := List.getElem?_eq_getElem hTakenLt
      have hLines := hShort _ (List.getElem_mem hLt)
      have hSize : 0 < size := Nat.zero_lt_of_lt hLines
      obtain ⟨next, hStep, hPoints, hNext⟩ := hHolds.flush hTaken hHeld
      obtain ⟨final, taken', held', hRest, hFinal, hFinalPoints, hOwed, hLength, hKept, hDone⟩ :=
        ih hNext (hShort.clear hSize channel) (by
          intro other hOther
          simpa using hChannels other (List.mem_cons_of_mem _ hOther))
      have hHere : (held.set channel [])[channel]? = some [] := by simp [hLt]
      refine ⟨final, taken', held', by rw [hStep, hRest], hFinal, hFinalPoints.trans hPoints,
        hOwed.trans (owed_flushed hTaken hHeld hLines), by simpa using hLength, ?_, ?_⟩
      · intro other hNone
        apply hKept
        by_cases hSame : channel = other
        · exact hSame ▸ hHere
        · rwa [List.getElem?_set_ne hSame]
      · intro other hOther
        rcases List.mem_cons.mp hOther with rfl | hLater
        · exact hKept _ hHere
        · exact hDone other hLater

/-- How dispatch ends when every channel has got these batches. -/
structure Delivers (o : DispatchOutcome ι) (base points : Nat) (taken : List (List LineBatch))
    (headers : Option (List String)) (limitReached : Bool) : Prop where
  result : o.result = .ok ⟨points, taken.map List.length, headers, limitReached⟩
  outlets : o.final.outlets = taken.map Outlet.taking
  counted : counted dispatchedCounter o.final.told = base + sumOf List.length taken

/-- At the end of the loop all that is owed is sent. -/
theorem Holds.finish (hHolds : s.Holds base taken held) (hSize : 0 < size)
    (hShort : Short size held) (headers : Option (List String)) (limitReached : Bool)
    (unread : List Source.Item) :
    Delivers (s.finish headers limitReached unread) base s.dispatcher.points
      (owed size taken held x []) headers limitReached := by
  have hOutlets : s.outlets.length = held.length := by
    rw [hHolds.outlets, List.length_map, hHolds.channels]
  obtain ⟨final, taken', held', hFlush, hFinal, hPoints, hOwed, hLength, -, hDone⟩ :=
    hHolds.flushAll (x := x) hShort (List.range s.outlets.length)
      (fun channel hChannel => hOutlets ▸ List.mem_range.mp hChannel)
  have hSettled : ∀ lines ∈ held', lines = [] := by
    intro lines hLines
    obtain ⟨channel, hLt, rfl⟩ := List.getElem_of_mem hLines
    have hNone := hDone channel (List.mem_range.mpr (by omega))
    rw [List.getElem?_eq_getElem hLt] at hNone
    exact Option.some.inj hNone
  have hTaken : taken' = owed size taken held x [] := by
    rw [← hOwed, owed_of_settled hSize hFinal.channels hSettled]
  have hEnd : s.finish headers limitReached unread =
      ⟨.ok ⟨final.dispatcher.points, final.sent, headers, limitReached⟩,
        final.tell [final.finished limitReached], unread⟩ := by
    simp only [Dispatch.finish, hFlush]
  rw [hEnd, ← hTaken]
  refine ⟨by rw [hPoints, hFinal.sent], hFinal.outlets, ?_⟩
  have hCounted := hFinal.counted
  simpa [told, tell, finished, counted_reverse, counted_cons] using hCounted

/-- A turn with a point that is taken: the point joins the lines of its channel, and if they fill a
batch the channel takes it. -/
theorem Holds.turn_point (hHolds : s.Holds base taken held) (hShort : Short size held) {p : Point}
    {pool : Pool LineBatch} (hClean : pool.Clean)
    (hTaken : taken[(Indexer.pick s.dispatcher.indexer p).1]? = some batches)
    (hHeld : held[(Indexer.pick s.dispatcher.indexer p).1]? = some lines)
    (hTake : s.dispatcher.take size (.point p) =
      if size ≤ lines.length + 1 then
        .full ⟨(Indexer.pick s.dispatcher.indexer p).1, ofLines (lines ++ [p])⟩
          ((s.dispatcher.routedOn p).withLines pool (Indexer.pick s.dispatcher.indexer p).1 [])
      else
        .kept ((s.dispatcher.routedOn p).withLines pool (Indexer.pick s.dispatcher.indexer p).1
          (lines ++ [p]))) :
    ∃ next : Dispatch ι, s.turn size (.point p) = .goesOn next ∧
      next.dispatcher.points = s.dispatcher.points + 1 ∧
      next.dispatcher.indexer = (Indexer.pick s.dispatcher.indexer p).2 ∧
      (lines.length + 1 = size ∧
          next.Holds base
            (taken.set (Indexer.pick s.dispatcher.indexer p).1 (batches ++ [ofLines (lines ++ [p])]))
            (held.set (Indexer.pick s.dispatcher.indexer p).1 []) ∨
        lines.length + 1 < size ∧
          next.Holds base taken
            (held.set (Indexer.pick s.dispatcher.indexer p).1 (lines ++ [p]))) := by
  have hLines := hShort _ (List.mem_of_getElem? hHeld)
  have hRouted : (s.dispatcher.routedOn p).Holds held :=
    ⟨hHolds.dispatcher.clean, hHolds.dispatcher.slots⟩
  by_cases hFull : size ≤ lines.length + 1
  · rw [if_pos hFull] at hTake
    have hMoved : Dispatch.Holds { s with dispatcher :=
        (s.dispatcher.routedOn p).withLines pool (Indexer.pick s.dispatcher.indexer p).1 [] } base
        taken (held.set (Indexer.pick s.dispatcher.indexer p).1 []) :=
      ⟨hRouted.withLines hClean _ [], hHolds.outlets, hHolds.sent, hHolds.counted,
        by simpa using hHolds.channels⟩
    obtain ⟨next, hSend, hSame, hNext⟩ := hMoved.send hTaken (ofLines (lines ++ [p]))
    refine ⟨next, by simp only [turn, hTake, hSend], by rw [hSame]; rfl, by rw [hSame]; rfl,
      .inl ⟨by omega, hNext⟩⟩
  · rw [if_neg hFull] at hTake
    let moved : Dispatcher ι := (s.dispatcher.routedOn p).withLines pool
      (Indexer.pick s.dispatcher.indexer p).1 (lines ++ [p])
    refine ⟨{ s with dispatcher := moved }, by simp only [turn, hTake, moved], rfl, rfl,
      .inr ⟨by omega, ?_⟩⟩
    exact ⟨hRouted.withLines hClean _ (lines ++ [p]), hHolds.outlets, hHolds.sent, hHolds.counted,
      by simpa using hHolds.channels⟩

/-- One turn of the loop with a point that is taken: what the channels are owed, the point included,
stays the same. -/
theorem Holds.loop_point (hHolds : s.Holds base taken held) {limits : DispatchLimits}
    (hShort : Short limits.fullSize held) (hOpen : limits.reached s.dispatcher.points = false)
    {p : Point} {pool : Pool LineBatch} (hClean : pool.Clean)
    (hHeld : held[(Indexer.pick s.dispatcher.indexer p).1]? = some lines)
    (hTake : s.dispatcher.take limits.fullSize (.point p) =
      if limits.fullSize ≤ lines.length + 1 then
        .full ⟨(Indexer.pick s.dispatcher.indexer p).1, ofLines (lines ++ [p])⟩
          ((s.dispatcher.routedOn p).withLines pool (Indexer.pick s.dispatcher.indexer p).1 [])
      else
        .kept ((s.dispatcher.routedOn p).withLines pool (Indexer.pick s.dispatcher.indexer p).1
          (lines ++ [p])))
    (headers : Option (List String)) (items : List Source.Item) :
    ∃ (next : Dispatch ι) (taken' : List (List LineBatch)) (held' : List (List Point)),
      s.loop limits headers (.point p :: items) = next.loop limits headers items ∧
      next.Holds base taken' held' ∧ Short limits.fullSize held' ∧ held'.length = held.length ∧
      next.dispatcher.points = s.dispatcher.points + 1 ∧
      next.dispatcher.indexer = (Indexer.pick s.dispatcher.indexer p).2 ∧
      ∀ points, owed limits.fullSize taken' held' (Indexer.pick s.dispatcher.indexer p).2 points =
        owed limits.fullSize taken held s.dispatcher.indexer (p :: points) := by
  have hLt := (List.getElem?_eq_some_iff.mp hHeld).1
  have hTaken := List.getElem?_eq_getElem (hHolds.channels ▸ hLt)
  obtain ⟨next, hTurn, hPoints, hIndexer, hNext⟩ :=
    hHolds.turn_point hShort hClean hTaken hHeld hTake
  have hLoop : s.loop limits headers (.point p :: items) = next.loop limits headers items := by
    rw [loop_cons, hOpen, hTurn]
    rfl
  rcases hNext with ⟨hFull, hNext⟩ | ⟨hStillShort, hNext⟩
  · exact ⟨next, _, _, hLoop, hNext, hShort.clear limits.fullSize_pos _, by simp, hPoints, hIndexer,
      fun points => owed_full hTaken hHeld hFull⟩
  · exact ⟨next, _, _, hLoop, hNext, hShort.set (by simpa using hStillShort) _, by simp, hPoints,
      hIndexer, fun points => owed_kept hTaken hHeld⟩

/-- Either all that was owed is delivered, or something was wrong with a request, a point or a
choice of channel. -/
def Resolves (limits : DispatchLimits) (headers : Option (List String)) (base : Nat)
    (s : Dispatch ι) (taken : List (List LineBatch)) (held : List (List Point))
    (items : List Source.Item) (points : List Point) : Prop :=
  (Delivers (s.loop limits headers items) base (s.dispatcher.points + points.length)
      (owed limits.fullSize taken held s.dispatcher.indexer points) headers
      (limits.reached (s.dispatcher.points + points.length)) ∧
    (∀ p ∈ points, p.Accepted) ∧
    ∀ channel ∈ Indexer.picks s.dispatcher.indexer points, channel < held.length) ∨
  ((∃ e, (s.loop limits headers items).result = .error e) ∧
    ((∃ item ∈ items, ¬item.Sound) ∨ (∃ p ∈ points, ¬p.Accepted) ∨
      ∃ channel ∈ Indexer.picks s.dispatcher.indexer points, held.length ≤ channel))

/-- A step that takes a point passes the outcome of the later ones on. -/
theorem Resolves.cons {limits : DispatchLimits} {headers : Option (List String)}
    {next : Dispatch ι} {taken' : List (List LineBatch)} {held' : List (List Point)}
    {items : List Source.Item} {p : Point}
    (hLater : Resolves limits headers base next taken' held' items points)
    (hLoop : s.loop limits headers (.point p :: items) = next.loop limits headers items)
    (hPoints : next.dispatcher.points = s.dispatcher.points + 1)
    (hIndexer : next.dispatcher.indexer = (Indexer.pick s.dispatcher.indexer p).2)
    (hOwed : owed limits.fullSize taken' held' (Indexer.pick s.dispatcher.indexer p).2 points =
      owed limits.fullSize taken held s.dispatcher.indexer (p :: points))
    (hLength : held'.length = held.length) (hAccepted : p.Accepted)
    (hPick : (Indexer.pick s.dispatcher.indexer p).1 < held.length) :
    Resolves limits headers base s taken held (.point p :: items) (p :: points) := by
  have hCount : next.dispatcher.points + points.length =
      s.dispatcher.points + (p :: points).length := by
    rw [hPoints, List.length_cons]
    omega
  unfold Resolves at hLater ⊢
  rw [hLoop]
  rw [hCount, hIndexer, hOwed] at hLater
  rcases hLater with ⟨hDelivers, hAll, hPicks⟩ | ⟨hFails, hCause⟩
  · left
    refine ⟨hDelivers, fun q hq => ?_, fun channel hChannel => ?_⟩
    · rcases List.mem_cons.mp hq with rfl | hLater
      · exact hAccepted
      · exact hAll q hLater
    · rcases List.mem_cons.mp hChannel with rfl | hLater
      · exact hPick
      · exact hLength ▸ hPicks channel hLater
  · right
    refine ⟨hFails, ?_⟩
    rcases hCause with ⟨item, hItem, hBad⟩ | ⟨q, hq, hBad⟩ | ⟨channel, hChannel, hBad⟩
    · exact .inl ⟨item, List.mem_cons_of_mem _ hItem, hBad⟩
    · exact .inr (.inl ⟨q, List.mem_cons_of_mem _ hq, hBad⟩)
    · exact .inr (.inr ⟨channel, List.mem_cons_of_mem _ hChannel, hLength ▸ hBad⟩)

theorem Holds.loop (hHolds : s.Holds base taken held) {limits : DispatchLimits}
    (hShort : Short limits.fullSize held) (headers : Option (List String))
    (items : List Source.Item) :
    Resolves limits headers base s taken held items
      (limits.cut s.dispatcher.points (Source.leading items)) := by
  have hSize := limits.fullSize_pos
  induction items generalizing s taken held with
  | nil =>
      left
      simp only [Source.leading, DispatchLimits.cut_nil]
      exact ⟨hHolds.finish hSize hShort headers _ [], by simp, by simp [Indexer.picks]⟩
  | cons item items ih =>
      by_cases hReached : limits.reached s.dispatcher.points = true
      · left
        rw [DispatchLimits.cut_of_reached hReached]
        simp only [Dispatch.loop, hReached, if_true, List.length_nil, Nat.add_zero]
        exact ⟨hHolds.finish hSize hShort headers true (item :: items), by simp,
          by simp [Indexer.picks]⟩
      · rw [Bool.not_eq_true] at hReached
        rcases hHolds.dispatcher.take_cases limits.fullSize item with
          ⟨hTake, hNone⟩ | ⟨e, d, hTake, hCause⟩ | ⟨p, lines, pool, rfl, hSome, hAccepted, hClean,
            hHeld, hTake⟩
        · left
          rw [hNone, DispatchLimits.cut_nil]
          simp only [Dispatch.loop, hReached, Bool.false_eq_true, if_false, hTake, List.length_nil,
            Nat.add_zero]
          exact ⟨hHolds.finish hSize hShort headers false items, by simp, by simp [Indexer.picks]⟩
        · right
          refine ⟨⟨e, by simp [Dispatch.loop, hReached, hTake]⟩, ?_⟩
          rcases hCause with hUnsound | ⟨p, rfl, hSome, hBad⟩
          · exact .inl ⟨item, List.mem_cons_self, hUnsound⟩
          · right
            have hLeading : Source.leading (.point p :: items) = p :: Source.leading items := by
              simp [Source.leading, hSome]
            rw [hLeading, DispatchLimits.cut_cons hReached]
            rcases hBad with hOutside | hRefused
            · exact .inr ⟨_, List.mem_cons_self, hOutside⟩
            · exact .inl ⟨p, List.mem_cons_self, hRefused⟩
        · have hLeading : Source.leading (.point p :: items) = p :: Source.leading items := by
            simp [Source.leading, hSome]
          rw [hLeading, DispatchLimits.cut_cons hReached]
          obtain ⟨next, taken', held', hLoop, hNext, hNextShort, hLength, hPoints, hIndexer, hOwed⟩ :=
            hHolds.loop_point hShort hReached hClean hHeld hTake headers items
          have hLater := ih hNext hNextShort
          rw [hPoints] at hLater
          exact hLater.cons hLoop hPoints hIndexer (hOwed _) hLength hAccepted
            (List.getElem?_eq_some_iff.mp hHeld).1

end

end Dispatch
end BulkLoad
