import BulkLoad.Proofs.Dispatch.Owed

/-!
A run of dispatch cuts the points of its source into batches.

Every channel takes its share of the points in groups of one size. How fast the open batches fill is
up to the indexer and does not show in what the channels take.
-/
namespace BulkLoad

open LineBatch (ofLines)
open Journal

/-- A channel took these points in batches of a size, only the last of which may be smaller. -/
structure Outlet.TookInGroups (o : Outlet) (size : Nat) (points : List Point) : Prop where
  stillOpen : o.closed = false
  lines : o.received.map LineBatch.lines = groupsOf size points
  payloads : o.received.map LineBatch.payload =
    (groupsOf size points).map fun group => group.flatMap (· ++ [LineBatch.newline])
  rows : o.received.map LineBatch.rows = (groupsOf size points).map (sumOf Point.rowCount)
  sizes : o.received.map LineBatch.points = (groupsOf size points).map List.length
  nonempty : ∀ b ∈ o.received, 0 < b.points ∧ b.points ≤ size
  full : ∀ b ∈ o.received.dropLast, b.points = size
  all : o.received.flatMap LineBatch.lines = points

theorem Outlet.tookInGroups_taking {size : Nat} (hSize : 0 < size) (points : List Point) :
    (Outlet.taking ((groupsOf size points).map ofLines)).TookInGroups size points := by
  have hPayload (group : List Point) :
      (ofLines group).payload = group.flatMap (· ++ [LineBatch.newline]) := by
    rw [LineBatch.payload, LineBatch.lines_ofLines]
  refine ⟨rfl, ?_, ?_, ?_, ?_, ?_, ?_, ?_⟩
  · simp [Function.comp_def]
  · simp [Function.comp_def, hPayload]
  · simp [Function.comp_def]
  · simp [Function.comp_def]
  · intro b hb
    rw [received_taking] at hb
    obtain ⟨group, hGroup, rfl⟩ := List.mem_map.mp hb
    obtain ⟨hSome, hLe⟩ := of_mem_groupsOf hSize hGroup
    exact ⟨List.length_pos_iff.mpr hSome, hLe⟩
  · intro b hb
    rw [received_taking, ← List.map_dropLast] at hb
    obtain ⟨group, hGroup, rfl⟩ := List.mem_map.mp hb
    exact length_of_mem_dropLast_groupsOf hSize hGroup
  · rw [received_taking, List.flatMap_map]
    simpa [List.flatMap_id'] using flatten_groupsOf hSize points

/-- The batches that went to a channel. -/
def Dispatch.receivedOn {ι : Type} (s : Dispatch ι) (channel : Nat) : List LineBatch :=
  (s.outlets[channel]?.map Outlet.received).getD []

/-- A batch that is sent goes to its channel, after those before it. -/
theorem Dispatch.receivedOn_send {ι : Type} {s next : Dispatch ι} {p : Parcel}
    (hSend : s.send p = .ok next) (channel : Nat) :
    next.receivedOn channel =
      if channel = p.channel then s.receivedOn channel ++ [p.batch] else s.receivedOn channel := by
  unfold Dispatch.send at hSend
  split at hSend
  · cases hSend
  · rename_i outlet hOutlet
    split at hSend
    · cases hSend
    · cases hSend
      by_cases hHere : channel = p.channel
      · subst hHere
        obtain ⟨hLt, rfl⟩ := List.getElem?_eq_some_iff.mp hOutlet
        simp [receivedOn, tell, hLt, Outlet.push, Outlet.received]
      · simp [receivedOn, tell, hHere, List.getElem?_set_ne (Ne.symm hHere)]

/-- A batch goes to a channel that is there, and no channel comes or goes. -/
theorem Dispatch.outlets_send {ι : Type} {s next : Dispatch ι} {p : Parcel}
    (hSend : s.send p = .ok next) :
    p.channel < s.outlets.length ∧ next.outlets.length = s.outlets.length := by
  unfold Dispatch.send at hSend
  split at hSend
  · cases hSend
  · rename_i outlet hOutlet
    split at hSend
    · cases hSend
    · cases hSend
      exact ⟨(List.getElem?_eq_some_iff.mp hOutlet).1, List.length_set ..⟩

namespace Dispatch

variable {ι : Type} [Indexer ι]

/-- What each channel takes of the points in a run. -/
def shares (size channels : Nat) (x : ι) (points : List Point) : List (List LineBatch) :=
  (List.range channels).map fun channel =>
    (groupsOf size (Indexer.routed x channel points)).map ofLines

theorem getElem?_shares {channels channel : Nat} (hChannel : channel < channels) (size : Nat)
    (x : ι) (points : List Point) : (shares size channels x points)[channel]? =
      some ((groupsOf size (Indexer.routed x channel points)).map ofLines) := by
  rw [shares, List.getElem?_map, List.getElem?_range hChannel, Option.map_some]

theorem owed_replicate (size channels : Nat) (x : ι) (points : List Point) :
    owed size (List.replicate channels []) (List.replicate channels []) x points =
      shares size channels x points := by
  apply List.ext_getElem
  · simp [owed, shares]
  · intro channel hLeft hRight
    simp [owed, shares]

omit [Indexer ι] in
/-- Before its first item dispatch has sent nothing and owes nothing. -/
theorem holds_opened (x : ι) {pool : Pool LineBatch} (hClean : pool.Clean) (channels : Nat)
    (opening : Journal) (headers : Option (List String)) :
    Holds ((start x pool (List.replicate channels {})).tell (opening ++ headersTold headers))
      (counted dispatchedCounter opening) (List.replicate channels [])
      (List.replicate channels []) := by
  have hFresh : Holds (start x pool (List.replicate channels {})) 0 (List.replicate channels [])
      (List.replicate channels []) := by
    refine ⟨⟨hClean, ?_⟩, ?_, ?_, ?_, by simp⟩
    · simp [start, Dispatcher.start, LineBatch.open?]
    · simp [start, Outlet.taking]
    · simp [start]
    · simp [start, sumOf_replicate]
  have hOpened := hFresh.telling (opening ++ headersTold headers)
  rwa [counted_append, counted_headersTold, Nat.zero_add, Nat.add_zero] at hOpened

/-- How a run over fresh channels ends: it delivers every share, or it fails for a cause. -/
theorem run_cases (x : ι) {pool : Pool LineBatch} (hClean : pool.Clean) (channels : Nat)
    (limits : DispatchLimits) {source : Source.Stream} {headers : Option (List String)}
    (hHeaders : source.headers = .ok headers) :
    let points := limits.cut 0 source.points
    let o := (start x pool (List.replicate channels {})).run limits source
    (Delivers o (counted dispatchedCounter source.opening) points.length
        (shares limits.fullSize channels x points) headers (limits.reached points.length) ∧
      (∀ p ∈ points, p.Accepted) ∧ ∀ channel ∈ Indexer.picks x points, channel < channels) ∨
    ((∃ e, o.result = .error e) ∧
      ((∃ item ∈ source.items, ¬item.Sound) ∨ (∃ p ∈ points, ¬p.Accepted) ∨
        ∃ channel ∈ Indexer.picks x points, channels ≤ channel)) := by
  have hOpened := holds_opened x hClean channels source.opening headers
  have hShort : Short limits.fullSize (List.replicate channels []) := by
    intro lines hLines
    rw [(List.mem_replicate.mp hLines).2]
    exact limits.fullSize_pos
  have hRun : (start x pool (List.replicate channels {})).run limits source =
      ((start x pool (List.replicate channels {})).tell
        (source.opening ++ headersTold headers)).loop limits headers source.items := by
    simp only [run, hHeaders]
  have hLoop := hOpened.loop hShort headers source.items
  unfold Resolves at hLoop
  rw [← hRun] at hLoop
  simpa [tell, start, Dispatcher.start, owed_replicate, Source.Stream.points] using hLoop

/-- Dispatch that succeeds has delivered every share. -/
theorem delivers_of_run (x : ι) {pool : Pool LineBatch} (hClean : pool.Clean) {channels : Nat}
    {limits : DispatchLimits} {source : Source.Stream} {d : DispatchSummary}
    (hResult : ((start x pool (List.replicate channels {})).run limits source).result = .ok d) :
    let points := limits.cut 0 source.points
    Delivers ((start x pool (List.replicate channels {})).run limits source)
        (counted dispatchedCounter source.opening) points.length
        (shares limits.fullSize channels x points) d.headers (limits.reached points.length) ∧
      (∀ p ∈ points, p.Accepted) ∧ ∀ channel ∈ Indexer.picks x points, channel < channels := by
  intro points
  cases hHeaders : source.headers with
  | error f =>
      rw [run, hHeaders] at hResult
      cases hResult
  | ok headers =>
      rcases run_cases x hClean channels limits hHeaders with hDelivered | ⟨⟨e, hFails⟩, -⟩
      · have hSame := hDelivered.1.result
        rw [hResult] at hSame
        cases hSame
        exact hDelivered
      · rw [hFails] at hResult
        cases hResult

section

variable {x : ι} {points : List Point} {channels size base count : Nat} {o : DispatchOutcome ι}
  {headers : Option (List String)} {limitReached : Bool}

theorem Delivers.receivedOn (hDelivers : Delivers o base count (shares size channels x points)
    headers limitReached) {channel : Nat} (hChannel : channel < channels) :
    o.final.receivedOn channel = (groupsOf size (Indexer.routed x channel points)).map ofLines := by
  have hShare := getElem?_shares hChannel size x points
  rw [Dispatch.receivedOn, hDelivers.outlets, List.getElem?_map, hShare]
  simp

/-- What is measured on batches adds up, over all channels, to what is measured on the points. -/
theorem Delivers.sumOf_receivedOn (hDelivers : Delivers o base count
      (shares size channels x points) headers limitReached) (hSize : 0 < size)
    (hPicks : ∀ channel ∈ Indexer.picks x points, channel < channels)
    {measure : LineBatch → Nat} {weight : Point → Nat}
    (hMeasure : ∀ lines, measure (ofLines lines) = sumOf weight lines) :
    sumOf (fun channel => sumOf measure (o.final.receivedOn channel)) (List.range channels) =
      sumOf weight points := by
  rw [← Indexer.sumOf_routed weight hPicks]
  apply sumOf_congr
  intro channel hChannel
  rw [hDelivers.receivedOn (List.mem_range.mp hChannel), sumOf_map]
  have hGroups := sumOf_flatMap weight id (groupsOf size (Indexer.routed x channel points))
  rw [List.flatMap_id, flatten_groupsOf hSize] at hGroups
  rw [hGroups]
  exact sumOf_congr fun lines _ => hMeasure lines

theorem Delivers.batches (hDelivers : Delivers o base count (shares size channels x points)
      headers limitReached) {d : DispatchSummary} (hResult : o.result = .ok d) :
    d.batchesPerChannel =
      (List.range channels).map fun channel => (o.final.receivedOn channel).length := by
  rw [hDelivers.result] at hResult
  cases hResult
  rw [shares, List.map_map]
  apply List.map_congr_left
  intro channel hChannel
  rw [hDelivers.receivedOn (List.mem_range.mp hChannel), Function.comp_apply]

end

/-- Over a source without errors, with an indexer that stays within the channels and points that
batches accept, dispatch succeeds, and every channel takes its share of the points that come before
the end and within the limit, in groups of the batch size. -/
theorem run_partitions (x : ι) {pool : Pool LineBatch} (hClean : pool.Clean) (channels : Nat)
    (limits : DispatchLimits) {source : Source.Stream} {headers : Option (List String)}
    (hHeaders : source.headers = .ok headers) (hSound : ∀ item ∈ source.items, item.Sound)
    (hAccepted : ∀ p ∈ limits.cut 0 source.points, p.Accepted)
    (hPicks : ∀ channel ∈ Indexer.picks x (limits.cut 0 source.points), channel < channels) :
    let points := limits.cut 0 source.points
    let o := (start x pool (List.replicate channels {})).run limits source
    ∃ summary, o.result = .ok summary ∧
      summary.points = points.length ∧
      o.final.outlets.length = channels ∧ summary.batchesPerChannel.length = channels ∧
      (∀ channel < channels,
        (∃ outlet, o.final.outlets[channel]? = some outlet ∧
          outlet.TookInGroups limits.fullSize (Indexer.routed x channel points)) ∧
        summary.batchesPerChannel[channel]? =
          some (((Indexer.routed x channel points).length + limits.fullSize - 1) /
            limits.fullSize)) ∧
      summary.batches = sumOf id summary.batchesPerChannel ∧
      counted dispatchedCounter o.final.told =
        counted dispatchedCounter source.opening + summary.batches := by
  intro points o
  rcases run_cases x hClean channels limits hHeaders with
    ⟨hDelivers, -, -⟩ | ⟨-, ⟨item, hItem, hBad⟩ | ⟨p, hp, hBad⟩ | ⟨channel, hChannel, hBad⟩⟩
  · refine ⟨_, hDelivers.result, rfl, ?_, ?_, ?_, rfl, ?_⟩
    · simp [hDelivers.outlets, o, shares]
    · simp [shares]
    · intro channel hChannel
      have hShare := getElem?_shares hChannel limits.fullSize x points
      refine ⟨⟨_, ?_, Outlet.tookInGroups_taking limits.fullSize_pos _⟩, ?_⟩
      · rw [hDelivers.outlets, List.getElem?_map, hShare, Option.map_some]
      · rw [List.getElem?_map, hShare, Option.map_some, List.length_map, length_groupsOf, groupCount]
    · rw [hDelivers.counted, DispatchSummary.batches, sumOf_map]
      rfl
  · exact absurd (hSound item hItem) hBad
  · exact absurd (hAccepted p hp) hBad
  · exact absurd (hPicks channel hChannel) (Nat.not_lt.mpr hBad)

/-- Two points of one series, two of another, and the end. -/
def fourPoints : Source.Stream where
  items := [.point (Utf8.encode "a x=1 1"), .point (Utf8.encode "b x=1,y=2 2"),
    .point (Utf8.encode "a x=3 3"), .point (Utf8.encode "b x=4 4"), .done]

/-- The third point is the last within the limit, and it fills no batch. -/
theorem run_partitions_in_turn :
    let points := DispatchLimits.cut ⟨2, some 3⟩ 0 fourPoints.points
    let o := (start (RoundRobin.ofChannels 2) (.ofCapacity 1) (List.replicate 2 {})).run ⟨2, some 3⟩
      fourPoints
    (∀ item ∈ fourPoints.items, item.Sound) ∧ (∀ p ∈ points, p.Accepted) ∧
      (∀ channel ∈ Indexer.picks (RoundRobin.ofChannels 2) points, channel < 2) ∧
      ∃ summary, o.result = .ok summary ∧ summary.points = 3 ∧
        (∃ outlet, o.final.outlets[0]? = some outlet ∧ outlet.TookInGroups 2
          [Utf8.encode "a x=1 1", Utf8.encode "a x=3 3"]) ∧
        summary.batchesPerChannel[1]? = some 1 := by
  intro points o
  have hSound : ∀ item ∈ fourPoints.items, item.Sound := by decide +kernel
  have hAccepted : ∀ p ∈ points, p.Accepted := by decide +kernel
  have hPicks : ∀ channel ∈ Indexer.picks (RoundRobin.ofChannels 2) points, channel < 2 := by
    decide +kernel
  have hHeaders : fourPoints.headers = .ok none := rfl
  have hFirst : Indexer.routed (RoundRobin.ofChannels 2) 0 points =
      [Utf8.encode "a x=1 1", Utf8.encode "a x=3 3"] := by decide +kernel
  have hOther : (Indexer.routed (RoundRobin.ofChannels 2) 1 points).length = 1 := by decide +kernel
  obtain ⟨summary, hResult, hPoints, -, -, hChannels, -, -⟩ := run_partitions
    (RoundRobin.ofChannels 2) (Pool.Clean.ofCapacity 1) 2 ⟨2, some 3⟩ hHeaders hSound hAccepted hPicks
  refine ⟨hSound, hAccepted, hPicks, summary, hResult, ?_, ?_, ?_⟩
  · rw [hPoints]
    decide +kernel
  · exact hFirst ▸ (hChannels 0 (by decide)).1
  · rw [(hChannels 1 (by decide)).2, hOther]
    rfl

end Dispatch
end BulkLoad
