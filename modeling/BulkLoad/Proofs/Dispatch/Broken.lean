import BulkLoad.Proofs.Dispatch.Closed
import BulkLoad.Proofs.Dispatch.Turn

/-!
Dispatch over a source that breaks off.

A point that is accepted and has a channel never ends dispatch, whatever lies in the pool. So a source
that fails behind such points is what ends it, and the error says how many points there were.
-/
namespace BulkLoad

variable {ι : Type} [Indexer ι]

namespace Dispatcher

/-- What comes of a point that has a channel and is accepted there. A batch that is due is due for a
channel that exists. -/
theorem take_point (d : Dispatcher ι) (size : Nat) {p : Point} (hSome : p ≠ [])
    (hAccepted : p.Accepted) (hChannel : (Indexer.pick d.indexer p).1 < d.slots.length) :
    ∃ next, next.indexer = (Indexer.pick d.indexer p).2 ∧ next.slots.length = d.slots.length ∧
      (d.take size (.point p) = .kept next ∨
        ∃ parcel, parcel.channel < d.slots.length ∧ d.take size (.point p) = .full parcel next) := by
  have hPresent := List.isEmpty_eq_false_iff.mpr hSome
  have hSlot := List.getElem?_eq_getElem hChannel
  simp only [take, route, place, hPresent, hSlot, LineBatch.append, hAccepted.rows_eq,
    Bool.false_eq_true, if_false]
  split
  · exact ⟨_, rfl, List.length_set, .inr ⟨_, hChannel, rfl⟩⟩
  · exact ⟨_, rfl, List.length_set, .inl rfl⟩

end Dispatcher

namespace Dispatch

/-- Dispatch with as many open batches as channels, none of which is closed. -/
structure Staffed (channels : Nat) (s : Dispatch ι) : Prop where
  slots : s.dispatcher.slots.length = channels
  outlets : s.outlets.length = channels
  attended : s.Attended

omit [Indexer ι] in
theorem staffed_start (x : ι) (pool : Pool LineBatch) (channels : Nat) :
    (start x pool (List.replicate channels {})).Staffed channels := by
  refine ⟨?_, List.length_replicate, fun outlet hOutlet => ?_⟩
  · simp [start, Dispatcher.start]
  · rw [List.eq_of_mem_replicate hOutlet]

/-- A point that has a channel and is accepted there never ends dispatch. -/
theorem Staffed.turn {channels : Nat} {s : Dispatch ι} (hStaffed : s.Staffed channels) (size : Nat)
    {p : Point} (hSome : p ≠ []) (hAccepted : p.Accepted)
    (hChannel : (Indexer.pick s.dispatcher.indexer p).1 < channels) :
    ∃ next, s.turn size (.point p) = .goesOn next ∧ next.Staffed channels ∧
      next.dispatcher.indexer = (Indexer.pick s.dispatcher.indexer p).2 := by
  rw [← hStaffed.slots] at hChannel
  obtain ⟨d, hIndexer, hSlots, hTake⟩ := s.dispatcher.take_point size hSome hAccepted hChannel
  rw [hStaffed.slots] at hSlots
  have hKept : Staffed channels { s with dispatcher := d } :=
    ⟨hSlots, hStaffed.outlets, hStaffed.attended⟩
  rcases hTake with hTake | ⟨parcel, hParcel, hTake⟩
  · exact ⟨_, by simp only [Dispatch.turn, hTake], hKept, hIndexer⟩
  · rw [hStaffed.slots, ← hKept.outlets] at hParcel
    obtain ⟨next, hSend⟩ := hKept.attended.exists_send hParcel
    have hSame := dispatcher_send hSend
    refine ⟨next, by simp only [Dispatch.turn, hTake, hSend], ⟨?_, ?_, ?_⟩, ?_⟩
    · rw [hSame]
      exact hSlots
    · exact (outlets_send hSend).2.trans hKept.outlets
    · exact hKept.attended.send hSend
    · rw [hSame]
      exact hIndexer

/-- The loop comes to the failure behind the points, and by then it has counted them all. -/
theorem Staffed.loop {channels : Nat} {s : Dispatch ι} (hStaffed : s.Staffed channels) (size : Nat)
    (headers : Option (List String)) {points : List Point} (f : Fault) (rest : List Source.Item)
    (hAccepted : ∀ p ∈ points, p ≠ [] ∧ p.Accepted)
    (hPicks : ∀ channel ∈ Indexer.picks s.dispatcher.indexer points, channel < channels) :
    (s.loop ⟨size, none⟩ headers (points.map .point ++ .failed f :: rest)).result =
      .error (.source (s.dispatcher.points + points.length) f) := by
  have hNever : DispatchLimits.reached ⟨size, none⟩ s.dispatcher.points = false := rfl
  induction points generalizing s with
  | nil =>
      rw [List.map_nil, List.nil_append, loop_cons, hNever]
      rfl
  | cons p points ih =>
      obtain ⟨hSome, hFirst⟩ := hAccepted p List.mem_cons_self
      rw [Indexer.picks, List.forall_mem_cons] at hPicks
      obtain ⟨next, hTurn, hNext, hIndexer⟩ :=
        hStaffed.turn (DispatchLimits.fullSize ⟨size, none⟩) hSome hFirst hPicks.1
      have hLater := ih hNext (fun q hq => hAccepted q (List.mem_cons_of_mem p hq))
        (hIndexer ▸ hPicks.2) rfl
      rw [List.map_cons, List.cons_append, loop_cons, hNever, hTurn, List.length_cons]
      rw [points_turn hTurn, Nat.add_right_comm, Nat.add_assoc] at hLater
      exact hLater

/-- A source that breaks off behind points that are accepted and have channels: dispatch without a
limit fails as the source does, unless one of its channels is closed. -/
theorem run_of_broken (x : ι) (pool : Pool LineBatch) (flags : List Bool) (size : Nat)
    (source : Source.Stream) {points : List Point} {f : Fault}
    (hBroken : (source.headers = .error f ∧ points = []) ∨
      ((∃ headers, source.headers = .ok headers) ∧
        ∃ rest, source.items = points.map .point ++ .failed f :: rest))
    (hAccepted : ∀ p ∈ points, p ≠ [] ∧ p.Accepted)
    (hPicks : ∀ channel ∈ Indexer.picks x points, channel < flags.length) :
    let o := (start x pool (flags.map fun closed => { closed })).run ⟨size, none⟩ source
    o.result = .error (.source points.length f) ∨
      ∃ channel : Nat, o.result = .error (.channelClosed channel) ∧ flags[channel]? = some true := by
  have hWhole : ((start x pool (List.replicate flags.length {})).run ⟨size, none⟩ source).result =
      .error (.source points.length f) := by
    rcases hBroken with ⟨hHeaders, rfl⟩ | ⟨⟨headers, hHeaders⟩, rest, hItems⟩
    · simp only [run, hHeaders]
      rfl
    · have hStaffed := staffed_start x pool flags.length
      have hTold : ((start x pool (List.replicate flags.length {})).tell
          (source.opening ++ headersTold headers)).Staffed flags.length :=
        ⟨hStaffed.slots, hStaffed.outlets, hStaffed.attended⟩
      have hLoop := hTold.loop size headers f rest hAccepted hPicks
      rw [← hItems] at hLoop
      simp only [run, hHeaders, hLoop]
      simp [tell, start, Dispatcher.start]
  have hBehind := behind_run x pool flags ⟨size, none⟩ source
  rcases hBehind.agrees with ⟨hResult, -, -⟩ | ⟨channel, hResult, hFlag, -⟩
  · exact .inl (hResult.trans hWhole)
  · exact .inr ⟨channel, hResult, hFlag⟩

end Dispatch
end BulkLoad
