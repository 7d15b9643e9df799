import BulkLoad.Proofs.Dispatch.Stock

/-!
Each batch on its way has a channel that exists.

Dispatch knows as many slots as there are channels, so a batch that is due is due for one of them, and
a channel that is not closed from within takes it.
-/
namespace BulkLoad

namespace Dispatch

variable {ι : Type}

/-- No channel is closed from within. -/
def Attended (s : Dispatch ι) : Prop := ∀ outlet ∈ s.outlets, outlet.closed = false

theorem Attended.exists_send {s : Dispatch ι} (hAttended : s.Attended) {p : Parcel}
    (hChannel : p.channel < s.outlets.length) : ∃ next, s.send p = .ok next := by
  have hOutlet := List.getElem?_eq_getElem hChannel
  have hOpen := hAttended _ (List.getElem_mem hChannel)
  simp only [send, hOutlet, hOpen, Bool.false_eq_true, if_false]
  exact ⟨_, rfl⟩

theorem Attended.send {s next : Dispatch ι} (hAttended : s.Attended) {p : Parcel}
    (hSend : s.send p = .ok next) : next.Attended := by
  unfold Dispatch.send at hSend
  split at hSend
  · cases hSend
  · rename_i taken hOutlet
    split at hSend
    · cases hSend
    · cases hSend
      intro outlet hOutlet'
      rcases List.mem_or_eq_of_mem_set hOutlet' with hBefore | rfl
      · exact hAttended outlet hBefore
      · exact hAttended taken (List.mem_of_getElem? hOutlet)

end Dispatch

namespace Concurrent.Scan

variable {ι : Type} {s t : Scan ι} {channels : Nat}

/-- Dispatch over so many channels, none of which is closed from within. -/
structure Placed (channels : Nat) (s : Scan ι) : Prop where
  slots : s.dispatch.dispatcher.slots.length = channels
  outlets : s.dispatch.outlets.length = channels
  due : ∀ p, s.due = some p → p.channel < channels
  attended : s.dispatch.Attended

theorem placed_opening (source : Source.Stream) (indexer : ι) (pool : Pool LineBatch)
    (channels : Nat) :
    Placed channels
      { phase := .opening source
        dispatch := .start indexer pool (List.replicate channels {}) } := by
  refine ⟨?_, List.length_replicate, nofun, fun outlet hOutlet => ?_⟩
  · simp [Dispatch.start, Dispatcher.start]
  · rw [List.eq_of_mem_replicate hOutlet]

theorem Placed.advance [Indexer ι] {limits : DispatchLimits} (hPlaced : s.Placed channels)
    (hStep : s.advance? limits = some t) : t.Placed channels := by
  obtain ⟨-, -, lost, hDraws, -⟩ := draws_advance hStep
  have hOutlets := outlets_advance hStep
  refine ⟨hDraws.slots.trans hPlaced.slots, ?_, fun p hDue => ?_, ?_⟩
  · rw [hOutlets, hPlaced.outlets]
  · have hChannel := (List.getElem?_eq_some_iff.mp (hDraws.room p hDue)).1
    rwa [hDraws.slots, hPlaced.slots] at hChannel
  · rw [Dispatch.Attended, hOutlets]
    exact hPlaced.attended

theorem Placed.deliver (hPlaced : s.Placed channels) {p : Parcel} {next : Dispatch ι}
    (hSend : s.dispatch.send p = .ok next) : { s with due := none, dispatch := next }.Placed channels := by
  refine ⟨?_, (Dispatch.outlets_send hSend).2.trans hPlaced.outlets, nofun,
    hPlaced.attended.send hSend⟩
  rw [Dispatch.dispatcher_send hSend]
  exact hPlaced.slots

theorem Placed.refused (hPlaced : s.Placed channels) (channel : Nat) :
    (s.refused channel).Placed channels :=
  ⟨hPlaced.slots, hPlaced.outlets, nofun, hPlaced.attended⟩

theorem Placed.withPool (hPlaced : s.Placed channels) (pool : Pool LineBatch) :
    (s.withPool pool).Placed channels :=
  ⟨hPlaced.slots, hPlaced.outlets, hPlaced.due, hPlaced.attended⟩

/-- A batch that is due can be handed over. -/
theorem Placed.exists_send (hPlaced : s.Placed channels) {p : Parcel} (hDue : s.due = some p) :
    ∃ next, s.dispatch.send p = .ok next :=
  hPlaced.attended.exists_send (hPlaced.outlets ▸ hPlaced.due p hDue)

end Concurrent.Scan
end BulkLoad
