import BulkLoad.Influx.Processor
import BulkLoad.Proofs.Run.Working
import BulkLoad.Proofs.Write.Accepted

/-!
What a processor does with its batches.

Each batch that is processed was sent until it was accepted, so a worker that gives a report has
brought all its batches to its server, each once and in order.
-/
namespace BulkLoad

namespace InfluxProcessor

variable {p : InfluxProcessor} {first : World} {d : Destination} {bodies : List Bytes}

/-- A batch that was sent counts as it is, however often it was sent. -/
theorem counts_of_send {c : Controller} {b : LineBatch} {counts : BatchCounts}
    (hSend : (p.send c b).result = .ok counts) : counts = b.counts := by
  unfold send at hSend
  dsimp only at hSend
  split at hSend
  · cases hSend
  · cases hSend
    rfl

theorem countsBatches : WorkerState.CountsBatches InfluxProcessor := by
  intro p b doLoad counts hCall
  change (p.process b doLoad).result = .ok counts at hCall
  unfold process at hCall
  split at hCall
  · split at hCall
    · cases hCall
    · exact counts_of_send hCall
  · cases hCall
    rfl

/-- A processor that is connected, and whose server has accepted these bodies since. -/
structure Brought (first : World) (d : Destination) (codec : Gzip.Codec) (gzip : Bool)
    (bodies : List Bytes) (p : InfluxProcessor) : Prop where
  codec : p.codec = codec
  packs : p.gzip = gzip
  connected : ∃ c, p.controller = some c ∧ c.destination = d
  accepts : ∃ made, first.Accepts d gzip made bodies p.world

theorem destination_replace (p : InfluxProcessor) (d : Destination) :
    (p.replace d).destination = d := by
  unfold replace
  dsimp only
  split <;> rfl

/-- A processor that was begun is connected to where its connector says. -/
theorem brought_of_init {worker : Nat} (hInit : (p.init worker true).result = .ok ()) :
    ∃ d told, p.connector.connect worker = (.ok d, told) ∧
      Brought p.world d p.codec p.gzip [] (p.init worker true).next := by
  unfold init at hInit ⊢
  simp only [if_true] at hInit ⊢
  rcases hConnect : p.connector.connect worker with ⟨result, told⟩
  rw [hConnect] at hInit
  cases result with
  | error f => cases hInit
  | ok d =>
      simp only
      exact ⟨d, told, rfl, rfl, rfl, ⟨_, rfl, destination_replace _ d⟩, [], .nothing _ _ _⟩

/-- Whatever was in the buffer, nothing of it is sent. -/
theorem body_eq (p : InfluxProcessor) (b : LineBatch) :
    (p.body b).1 = packed p.codec p.gzip b.payload := by
  unfold body packed
  by_cases hGzip : p.gzip = true
  · rw [if_pos hGzip, if_pos hGzip]
    exact Gzip.compressInto_eq ..
  · rw [if_neg hGzip, if_neg hGzip]

theorem written_of_endOf {worker latency : Nat} {ended : WriteEnd}
    (hEnd : endOf worker ended = .ok latency) : ended = .written latency := by
  cases ended with
  | written latency' => cases hEnd; rfl
  | failed e => cases hEnd
  | crashed => cases hEnd
  | endless => cases hEnd

/-- A batch that was processed was accepted, once. -/
theorem Brought.process {codec : Gzip.Codec} {gzip : Bool}
    (hBrought : Brought first d codec gzip bodies p) {b : LineBatch} {counts : BatchCounts}
    (hProcess : (p.process b true).result = .ok counts) :
    Brought first d codec gzip (bodies ++ [packed codec gzip b.payload])
      (p.process b true).next := by
  obtain ⟨rfl, rfl, ⟨c, hController, rfl⟩, made, hAccepts⟩ := hBrought
  simp only [InfluxProcessor.process, if_true, hController] at hProcess ⊢
  unfold send at hProcess ⊢
  dsimp only at hProcess ⊢
  rw [body_eq] at hProcess ⊢
  split at hProcess
  · cases hProcess
  · rename_i latency hEnd
    obtain ⟨more, hMore⟩ := Controller.accepts_write hAccepts (written_of_endOf hEnd)
    exact ⟨rfl, rfl, ⟨_, rfl, rfl⟩, made ++ more, hMore⟩

theorem world_close (p : InfluxProcessor) : p.close.next.world = p.world := by
  unfold close
  split <;> rfl

end InfluxProcessor

namespace WorkerState

open InfluxProcessor (Brought)

variable {settings : WorkerSettings} {s next : WorkerState InfluxProcessor} {first : World}
  {d : Destination} {codec : Gzip.Codec} {gzip : Bool} {bodies : List Bytes}

theorem brought_of_begin (hLoad : settings.doLoad = true)
    (hBegin : s.begin settings = (.ok (), next)) :
    ∃ d told, s.processor.connector.connect s.report.worker = (.ok d, told) ∧
      Brought s.processor.world d s.processor.codec s.processor.gzip [] next.processor := by
  unfold begin at hBegin
  rw [hLoad] at hBegin
  dsimp only at hBegin
  split at hBegin
  · cases hBegin
  · rename_i hInit
    cases hBegin
    exact InfluxProcessor.brought_of_init hInit

theorem brought_of_step (hLoad : settings.doLoad = true)
    (hBrought : Brought first d codec gzip bodies s.processor) {b : LineBatch}
    (hStep : s.step settings b = (.ok (), next)) :
    Brought first d codec gzip (bodies ++ [packed codec gzip b.payload]) next.processor := by
  unfold step at hStep
  rw [hLoad] at hStep
  dsimp only at hStep
  split at hStep
  · cases hStep
  · cases hStep
  · cases hStep
  · rename_i counts hProcess
    cases hStep
    exact hBrought.process hProcess

theorem brought_of_loop (hLoad : settings.doLoad = true)
    (hBrought : Brought first d codec gzip bodies s.processor) {batches untaken : List LineBatch}
    (hLoop : s.loop settings batches = (.ok (), next, untaken)) :
    Brought first d codec gzip (bodies ++ batches.map fun b => packed codec gzip b.payload)
      next.processor := by
  induction batches generalizing s bodies with
  | nil =>
      cases hLoop
      rwa [List.map_nil, List.append_nil]
  | cons b batches ih =>
      simp only [loop] at hLoop
      rcases hStep : s.step settings b with ⟨result, w⟩
      rw [hStep] at hLoop
      cases result with
      | error halt => cases hLoop
      | ok u =>
          rw [List.map_cons, List.append_cons]
          exact ih (brought_of_step hLoad hBrought hStep) hLoop

theorem world_finish (settings : WorkerSettings) (s : WorkerState InfluxProcessor) :
    (s.finish settings).2.processor.world = s.processor.world := by
  have hClose : (Processor.close s.processor settings.doLoad).next.world = s.processor.world :=
    InfluxProcessor.world_close s.processor
  unfold finish
  dsimp only
  split <;> exact hClose

/-- A worker that gives a report has brought the texts of its batches to the one place that it was
connected to. -/
theorem brought_of_run (hLoad : settings.doLoad = true) (hCodec : s.processor.codec.Faithful)
    {batches : List LineBatch} {report : WorkerReport}
    (hRun : (s.run settings batches).result = .ok report) :
    ∃ d told, s.processor.connector.connect s.report.worker = (.ok d, told) ∧
      (∀ r ∈ s.processor.world.since (s.run settings batches).final.processor.world,
        r.destination = d) ∧
      s.processor.world.acceptedText? s.processor.codec
          (s.run settings batches).final.processor.world =
        some (batches.flatMap LineBatch.payload) := by
  obtain ⟨next, hAfter, -, hFinal⟩ := after_of_run hRun
  unfold after at hAfter
  rcases hBegin : s.begin settings with ⟨result, begun⟩
  rw [hBegin] at hAfter
  cases result with
  | error halt => cases hAfter
  | ok u =>
      obtain ⟨d, told, hConnect, hBegun⟩ := brought_of_begin hLoad hBegin
      rcases hLoop : begun.loop settings batches with ⟨result, w, untaken⟩
      simp only [hLoop] at hAfter
      cases hAfter
      obtain ⟨-, -, -, made, hAccepts⟩ := brought_of_loop hLoad hBegun hLoop
      have hWorld : (s.run settings batches).final.processor.world = next.processor.world := by
        rw [hFinal]
        exact world_finish settings next
      have hTexts : batches.map (fun b => packed s.processor.codec s.processor.gzip b.payload) =
          (batches.map LineBatch.payload).map (packed s.processor.codec s.processor.gzip) := by
        rw [List.map_map]
        rfl
      rw [List.nil_append, hTexts] at hAccepts
      rw [hWorld]
      refine ⟨d, told, hConnect, fun r hr => ?_, ?_⟩
      · rw [hAccepts.since_eq] at hr
        exact (hAccepts.alike r hr).1
      · rw [hAccepts.acceptedText?_eq hCodec, List.flatMap]

end WorkerState
end BulkLoad
