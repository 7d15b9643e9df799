import BulkLoad.Proofs.Influx.Delivery
import BulkLoad.Proofs.Run.Unfailing

/-!
A dry run counts what a load counts.

The figures of a load are those of the batches that dispatch sends, and dispatch knows of no server.
So two loads of one source that cut it alike agree in their figures, whatever they were answered and
however often they had to ask. In a dry run nothing but dispatch can fail, so it comes to the same
figures; and it says nothing to anybody.
-/
namespace BulkLoad

/-- What a report counts, and of which worker. -/
def WorkerReport.figures (r : WorkerReport) : Nat × Nat × BatchCounts :=
  (r.worker, r.batches, r.counts)

theorem WorkerReport.Covers.figures_eq {r : WorkerReport} {taken : List LineBatch}
    (hCovers : r.Covers taken) : r.figures =
      (r.worker, taken.length, ⟨sumOf LineBatch.points taken, sumOf LineBatch.rows taken⟩) := by
  rcases r with ⟨worker, batches, ⟨points, rows⟩, latency, backoff⟩
  obtain ⟨rfl, rfl, rfl⟩ := hCovers
  rfl

/-- Two summaries that count the same. Where several workers share a channel it is a matter of
chance which of them took a batch, so the reports agree if each worker has a channel to itself. -/
structure LoadSummary.Agrees (c : Config) (summary other : LoadSummary) : Prop where
  points : summary.points = other.points
  rows : summary.rows = other.rows
  batches : summary.batches = other.batches
  batchesPerChannel : summary.batchesPerChannel = other.batchesPerChannel
  headers : summary.headers = other.headers
  limitReached : summary.limitReached = other.limitReached
  workers : c.OwnChannels →
    summary.workers.map WorkerReport.figures = other.workers.map WorkerReport.figures

namespace Config

/-- Two configurations under which a source is routed, cut into batches and ended alike. How batches
are written, and whether they are written at all, may differ. -/
structure CutsAlike (c c' : Config) : Prop where
  workers : c.workers = c'.workers
  hashWorkers : c.hashWorkers = c'.hashWorkers
  batchSize : c.batchSize = c'.batchSize
  limit : c.limit = c'.limit

variable {c c' : Config}

theorem CutsAlike.channelCount_eq (hCuts : c.CutsAlike c') : c.channelCount = c'.channelCount := by
  rw [channelCount, channelCount, hCuts.hashWorkers, hCuts.workers]

theorem CutsAlike.startFault?_eq (hCuts : c.CutsAlike c') :
    Load.startFault? c = Load.startFault? c' := by
  rw [Load.startFault?, Load.startFault?, hCuts.workers, hCuts.batchSize]

theorem CutsAlike.routing_eq (hCuts : c.CutsAlike c') :
    InfluxLoad.routing c = InfluxLoad.routing c' := by
  rw [InfluxLoad.routing, InfluxLoad.routing, hCuts.channelCount_eq, hCuts.hashWorkers]

theorem CutsAlike.ownChannels (hCuts : c.CutsAlike c') (hOwn : c'.OwnChannels) : c.OwnChannels := by
  rwa [OwnChannels, hCuts.hashWorkers, hCuts.workers]

end Config

namespace Concurrent

variable {ι : Type} [Indexer ι] {c c' : Config} {source : Source.Stream} {indexer : ι}

/-- Dispatch by itself comes to the same under both. -/
theorem alone_alike (hCuts : c.CutsAlike c') (source : Source.Stream) (indexer : ι) :
    (alone c source indexer).Alike (alone c' source indexer) := by
  have hLimits : limits c = limits c' := by rw [limits, limits, hCuts.batchSize, hCuts.limit]
  have hStart : (Dispatch.start indexer (.ofCapacity (Load.poolSize c))
      (List.replicate c.channelCount {})).Alike
      (.start indexer (.ofCapacity (Load.poolSize c')) (List.replicate c'.channelCount {})) := by
    rw [hCuts.channelCount_eq]
    exact ⟨⟨.ofCapacity _, .ofCapacity _, rfl, rfl, rfl⟩, rfl, rfl, rfl⟩
  rw [alone, alone, ← hLimits]
  exact hStart.run (limits c) source

/-- A measure of all batches that were sent, as a word. -/
def total (c : Config) (o : DispatchOutcome ι) (measure : LineBatch → Nat) : UInt64 :=
  .ofNat (sumOf (fun channel => sumOf measure (o.final.receivedOn channel))
    (List.range c.channelCount))

/-- What a worker reports that took all batches of a channel. -/
def figuresOf (o : DispatchOutcome ι) (worker : Nat) : Nat × Nat × BatchCounts :=
  let sent := o.final.receivedOn worker
  (worker, sent.length, ⟨sumOf LineBatch.points sent, sumOf LineBatch.rows sent⟩)

/-- A summary that counts what dispatch has sent. -/
structure Counts (c : Config) (o : DispatchOutcome ι) (summary : LoadSummary) : Prop where
  dispatched : ∃ points, o.result =
    .ok ⟨points, summary.batchesPerChannel, summary.headers, summary.limitReached⟩
  points : summary.points = (total c o LineBatch.points).toNat
  rows : summary.rows = (total c o LineBatch.rows).toNat
  batches : summary.batches = (total c o fun _ => 1).toNat
  workers : c.OwnChannels →
    summary.workers.map WorkerReport.figures = (List.range c.workers).map (figuresOf o)

omit [Indexer ι] in
/-- Two summaries that count what was sent agree if the same was sent. -/
theorem Counts.agrees {o o' : DispatchOutcome ι} {summary other : LoadSummary}
    (hCounts : Counts c o summary) (hOther : Counts c' o' other) (hCuts : c.CutsAlike c')
    (hAlike : o.Alike o') : summary.Agrees c' other := by
  have hReceived : o.final.receivedOn = o'.final.receivedOn := by
    funext channel
    rw [Dispatch.receivedOn, hAlike.final.outlets, Dispatch.receivedOn]
  have hTotal (measure : LineBatch → Nat) : total c o measure = total c' o' measure := by
    rw [total, total, hReceived, hCuts.channelCount_eq]
  have hFigures : figuresOf o = figuresOf o' := by
    funext worker
    rw [figuresOf, figuresOf, hReceived]
  obtain ⟨points, hResult⟩ := hCounts.dispatched
  obtain ⟨points', hResult'⟩ := hOther.dispatched
  have hSame := (hResult.symm.trans hAlike.result).trans hResult'
  injection hSame with hSame
  injection hSame with hPoints hChannels hHeaders hLimit
  refine ⟨?_, ?_, ?_, hChannels, hHeaders, hLimit, fun hOwn => ?_⟩
  · rw [hCounts.points, hOther.points, hTotal]
  · rw [hCounts.rows, hOther.rows, hTotal]
  · rw [hCounts.batches, hOther.batches, hTotal]
  · rw [hCounts.workers (hCuts.ownChannels hOwn), hOther.workers hOwn, hFigures, hCuts.workers]

variable {processor : Nat → InfluxProcessor} {s : State ι InfluxProcessor}

/-- A load that comes to a summary has counted what dispatch by itself would send. -/
theorem counts_of_returned (hReach : Reachable c source indexer processor s)
    (hStart : Load.startFault? c = none) {summary : LoadSummary}
    (hRunner : s.runner = .returned (.ok summary)) :
    Counts c (alone c source indexer) summary := by
  have hTruthful := truthful hReach
  rw [hRunner] at hTruthful
  obtain ⟨d, reports, elapsed, ⟨unread, hReturned⟩, hComplete, rfl⟩ := hTruthful
  have hAll := hComplete.allReported
  have hTasks := replaying hReach
  have hTallied := tallied hReach
  obtain ⟨hResult, -⟩ := (scanning hReach).of_returned hReturned
  have hReceived := (scanning hReach).receivedOn_of_returned hReturned
  have hTotal {figure : WorkerReport → Nat} {measure : LineBatch → Nat}
      (hFigure : ∀ r taken, WorkerReport.Covers r taken → figure r = sumOf measure taken) :
      UInt64.ofNat (s.figure c figure) = total c (alone c source indexer) measure := by
    simp only [total, hReceived]
    rw [figure_of_allReported hReach hStart hAll hFigure]
  refine ⟨⟨d.points, hResult⟩, ?_, ?_, ?_, fun hOwn => ?_⟩
  · exact congrArg UInt64.toNat
      (hTallied.points.trans (hTotal fun _ _ => WorkerReport.Covers.points))
  · exact congrArg UInt64.toNat (hTallied.rows.trans (hTotal fun _ _ => WorkerReport.Covers.rows))
  · refine congrArg UInt64.toNat (hTallied.batches.trans (hTotal fun r taken hCovers => ?_))
    rw [sumOf_one, hCovers.batches]
  · show (inOrder reports).map WorkerReport.figures = _
    rw [hComplete.inOrder_eq hTasks, List.map_map]
    apply List.map_congr_left
    intro worker hWorker
    have hWorkerLt := List.mem_range.mp hWorker
    obtain ⟨r, hEnded⟩ := hAll worker hWorkerLt
    obtain ⟨hReport, hNumber⟩ := hTasks.report hEnded
    have hTaken := taken_of_own hReach hStart hAll hOwn.channelCount_eq hWorkerLt
    rw [Function.comp_apply, hReport, (covers_taken hReach hEnded).figures_eq, hNumber, hTaken,
      figuresOf, hReceived]

end Concurrent

/-- A processor that is connected to nothing, and whose world is still as it was at first. -/
structure InfluxProcessor.Silent (first : World) (p : InfluxProcessor) : Prop where
  unconnected : p.controller = none
  world : p.world = first

namespace WorkerState

open InfluxProcessor (Silent)

variable {settings : WorkerSettings} {s : WorkerState InfluxProcessor} {first : World}

/-- A dry run begins without a connection. -/
theorem begin_of_dry (hDry : settings.doLoad = false) (s : WorkerState InfluxProcessor) :
    (s.begin settings).1 = .ok () ∧
      (s.begin settings).2.processor = { s.processor with worker := s.report.worker } := by
  simp [begin, tell, hDry, Processor.init, InfluxProcessor.init]

theorem step_of_dry (hDry : settings.doLoad = false) (s : WorkerState InfluxProcessor)
    (b : LineBatch) :
    (s.step settings b).1 = .ok () ∧ (s.step settings b).2.processor = s.processor := by
  simp [step, tell, record, hDry, Processor.process, InfluxProcessor.process]

theorem loop_of_dry (hDry : settings.doLoad = false) (s : WorkerState InfluxProcessor)
    (batches : List LineBatch) : (s.loop settings batches).1 = .ok () := by
  induction batches generalizing s with
  | nil => rfl
  | cons b batches ih =>
      obtain ⟨hOk, -⟩ := step_of_dry hDry s b
      simp only [loop]
      rcases hStep : s.step settings b with ⟨result, w⟩
      rw [hStep] at hOk
      obtain rfl : result = .ok () := hOk
      exact ih w

/-- To disconnect cannot fail. -/
theorem finish_ok (settings : WorkerSettings) (s : WorkerState InfluxProcessor) :
    ∃ r, (s.finish settings).1 = .ok r := by
  have hClose : ∃ backoff, (Processor.close s.processor settings.doLoad).result = .ok backoff := by
    show ∃ backoff, s.processor.close.result = .ok backoff
    unfold InfluxProcessor.close
    split
    · exact ⟨_, rfl⟩
    · exact ⟨_, rfl⟩
  obtain ⟨backoff, hOk⟩ := hClose
  simp only [finish, hOk]
  exact ⟨_, rfl⟩

theorem silent_finish (hSilent : Silent first s.processor) :
    Silent first (s.finish settings).2.processor := by
  have hClose : (Processor.close s.processor settings.doLoad).next = s.processor := by
    show s.processor.close.next = s.processor
    rw [InfluxProcessor.close, hSilent.unconnected]
  unfold finish
  dsimp only
  split <;> rwa [tell, hClose]

/-- In a dry run every worker comes to a report. -/
theorem run_of_dry (hDry : settings.doLoad = false) (s : WorkerState InfluxProcessor)
    (batches : List LineBatch) : ∃ r, (s.run settings batches).result = .ok r := by
  obtain ⟨hBegin, -⟩ := begin_of_dry hDry s
  have hAfter : (s.after settings batches).1 = .ok () := by
    unfold after
    rcases hBegun : s.begin settings with ⟨result, begun⟩
    rw [hBegun] at hBegin
    obtain rfl : result = .ok () := hBegin
    exact loop_of_dry hDry begun batches
  obtain ⟨r, hFinish⟩ := finish_ok settings (s.after settings batches).2
  obtain ⟨hRun, -⟩ := run_of_after_ok (Prod.ext hAfter rfl)
  rw [hFinish] at hRun
  exact ⟨r, hRun⟩

end WorkerState

namespace InfluxLoad

open Concurrent (Reachable State Succeeded Inevitably alone)

variable {codec : Gzip.Codec} {c c' : Config} {source : Source.Stream} {connector : Connector}
  {world : Nat → World} {summary : LoadSummary}

/-- A load of a source can be started, and comes to this summary in one of the orders that its parts
may take. -/
structure ComesTo (codec : Gzip.Codec) (c : Config) (source : Source.Stream)
    (connector : Connector) (world : Nat → World) (summary : LoadSummary) : Prop where
  start : Load.startFault? c = none
  returned : ∃ s, Reachable c source (routing c) (processor codec c connector world) s ∧
    s.runner = .returned (.ok summary)

/-- A load that was executed comes to its summary. -/
theorem comesTo_of_run {elapsed : Nat}
    (hRun : (run codec c elapsed (.ok source) world).result = .ok summary) :
    ComesTo codec c source (Http.connector c.influx) world summary := by
  obtain ⟨hStart, -⟩ := Load.of_run_ok rfl hRun
  obtain ⟨s, hReach, hRunner, -⟩ := Load.reachable_of_run rfl hRun
  exact ⟨hStart, s, hReach, hRunner⟩

theorem ComesTo.counts (hComes : ComesTo codec c source connector world summary) :
    Concurrent.Counts c (alone c source (routing c)) summary := by
  obtain ⟨hStart, s, hReach, hRunner⟩ := hComes
  exact Concurrent.counts_of_returned hReach hStart hRunner

/-- Loads that cut one source alike agree. -/
theorem ComesTo.agrees (hComes : ComesTo codec c source connector world summary)
    {codec' : Gzip.Codec} {connector' : Connector} {world' : Nat → World} {other : LoadSummary}
    (hOther : ComesTo codec' c' source connector' world' other) (hCuts : c.CutsAlike c') :
    summary.Agrees c' other := by
  have hCounts := hComes.counts
  rw [hCuts.routing_eq] at hCounts
  exact hCounts.agrees hOther.counts hCuts (Concurrent.alone_alike hCuts source (routing c'))

/-- A dry run that counts like a summary. It comes to its end in whatever order its parts take
turns, and to nothing else than such a summary; it connects no worker, and no server hears of it. -/
structure CountsDry (codec : Gzip.Codec) (c : Config) (source : Source.Stream)
    (connector : Connector) (world : Nat → World) (summary : LoadSummary) : Prop where
  ends : ∀ s, Reachable c source (routing c) (processor codec c connector world) s →
    Inevitably c Succeeded s
  agrees : ∀ s result, Reachable c source (routing c) (processor codec c connector world) s →
    s.runner = .returned result → ∃ own, result = .ok own ∧ summary.Agrees c own
  silent : ∀ s, Reachable c source (routing c) (processor codec c connector world) s →
    ∀ worker, (s.task worker).state.processor.Silent (world worker)
  /-- The same of the order in which it is executed. -/
  executed : ∀ elapsed,
    let outcome := Load.run c elapsed ⟨.ok source, routing c, processor codec c connector world⟩
    ∃ own, outcome.result = .ok own ∧ summary.Agrees c own ∧
      ∀ worker < c.workers, ∃ p, outcome.processors[worker]? = some p ∧ p.Silent (world worker)

theorem unfailing_of_dry (hDry : c.doLoad = false) (codec : Gzip.Codec) (connector : Connector)
    (world : Nat → World) : Concurrent.Unfailing c (processor codec c connector world) :=
  fun _ _ batches => WorkerState.run_of_dry hDry _ batches

theorem silent_of_dry (hDry : c.doLoad = false) {s : State Routing InfluxProcessor}
    (hReach : Reachable c source (routing c) (processor codec c connector world) s) (worker : Nat) :
    (s.task worker).state.processor.Silent (world worker) := by
  have hSettings : (Concurrent.settings c).doLoad = false := hDry
  refine Concurrent.forall_processor (P := fun worker p => p.Silent (world worker))
    (fun worker => ⟨rfl, rfl⟩) (fun worker w hSilent => ?_) (fun worker w b hSilent => ?_)
    (fun worker w hSilent => WorkerState.silent_finish hSilent) hReach worker
  · rw [(WorkerState.begin_of_dry hSettings w).2]
    exact ⟨hSilent.unconnected, hSilent.world⟩
  · rw [(WorkerState.step_of_dry hSettings w b).2]
    exact hSilent

/-- When a load comes to a summary, nothing can fail in a dry run of its source. -/
theorem ComesTo.sound (hComes : ComesTo codec c source connector world summary)
    (hCuts : c.CutsAlike c') (hDry : c'.doLoad = false) (codec' : Gzip.Codec)
    (connector' : Connector) (world' : Nat → World) :
    ∃ d, Concurrent.Sound c' source (routing c') (processor codec' c' connector' world') d := by
  obtain ⟨points, hResult⟩ := hComes.counts.dispatched
  rw [hCuts.routing_eq, (Concurrent.alone_alike hCuts source (routing c')).result] at hResult
  exact ⟨_, hCuts.startFault?_eq ▸ hComes.start, hResult,
    unfailing_of_dry hDry codec' connector' world'⟩

/-- Loads of one source that cut it alike agree in what they count, whatever their servers answered,
however often they had to ask, and whether or not the batches were packed. When one of them comes to
a summary so does a dry run, and it counts the same without a word to any server. -/
theorem dry_run_counts_as_load (hComes : ComesTo codec c source connector world summary)
    (hCuts : c.CutsAlike c') (codec' : Gzip.Codec) (connector' : Connector) (world' : Nat → World) :
    (∀ other, ComesTo codec' c' source connector' world' other → summary.Agrees c' other) ∧
      (c'.doLoad = false → CountsDry codec' c' source connector' world' summary) := by
  have hAgrees {other : LoadSummary} (hOther : ComesTo codec' c' source connector' world' other) :
      summary.Agrees c' other := hComes.agrees hOther hCuts
  refine ⟨fun other hOther => hAgrees hOther, fun hDry => ?_⟩
  obtain ⟨d, hSound⟩ := hComes.sound hCuts hDry codec' connector' world'
  refine ⟨fun s hReach => hSound.inevitably hReach, fun s result hReach hRunner => ?_,
    fun s hReach => silent_of_dry hDry hReach, fun elapsed => ?_⟩
  · obtain ⟨own, rfl⟩ := hSound.returned_ok hReach hRunner
    exact ⟨own, rfl, hAgrees ⟨hSound.start, s, hReach, hRunner⟩⟩
  · let parts : LoadParts Routing InfluxProcessor :=
      ⟨.ok source, routing c', processor codec' c' connector' world'⟩
    have hSource : parts.source = .ok source := rfl
    obtain ⟨own, hRun⟩ := Load.run_ok_of_succeeds hSource hSound.succeeds elapsed
    obtain ⟨s, hReach, hRunner, hProcessors⟩ := Load.reachable_of_run rfl hRun
    refine ⟨own, hRun, hAgrees ⟨hSound.start, s, hReach, hRunner⟩, fun worker hWorker => ?_⟩
    refine ⟨(s.task worker).state.processor, ?_, silent_of_dry hDry hReach worker⟩
    rw [hProcessors, List.getElem?_map, List.getElem?_range hWorker]
    rfl

/-- Two workers of which no server will hear. -/
def twoDry : Config := { twoServers with doLoad := false }

/-- Nobody can be connected here. -/
def nowhere : Connector := ⟨fun _ => (.error (.other "no route"), [])⟩

/-- The servers refuse once and are overloaded once. In the dry run no worker could be connected,
and none needs to be. -/
theorem dry_run_counts_as_load_twoDry : ∃ summary,
    (run .stored twoServers 0 (.ok (sourceOf twoSeries)) fun _ => reluctant).result = .ok summary ∧
      summary.batchesPerChannel = [1, 2] ∧
      CountsDry .stored twoDry (sourceOf twoSeries) nowhere (fun _ => {}) summary := by
  let outcome := run .stored twoServers 0 (.ok (sourceOf twoSeries)) fun _ => reluctant
  have hChannels : outcome.result.toOption.map LoadSummary.batchesPerChannel = some [1, 2] := by
    decide +kernel
  cases hRun : outcome.result with
  | error halt =>
      rw [hRun] at hChannels
      cases hChannels
  | ok summary =>
      rw [hRun] at hChannels
      have hCuts : twoServers.CutsAlike twoDry := ⟨rfl, rfl, rfl, rfl⟩
      obtain ⟨-, hDry⟩ := dry_run_counts_as_load (comesTo_of_run hRun) hCuts .stored nowhere fun _ => {}
      exact ⟨summary, rfl, Option.some.inj hChannels, hDry rfl⟩

end InfluxLoad
end BulkLoad
