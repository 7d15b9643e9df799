import BulkLoad.Influx.Load
import BulkLoad.Proofs.Config.Rules
import BulkLoad.Proofs.Run.Executed
import BulkLoad.Proofs.Source.DataLines

/-!
A load from its text to its servers.

When a load succeeds in which each worker has a channel to itself, every point of the text was
accepted once: by the server of the worker that its series goes to, and in the order of the text.
-/
namespace BulkLoad

namespace Config

/-- Each worker has a channel to itself. -/
def OwnChannels (c : Config) : Prop := c.hashWorkers = true ∨ c.workers = 1

theorem OwnChannels.channelCount_eq {c : Config} (hOwn : c.OwnChannels) :
    c.channelCount = c.workers := by
  unfold channelCount
  rcases hOwn with hHash | hOne
  · rw [if_pos hHash]
  · rw [hOne, ite_self]

/-- A configuration without broken rules can be started with. -/
theorem startFault?_of_validate {c : Config} (hValid : c.validate = .ok ()) :
    Load.startFault? c = none := by
  have hAcceptable := acceptable_of_validate hValid
  rw [Load.startFault?, if_neg (Nat.ne_of_gt hAcceptable.workers),
    if_neg (Nat.ne_of_gt hAcceptable.batchSize)]

end Config

namespace InfluxLoad

open Source (dataLines)
open LineBatch (ofLines)

variable {codec : Gzip.Codec} {c : Config} {text : Bytes}

/-- The worker that a point goes to. -/
def workerFor (c : Config) (p : Point) : Nat :=
  if c.hashWorkers then (Hash.fnv1a p.seriesKey).toNat % c.workers else 0

/-- The points of a text that a load takes. -/
def wanted (c : Config) (text : Bytes) : List Point :=
  match c.limit with
  | none => dataLines text
  | some most => (dataLines text).take most

/-- The points that a worker has to bring to its server. -/
def share (c : Config) (text : Bytes) (worker : Nat) : List Point :=
  (wanted c text).filter fun p => workerFor c p = worker

theorem workerFor_lt (hWorkers : 0 < c.workers) (p : Point) : workerFor c p < c.workers := by
  unfold workerFor
  split
  · exact Nat.mod_lt _ hWorkers
  · exact hWorkers

theorem cut_eq_wanted (c : Config) (text : Bytes) :
    (Concurrent.limits c).cut 0 (dataLines text) = wanted c text := rfl

theorem mem_dataLines_of_mem_wanted {p : Point} (hPoint : p ∈ wanted c text) :
    p ∈ dataLines text := by
  unfold wanted at hPoint
  split at hPoint
  · exact hPoint
  · exact List.mem_of_mem_take hPoint

theorem sumOf_wanted_le (c : Config) (text : Bytes) (weight : Point → Nat) :
    sumOf weight (wanted c text) ≤ sumOf weight (dataLines text) := by
  unfold wanted
  split
  · exact Nat.le_refl _
  · rename_i most _
    conv => rhs; rw [← List.take_append_drop most (dataLines text), sumOf_append]
    exact Nat.le_add_right _ _

/-- The routing of a load gives each point to its worker, whatever came before. -/
theorem pick_routing (hWorkers : 0 < c.workers) (hOwn : c.OwnChannels) (p : Point) :
    Indexer.pick (routing c) p = (workerFor c p, routing c) := by
  have hChannels := hOwn.channelCount_eq
  unfold routing Routing.ofChannels workerFor
  by_cases hHash : c.hashWorkers = true
  · have hMax : max c.workers 1 = c.workers := by omega
    rw [hChannels, if_pos hHash, if_pos hHash]
    simp [Indexer.pick, KeyHash.ofChannels, KeyHash.index, hMax]
  · have hOne : c.workers = 1 := hOwn.resolve_left hHash
    rw [hChannels, hOne, if_neg hHash, if_neg hHash]
    rfl

/-- What the server of a worker got in a load. All requests went to the url whose turn it was; the
texts that were accepted, one after another, are the points of the worker, each ended by a newline. -/
structure Served (codec : Gzip.Codec) (c : Config) (text : Bytes) (worker : Nat)
    (first last : World) : Prop where
  accepted : first.acceptedText? codec last =
    some ((share c text worker).flatMap (· ++ [Source.Line.newline]))
  destination : ∀ r ∈ first.since last, ∃ base url,
    c.influx.urls[worker % c.influx.urls.length]? = some base ∧
      Http.writeUrl base c.influx = .ok url ∧ r.destination = ⟨worker, url.text⟩

/-- The points that were accepted since an earlier state of a world. -/
def acceptedPoints (codec : Gzip.Codec) (first last : World) : List Point :=
  ((first.acceptedText? codec last).map dataLines).getD []

/-- What is accepted is read as the points that it was made of. -/
theorem Served.acceptedPoints_eq {worker : Nat} {first last : World}
    (hServed : Served codec c text worker first last) :
    acceptedPoints codec first last = share c text worker := by
  rw [acceptedPoints, hServed.accepted, Option.map_some, Option.getD_some]
  apply Source.dataLines_flatMap
  intro p hPoint
  exact Source.mem_dataLines (mem_dataLines_of_mem_wanted (List.mem_filter.mp hPoint).1)

/-- A load that brought a text to its servers, and the summary that it gave. -/
structure Delivered (codec : Gzip.Codec) (c : Config) (text : Bytes) (first last : Nat → World)
    (summary : LoadSummary) : Prop where
  served : ∀ worker < c.workers, Served codec c text worker (first worker) (last worker)
  /-- Nothing was lost, and nothing was accepted twice. -/
  once : ((List.range c.workers).flatMap fun worker =>
    acceptedPoints codec (first worker) (last worker)).Perm (wanted c text)
  /-- One worker brought all points of a series, in order. -/
  series : ∀ key, ∃ worker < c.workers,
    ((acceptedPoints codec (first worker) (last worker)).filter fun p => p.seriesKey = key) =
        ((wanted c text).filter fun p => p.seriesKey = key) ∧
      ∀ other < c.workers, other ≠ worker →
        ∀ p ∈ acceptedPoints codec (first other) (last other), p.seriesKey ≠ key
  spaces : ∀ p ∈ wanted c text, p.count Point.space = 2
  points : text.length < 2 ^ 64 → summary.points = (wanted c text).length
  rows : text.length < 2 ^ 64 →
    summary.rows = sumOf (fun p => 1 + p.fields.count Point.comma) (wanted c text)

/-- Points of one series go to one worker. -/
theorem exists_worker_of_series (hWorkers : 0 < c.workers) (key : Bytes) :
    ∃ worker < c.workers, ∀ p : Point, p.seriesKey = key → workerFor c p = worker := by
  by_cases hHash : c.hashWorkers = true
  · refine ⟨(Hash.fnv1a key).toNat % c.workers, Nat.mod_lt _ hWorkers, ?_⟩
    rintro p rfl
    rw [workerFor, if_pos hHash]
  · exact ⟨0, hWorkers, fun p _ => by rw [workerFor, if_neg hHash]⟩

theorem ne_nil_of_mem_wanted {p : Point} (hPoint : p ∈ wanted c text) : p ≠ [] :=
  (Source.Line.point?_eq_some_iff.mp
    (Source.mem_dataLines (mem_dataLines_of_mem_wanted hPoint)).2).2.1

/-- A text is at least as long as the points in it weigh, if none weighs more than its length. -/
theorem sumOf_wanted_le_length {weight : Point → Nat}
    (hWeight : ∀ p ∈ wanted c text, weight p ≤ p.length) :
    sumOf weight (wanted c text) ≤ text.length :=
  Nat.le_trans (sumOf_le hWeight) (Nat.le_trans (sumOf_wanted_le c text List.length)
    (Source.sumOf_length_dataLines_le text))

theorem count_fields_lt {p : Point} (hSome : p ≠ []) : 1 + p.fields.count Point.comma ≤ p.length := by
  have hPos := List.length_pos_iff.mpr hSome
  have hCount : p.fields.count Point.comma ≤ p.fields.length := List.count_le_length
  have hFields : p.fields.length ≤ ((p.dropWhile (· ≠ Point.space)).drop 1).length :=
    (List.takeWhile_prefix _).length_le
  have hDrop : (p.dropWhile (· ≠ Point.space)).length ≤ p.length :=
    (List.dropWhile_suffix _).length_le
  rw [List.length_drop] at hFields
  omega

/-- It is enough that every server was served, and that the totals are right as words. -/
theorem Delivered.of_served {first last : Nat → World} {summary : LoadSummary}
    (hWorkers : 0 < c.workers)
    (hServed : ∀ worker < c.workers, Served codec c text worker (first worker) (last worker))
    (hAccepted : ∀ p ∈ wanted c text, p.Accepted)
    (hPoints : summary.points = (UInt64.ofNat (wanted c text).length).toNat)
    (hRows : summary.rows = (UInt64.ofNat (sumOf Point.rowCount (wanted c text))).toNat) :
    Delivered codec c text first last summary := by
  have hShares : ∀ worker < c.workers,
      acceptedPoints codec (first worker) (last worker) = share c text worker :=
    fun worker hWorker => (hServed worker hWorker).acceptedPoints_eq
  have hWeighed : sumOf Point.rowCount (wanted c text) =
      sumOf (fun p => 1 + p.fields.count Point.comma) (wanted c text) :=
    sumOf_congr fun p hPoint => Point.rowCount_eq (hAccepted p hPoint)
  refine ⟨hServed, ?_, fun key => ?_, fun p hPoint => ?_, fun hSize => ?_, fun hSize => ?_⟩
  · have hAll : (List.range c.workers).flatMap (fun worker =>
        acceptedPoints codec (first worker) (last worker)) =
          (List.range c.workers).flatMap fun worker => share c text worker :=
      List.flatMap_congr fun worker hWorker => hShares worker (List.mem_range.mp hWorker)
    rw [hAll]
    exact flatMap_kinds_perm (workerFor c) fun p _ => workerFor_lt hWorkers p
  · obtain ⟨worker, hWorker, hSeries⟩ := exists_worker_of_series hWorkers key
    refine ⟨worker, hWorker, ?_, ?_⟩
    · rw [hShares worker hWorker, share, List.filter_filter]
      apply List.filter_congr
      intro p hPoint
      by_cases hKey : p.seriesKey = key
      · simp [hKey, hSeries p hKey]
      · simp [hKey]
    · intro other hOther hNe p hPoint hKey
      rw [hShares other hOther, share, List.mem_filter, decide_eq_true_eq] at hPoint
      exact hNe (hPoint.2.symm.trans (hSeries p hKey))
  · exact (Point.accepted_iff p).mp (hAccepted p hPoint)
  · have hLess : (wanted c text).length ≤ text.length := by
      rw [← sumOf_one]
      exact sumOf_wanted_le_length fun p hPoint => List.length_pos_iff.mpr (ne_nil_of_mem_wanted hPoint)
    rw [hPoints, UInt64.toNat_ofNat', Nat.mod_eq_of_lt (Nat.lt_of_le_of_lt hLess hSize)]
  · have hLess : sumOf (fun p => 1 + p.fields.count Point.comma) (wanted c text) ≤ text.length :=
      sumOf_wanted_le_length fun p hPoint => count_fields_lt (ne_nil_of_mem_wanted hPoint)
    rw [hRows, hWeighed, UInt64.toNat_ofNat', Nat.mod_eq_of_lt (Nat.lt_of_le_of_lt hLess hSize)]

/-- Batches of any size carry the points that they were filled with. -/
theorem flatMap_payload_ofLines {size : Nat} (hSize : 0 < size) (points : List Point) :
    ((groupsOf size points).map ofLines).flatMap LineBatch.payload =
      points.flatMap (· ++ [Source.Line.newline]) := by
  have hPayload (group : List Point) :
      (ofLines group).payload = (id group).flatMap (· ++ [Source.Line.newline]) := by
    rw [LineBatch.payload, LineBatch.lines_ofLines]
    rfl
  conv => rhs; rw [← flatten_groupsOf hSize points, ← List.flatMap_id, List.flatMap_assoc]
  rw [List.flatMap_map]
  exact congrArg (List.flatMap · _) (funext hPayload)

/-- A worker is connected to the url whose turn it is. -/
theorem destination_of_connect {worker : Nat} {d : Destination} {told : Journal}
    (hConnect : (Http.connector c.influx).connect worker = (.ok d, told)) :
    ∃ base url, c.influx.urls[worker % c.influx.urls.length]? = some base ∧
      Http.writeUrl base c.influx = .ok url ∧ d = ⟨worker, url.text⟩ := by
  simp only [Http.connector, Http.workerUrl, InfluxConfig.urlFor?] at hConnect
  cases hBase : c.influx.urls[worker % c.influx.urls.length]? with
  | none =>
      rw [hBase] at hConnect
      cases hConnect
  | some base =>
      simp only [hBase] at hConnect
      cases hUrl : Http.writeUrl base c.influx with
      | error f =>
          rw [hUrl] at hConnect
          cases hConnect
      | ok url =>
          rw [hUrl] at hConnect
          cases hConnect
          exact ⟨base, url, rfl, hUrl, rfl⟩

/-- A worker that gives a report on batches with its share of the points has served its server. -/
theorem served_of_run (hCodec : codec.Faithful) (hLoad : c.doLoad = true) {world : Nat → World}
    {worker : Nat} {pool : Pool LineBatch} {totals : Totals} {batches : List LineBatch}
    {report : WorkerReport}
    (hBatches : batches.flatMap LineBatch.payload =
      (share c text worker).flatMap (· ++ [Source.Line.newline]))
    (hRun : ((WorkerState.start worker (processor codec c (Http.connector c.influx) world worker) pool
      totals).run (.ofConfig c) batches).result = .ok report) :
    Served codec c text worker (world worker) ((WorkerState.start worker
      (processor codec c (Http.connector c.influx) world worker) pool totals).run (.ofConfig c)
        batches).final.processor.world := by
  obtain ⟨d, told, hConnect, hDestination, hAccepted⟩ :=
    WorkerState.brought_of_run hLoad hCodec hRun
  obtain ⟨base, url, hBase, hUrl, rfl⟩ := destination_of_connect hConnect
  refine ⟨?_, fun r hr => ⟨base, url, hBase, hUrl, hDestination r hr⟩⟩
  rw [← hBatches]
  exact hAccepted

/-- What dispatch sends when it succeeds: to each channel the share of its worker, in batches. -/
structure Dispatched (c : Config) (text : Bytes) (received : Nat → List LineBatch) : Prop where
  accepted : ∀ p ∈ wanted c text, p.Accepted
  shares : ∀ worker < c.workers, (received worker).flatMap LineBatch.payload =
    (share c text worker).flatMap (· ++ [Source.Line.newline])
  points : sumOf (fun worker => sumOf LineBatch.points (received worker)) (List.range c.workers) =
    (wanted c text).length
  rows : sumOf (fun worker => sumOf LineBatch.rows (received worker)) (List.range c.workers) =
    sumOf Point.rowCount (wanted c text)

/-- The source of a text that arrives in chunks. -/
def sourceOf (chunks : List Bytes) : Source.Stream :=
  (Source.Lines.ofChunks (chunks.map .bytes)).toStream

theorem dispatched_of_alone (hWorkers : 0 < c.workers) (hOwn : c.OwnChannels) (chunks : List Bytes)
    {d : DispatchSummary}
    (hResult : (Concurrent.alone c (sourceOf chunks) (routing c)).result = .ok d) :
    Dispatched c chunks.flatten
      (Concurrent.alone c (sourceOf chunks) (routing c)).final.receivedOn := by
  obtain ⟨hDelivers, hAccepted, hPicks⟩ :=
    Dispatch.delivers_of_run (routing c) (.ofCapacity (Load.poolSize c)) hResult
  rw [sourceOf, Source.points_toStream, cut_eq_wanted] at hDelivers hAccepted hPicks
  have hChannels := hOwn.channelCount_eq
  have hSize := (Concurrent.limits c).fullSize_pos
  have hPoints := hDelivers.sumOf_receivedOn hSize hPicks fun lines =>
    (LineBatch.points_ofLines lines).trans (sumOf_one lines).symm
  have hRows := hDelivers.sumOf_receivedOn hSize hPicks LineBatch.rows_ofLines
  rw [sumOf_one] at hPoints
  refine ⟨hAccepted, fun worker hWorker => ?_, ?_, ?_⟩
  · have hReceived := hDelivers.receivedOn (hChannels ▸ hWorker)
    rw [Indexer.routed_of_steady (pick_routing hWorkers hOwn)] at hReceived
    rw [← flatMap_payload_ofLines hSize]
    exact congrArg (List.flatMap LineBatch.payload) hReceived
  · rw [← hChannels]
    exact hPoints
  · rw [← hChannels]
    exact hRows

section

variable {world : Nat → World} {chunks : List Bytes} {summary : LoadSummary}

/-- However the parts of a load take turns, its success is a delivery. -/
theorem delivered_of_reachable (hCodec : codec.Faithful) (hStart : Load.startFault? c = none)
    (hLoad : c.doLoad = true) (hOwn : c.OwnChannels) {s : Concurrent.State Routing InfluxProcessor}
    (hReach : Concurrent.Reachable c (sourceOf chunks) (routing c)
      (processor codec c (Http.connector c.influx) world) s)
    (hRunner : s.runner = .returned (.ok summary)) {last : Nat → World}
    (hLast : ∀ worker < c.workers, last worker = (s.task worker).state.processor.world) :
    Delivered codec c chunks.flatten world last summary := by
  have hWorkers := Concurrent.workers_pos hStart
  have hTruthful := Concurrent.truthful hReach
  rw [hRunner] at hTruthful
  obtain ⟨d, reports, elapsed, ⟨unread, hReturned⟩, hComplete, rfl⟩ := hTruthful
  have hAll := hComplete.allReported
  obtain ⟨hAlone, -⟩ := (Concurrent.scanning hReach).of_returned hReturned
  have hDispatched := dispatched_of_alone hWorkers hOwn chunks hAlone
  rw [(Concurrent.scanning hReach).receivedOn_of_returned hReturned] at hDispatched
  obtain ⟨hPoints, hRows, -⟩ :=
    Concurrent.figures_of_allReported hReach hStart hAll ⟨unread, hReturned⟩
  obtain ⟨hCounted, -⟩ := Concurrent.figures_of_scanned hReach ⟨unread, hReturned⟩
  rw [hCounted, hOwn.channelCount_eq, hDispatched.points] at hPoints
  rw [hOwn.channelCount_eq, hDispatched.rows] at hRows
  have hTallied := Concurrent.tallied hReach
  refine .of_served hWorkers (fun worker hWorker => ?_) hDispatched.accepted ?_ ?_
  · obtain ⟨r, hEnded⟩ := hAll worker hWorker
    have hTask := Concurrent.replaying hReach worker
    unfold Concurrent.Task.Replays at hTask
    rw [hEnded, Concurrent.taken_of_own hReach hStart hAll hOwn.channelCount_eq hWorker]
      at hTask
    obtain ⟨hRun, hAlike⟩ := hTask
    rw [hLast worker hWorker, hAlike.processor]
    exact served_of_run hCodec hLoad (hDispatched.shares worker hWorker) hRun
  · rw [← hPoints, ← hTallied.points]
    rfl
  · rw [← hRows, ← hTallied.rows]
    rfl

/-- The world of a worker after a load. -/
def worldAfter (outcome : LoadOutcome InfluxProcessor) (worker : Nat) : World :=
  (outcome.processors[worker]?.map InfluxProcessor.world).getD {}

/-- The same holds when dispatch goes first and the workers follow one by one. -/
theorem delivered_of_run (hCodec : codec.Faithful) (hStart : Load.startFault? c = none)
    (hLoad : c.doLoad = true) (hOwn : c.OwnChannels) {elapsed : Nat}
    (hRun : (run codec c elapsed (.ok (sourceOf chunks)) world).result = .ok summary) :
    Delivered codec c chunks.flatten world
      (worldAfter (run codec c elapsed (.ok (sourceOf chunks)) world)) summary := by
  obtain ⟨s, hReach, hRunner, hProcessors⟩ := Load.reachable_of_run rfl hRun
  refine delivered_of_reachable hCodec hStart hLoad hOwn hReach hRunner fun worker hWorker => ?_
  have hOutcome : (run codec c elapsed (.ok (sourceOf chunks)) world).processors =
      (List.range c.workers).map fun worker => (s.task worker).state.processor := hProcessors
  rw [worldAfter, hOutcome, List.getElem?_map, List.getElem?_range hWorker]
  rfl

end

/-- A load that succeeds, in whatever order its parts take turns, has brought each point of its text to
the server of one worker, once and in order, whatever was refused on the way; and its summary counts
these points and their rows. The bodies may be packed by any codec that is faithful. -/
theorem delivers_each_point_once (codec : Gzip.Codec) (hCodec : codec.Faithful) (c : Config)
    (hStart : Load.startFault? c = none) (hLoad : c.doLoad = true) (hOwn : c.OwnChannels)
    (chunks : List Bytes) (world : Nat → World) :
    (∀ s summary, Concurrent.Reachable c (sourceOf chunks) (routing c)
        (processor codec c (Http.connector c.influx) world) s →
      s.runner = .returned (.ok summary) →
        Delivered codec c chunks.flatten world
          (fun worker => (s.task worker).state.processor.world) summary) ∧
    ∀ elapsed summary, (run codec c elapsed (.ok (sourceOf chunks)) world).result = .ok summary →
      Delivered codec c chunks.flatten world
        (worldAfter (run codec c elapsed (.ok (sourceOf chunks)) world)) summary := by
  constructor
  · intro s summary hReach hRunner
    exact delivered_of_reachable hCodec hStart hLoad hOwn hReach hRunner fun _ _ => rfl
  · intro elapsed summary hRun
    exact delivered_of_run hCodec hStart hLoad hOwn hRun

/-- A server that refuses once and is overloaded once before it accepts. -/
def reluctant : World where
  answers :=
    [⟨.transportError "connection refused", 1, 7⟩, ⟨.response 500 (Utf8.encode "timeout"), 1, 0⟩]

def oneServer : Config := { batchSize := 1, influx := { urls := ["http://[::1]:8086"] } }

/-- Two servers that get their bodies as they are. -/
def twoServers : Config :=
  { workers := 2, hashWorkers := true, batchSize := 2
    influx := { urls := ["http://[::1]:8086", "http://[::1]:8087/"], gzip := false } }

/-- Four points of two series, in two chunks. -/
def twoSeries : List Bytes :=
  [Utf8.encode "# load\nb x=1 1\na x=1,y=2 2\r\n\nb x", Utf8.encode "=3 3\nb x=4 4\n"]

/-- One worker with a single point that is packed, step by step; and two workers that pack nothing,
the second of which brings its series in two batches. -/
theorem delivers_each_point_once_reluctant :
    (∃ s summary, Concurrent.Reachable oneServer (sourceOf [Gzip.pointText]) (routing oneServer)
        (processor Gzip.pointCodec oneServer (Http.connector oneServer.influx)
          fun _ => reluctant) s ∧
      s.runner = .returned (.ok summary) ∧ summary.points = 1 ∧
      (s.task 0).state.processor.world.requests.map Request.body =
        List.replicate 3 Gzip.pointMember ∧
      reluctant.acceptedText? Gzip.pointCodec (s.task 0).state.processor.world =
        some Gzip.pointText) ∧
    ∃ summary,
      (run Gzip.pointCodec twoServers 0 (.ok (sourceOf twoSeries)) fun _ => reluctant).result =
        .ok summary ∧ summary.points = 4 ∧ summary.rows = 5 ∧
      reluctant.acceptedText? Gzip.pointCodec
          (worldAfter (run Gzip.pointCodec twoServers 0 (.ok (sourceOf twoSeries))
            fun _ => reluctant) 1) =
        some (Utf8.encode "b x=1 1\nb x=3 3\nb x=4 4\n") := by
  constructor
  · have hFirst : 0 < oneServer.workers := by decide
    have hInitial : Concurrent.Reachable oneServer (sourceOf [Gzip.pointText]) (routing oneServer)
      (processor Gzip.pointCodec oneServer (Http.connector oneServer.influx) fun _ => reluctant) _ :=
        .initial
    have hDue := (hInitial.step (.advance rfl)).step (.advance rfl)
    have hSent := hDue.step (.deliver rfl ⟨0, hFirst, rfl, trivial⟩ (by decide) rfl)
    have hClosed := ((hSent.step (.advance rfl)).step (.advance rfl)).step (.advance rfl)
    have hStarted := hClosed.step (.start hFirst rfl (by decide +kernel))
    have hTaken := hStarted.step (.receive hFirst rfl rfl)
    have hProcessed := hTaken.step (.process hFirst rfl (by decide +kernel))
    have hFinished := hProcessed.step (.finish hFirst rfl ⟨⟨_, _, rfl⟩, rfl⟩ (by nofun))
    have hHeard := (hFinished.step (.scanned rfl rfl)).step (.joined hFirst rfl rfl rfl)
    have hReach := hHeard.step (.summarise rfl (by decide) 0)
    have hDelivered := (delivers_each_point_once Gzip.pointCodec Gzip.faithful_pointCodec oneServer
      (by decide) rfl (.inr rfl) _ _).1 _ _ hReach rfl
    refine ⟨_, _, hReach, rfl, ?_, ?_, ?_⟩
    · rw [hDelivered.points (by decide +kernel)]
      decide +kernel
    · decide +kernel
    · rw [(hDelivered.served 0 hFirst).accepted]
      decide +kernel
  · have hOk : (run Gzip.pointCodec twoServers 0 (.ok (sourceOf twoSeries))
        fun _ => reluctant).result.isOk = true := by
      decide +kernel
    cases hRun : (run Gzip.pointCodec twoServers 0 (.ok (sourceOf twoSeries))
        fun _ => reluctant).result with
    | error halt =>
        rw [hRun] at hOk
        cases hOk
    | ok summary =>
        have hDelivered := (delivers_each_point_once Gzip.pointCodec Gzip.faithful_pointCodec
          twoServers (by decide) rfl (.inl rfl) twoSeries fun _ => reluctant).2 0 summary hRun
        refine ⟨summary, rfl, ?_, ?_, ?_⟩
        · rw [hDelivered.points (by decide +kernel)]
          decide +kernel
        · rw [hDelivered.rows (by decide +kernel)]
          decide +kernel
        · rw [(hDelivered.served 1 (by decide)).accepted]
          decide +kernel

end InfluxLoad
end BulkLoad
