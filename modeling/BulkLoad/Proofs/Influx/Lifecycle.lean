import BulkLoad.Proofs.Dispatch.Stock
import BulkLoad.Proofs.Influx.Processing
import BulkLoad.Proofs.Write.Watched
import Mathlib.Data.List.DropRight

/-!
What a processor does depends on the calls made on it before.

It sends only while it is connected, which is from an `init` that connected it until it is closed. The
server may answer as it likes, and others may use the buffers between two calls: what is sent is the
payload of the batch, and no buffer is lost.
-/
namespace BulkLoad

/-- A pool that may hold a value, and holds no more than it may. -/
structure Pool.Bounded {α : Type} (p : Pool α) : Prop where
  room : 1 ≤ p.capacity
  within : p.available ≤ p.capacity

/-- A value that is taken and put back leaves one there, and the others with it. -/
theorem Pool.Bounded.available_release {α : Type} [Reusable α] {p : Pool α} (hBounded : p.Bounded)
    (a : α) : (p.acquire.2.release a).available = max p.available 1 ∧
      (p.acquire.2.release a).Bounded := by
  have hRoom := hBounded.room
  have hWithin := hBounded.within
  have hCapacity : p.acquire.2.capacity = p.capacity := p.capacity_acquire
  have hLess : p.acquire.2.available < p.acquire.2.capacity := by
    rcases p.acquire_cases with ⟨-, hOne⟩ | ⟨-, -, hNone⟩ <;> omega
  have hAvailable : (p.acquire.2.release a).available = p.acquire.2.available + 1 := by
    rw [Pool.release_of_available_lt hLess, Pool.available, Pool.available]
    exact List.length_append
  refine ⟨?_, ?_, ?_⟩
  · rcases p.acquire_cases with ⟨-, hOne⟩ | ⟨-, hBefore, hNone⟩ <;> omega
  · rw [capacity_release, hCapacity]
    exact hRoom
  · rw [capacity_release, hAvailable]
    exact hLess

namespace Controller

variable {c : Controller} {w : Writing}

theorem quiet_step (hQuiet : w.tracker.Quiet) (x : Exchange) : (c.step w x).2.tracker.Quiet := by
  unfold step
  dsimp only
  split
  · exact hQuiet
  · exact hQuiet.signal _ _
  · exact fun name => rfl
  · split
    · exact fun name => rfl
    · exact hQuiet.signal _ _

theorem quiet_follow (hQuiet : w.tracker.Quiet) (sentAt : List Nat) (xs : List Exchange) :
    (c.follow w sentAt xs).writing.tracker.Quiet := by
  induction xs generalizing w sentAt with
  | nil => exact hQuiet
  | cons x xs ih =>
      have hNext := quiet_step (c := c) hQuiet x
      rw [follow]
      rcases hStep : c.step w x with ⟨ended, next⟩
      rw [hStep] at hNext
      cases ended with
      | none => exact ih hNext _
      | some ended => exact hNext

/-- However a write ends, the tracker has nothing to tell that counts. -/
theorem quiet_write (hQuiet : c.tracker.Quiet) (world : World) (body : Bytes) (gzip : Bool) :
    (c.write world body gzip).controller.tracker.Quiet := by
  obtain ⟨asked, hRun⟩ := exists_after_of_followWorld c world.clock world
  have hWrite : c.followWorld { tracker := c.tracker, clock := world.clock } world =
    c.after world.clock (world.answer c.destination) asked := hRun
  rw [write, hWrite]
  exact quiet_follow hQuiet [] _

/-- A write makes the same request again and again. The last answer that it gets is the one that ends
it, and if none does then none would have. -/
theorem write_cases (hPolicy : 1 ≤ c.policy.maxRetries) (hQuiet : c.tracker.Quiet) (world : World)
    (body : Bytes) (gzip : Bool) :
    ∃ n, (c.write world body gzip).world.requests =
        world.requests ++ List.replicate n ⟨c.destination, gzip, body⟩ ∧
      ((∃ k, n = k + 1 ∧
          EndsWith (world.answer c.destination k) (c.write world body gzip).ended) ∨
        ((c.write world body gzip).ended = .endless ∧
          ∀ k, ¬(world.answer c.destination).Settles c.policy.maxRetries k)) := by
  obtain ⟨asked, hRun, hRest⟩ := exists_followWorld_eq_after world.clock world hQuiet hPolicy
  set r := world.answer c.destination
  have hWrite : c.followWorld { tracker := c.tracker, clock := world.clock } world =
    c.after world.clock r asked := hRun
  have hRequests := requests_receive world ⟨c.destination, gzip, body⟩
    (c.after world.clock r asked).sentAt
  refine ⟨(c.after world.clock r asked).sentAt.length, by rw [write, hWrite]; exact hRequests, ?_⟩
  cases hEnded : (c.after world.clock r asked).ended with
  | some ended =>
      obtain ⟨k, -, hEnds, hLength⟩ := of_after_ended hEnded
      refine .inl ⟨k, hLength, ?_⟩
      rw [write, hWrite, hEnded]
      exact hEnds
  | none =>
      refine .inr ⟨by rw [write, hWrite, hEnded]; rfl, fun k => ?_⟩
      obtain ⟨-, hReplies⟩ := of_after_open hEnded
      have hOpen : r.Open c.policy.maxRetries asked := by
        by_contra hClosed
        obtain ⟨first, hLe, hFirst⟩ := Answers.exists_first_of_not_open hClosed
        have hSettled := settled_of_first hQuiet hPolicy
          (fun i hi => (hReplies i (Nat.lt_of_lt_of_le hi hLe)).2) hFirst world.clock
        rw [after_eq_of_ended hSettled.ended_ne_none hLe] at hEnded
        exact hSettled.ended_ne_none hEnded
      exact hRest (fun i hi => (hReplies i hi).2) hOpen k k (Nat.le_refl k)

end Controller

namespace Deed

/-- Whether the call connected the processor. -/
def connects : Deed → Bool
  | .init _ true _ (.ok ()) => true
  | _ => false

def closes : Deed → Bool
  | .close _ _ => true
  | _ => false

def worker? : Deed → Option Nat
  | .init worker _ _ _ => some worker
  | _ => none

end Deed

namespace InfluxProcessor

/-- Whether a call connected the processor since it was last closed. -/
def connected (deeds : List Deed) : Bool :=
  (deeds.rtakeWhile fun deed => !deed.closes).any Deed.connects

/-- The worker of the latest `init`. -/
def latestWorker (deeds : List Deed) : Nat := (deeds.filterMap Deed.worker?).getLast?.getD 0

/-- A processor on which these calls were made, with what they gave. Between two calls the world may
change, and so may the buffers, which are shared. -/
inductive History : List Deed → InfluxProcessor → Prop where
  | fresh {p : InfluxProcessor} (hController : p.controller = none) (hWorker : p.worker = 0)
      (hBuffers : p.buffers.Bounded) : History [] p
  | init {deeds : List Deed} {p : InfluxProcessor} (hPast : History deeds p) (worker : Nat)
      (doLoad hashWorkers : Bool) :
      History (deeds ++ [.init worker doLoad hashWorkers (p.init worker doLoad).result])
        (p.init worker doLoad).next
  | process {deeds : List Deed} {p : InfluxProcessor} (hPast : History deeds p) (b : LineBatch)
      (doLoad : Bool) :
      History (deeds ++ [.process b doLoad (p.process b doLoad).result]) (p.process b doLoad).next
  | close {deeds : List Deed} {p : InfluxProcessor} (hPast : History deeds p) (doLoad : Bool) :
      History (deeds ++ [.close doLoad p.close.result]) p.close.next
  | meanwhile {deeds : List Deed} {p : InfluxProcessor} (hPast : History deeds p)
      (connector : Connector) (world : World) {buffers : Pool Bytes} (hBuffers : buffers.Bounded) :
      History deeds { p with connector, world, buffers }

/-- A controller that writes by the rules of its processor. -/
structure Follows (retry : RetryConfig) (c : Controller) : Prop where
  policy : c.policy = .ofConfig retry
  quiet : c.tracker.Quiet

/-- What is known of a processor from the calls made on it. -/
structure Kept (deeds : List Deed) (p : InfluxProcessor) : Prop where
  connected : p.controller.isSome = connected deeds
  worker : p.worker = latestWorker deeds
  buffers : p.buffers.Bounded
  follows : ∀ c, p.controller = some c → Follows p.retry c

theorem connected_append (deeds : List Deed) (deed : Deed) :
    InfluxProcessor.connected (deeds ++ [deed]) =
      (!deed.closes && (deed.connects || InfluxProcessor.connected deeds)) := by
  unfold InfluxProcessor.connected
  by_cases hCloses : deed.closes = true
  · rw [List.rtakeWhile_concat_neg _ _ _ (by simp [hCloses])]
    simp [hCloses]
  · rw [List.rtakeWhile_concat_pos _ _ _ (by simp [hCloses])]
    simp [hCloses, Bool.or_comm]

theorem latestWorker_append (deeds : List Deed) (deed : Deed) :
    latestWorker (deeds ++ [deed]) = deed.worker?.getD (latestWorker deeds) := by
  unfold latestWorker
  cases hWorker : deed.worker? with
  | none => simp [hWorker]
  | some worker => simp [hWorker]

theorem follows_replace (p : InfluxProcessor) (d : Destination)
    (hFollows : ∀ c, p.controller = some c → Follows p.retry c) :
    Follows p.retry (p.replace d) := by
  unfold replace
  dsimp only
  cases hController : p.controller with
  | none => exact ⟨rfl, Controller.quiet_ofConfig d p.retry⟩
  | some old =>
      refine ⟨rfl, fun name => ?_⟩
      have hQuiet := (hFollows old hController).quiet name
      simp [Controller.close, Tracker.close, hQuiet]

/-- What a call gives that sends a batch until an answer ends the write, by the last answer that it
got. -/
inductive Answered (r : Answers) (attempts worker : Nat) (counts : BatchCounts) :
    Nat → Except Halt BatchCounts → Prop where
  | accepted {n : Nat} (hAccepts : (r n).reply.accepts = true) :
      Answered r attempts worker counts (n + 1) (.ok counts)
  | refused {n : Nat} {message : String} (hRefused : r.verdict n = .refused message)
      (tried : Nat) :
      Answered r attempts worker counts (n + 1)
        (.error (.failed (.write worker (BackoffError.retriesExhausted tried message).message)))
  | crashed {n : Nat} (hCrashed : r.verdict n = .crashed) :
      Answered r attempts worker counts (n + 1) (.error .crashed)
  | never {n : Nat} (hNever : ∀ k, ¬r.Settles attempts k) :
      Answered r attempts worker counts n (.error .endless)

section

variable {deeds : List Deed} {p : InfluxProcessor}

theorem next_send (p : InfluxProcessor) (c : Controller) (b : LineBatch) :
    (p.send c b).next =
      { p with
        buffers := (p.body b).2
        world := (c.write p.world (p.body b).1 p.gzip).world
        controller := some (c.write p.world (p.body b).1 p.gzip).controller } := by
  unfold send
  dsimp only
  split <;> rfl

theorem result_send (p : InfluxProcessor) (c : Controller) (b : LineBatch) :
    (p.send c b).result =
      (endOf p.worker (c.write p.world (p.body b).1 p.gzip).ended).map fun _ => b.counts := by
  unfold send
  dsimp only
  split
  · rename_i halt hEnd
    rw [hEnd]
    rfl
  · rename_i latency hEnd
    rw [hEnd]
    rfl

/-- A body is packed in a buffer, which goes back to the pool. -/
theorem buffers_body (hBounded : p.buffers.Bounded) (b : LineBatch) :
    (p.body b).2.available =
        (if p.gzip then max p.buffers.available 1 else p.buffers.available) ∧
      (p.body b).2.Bounded := by
  unfold body
  by_cases hGzip : p.gzip = true
  · rw [if_pos hGzip, if_pos hGzip]
    exact hBounded.available_release _
  · rw [if_neg hGzip, if_neg hGzip]
    exact ⟨rfl, hBounded⟩

namespace Kept

/-- A call that connects nothing and closes nothing leaves a processor as connected as it was. -/
theorem init (hKept : Kept deeds p) (worker : Nat) (doLoad hashWorkers : Bool) :
    Kept (deeds ++ [.init worker doLoad hashWorkers (p.init worker doLoad).result])
      (p.init worker doLoad).next := by
  unfold InfluxProcessor.init
  cases doLoad with
  | false =>
      refine ⟨?_, ?_, hKept.buffers, hKept.follows⟩
      · rw [connected_append]
        exact hKept.connected
      · rw [latestWorker_append]
        rfl
  | true =>
      rcases hConnect : p.connector.connect worker with ⟨result, told⟩
      simp only [if_true, hConnect]
      cases result with
      | error f =>
          refine ⟨?_, ?_, hKept.buffers, hKept.follows⟩
          · rw [connected_append]
            exact hKept.connected
          · rw [latestWorker_append]
            rfl
      | ok d =>
          refine ⟨?_, ?_, hKept.buffers, fun c hController => ?_⟩
          · rw [connected_append]
            rfl
          · rw [latestWorker_append]
            rfl
          · cases hController
            exact follows_replace _ d hKept.follows

theorem process (hKept : Kept deeds p) (b : LineBatch) (doLoad : Bool) :
    Kept (deeds ++ [.process b doLoad (p.process b doLoad).result]) (p.process b doLoad).next := by
  have hStays : Kept (deeds ++ [.process b doLoad (p.process b doLoad).result]) p := by
    refine ⟨?_, ?_, hKept.buffers, hKept.follows⟩
    · rw [connected_append]
      exact hKept.connected
    · rw [latestWorker_append]
      exact hKept.worker
  cases doLoad with
  | false => exact hStays
  | true =>
      cases hController : p.controller with
      | none =>
          have hNext : (p.process b true).next = p := by
            simp [InfluxProcessor.process, hController]
          rwa [hNext]
      | some c =>
          have hProcess : p.process b true = p.send c b := by
            simp [InfluxProcessor.process, hController]
          have hFollows := hKept.follows c hController
          rw [hProcess] at hStays ⊢
          rw [next_send]
          refine ⟨?_, hStays.worker, (buffers_body hKept.buffers b).2, fun next hNext => ?_⟩
          · rw [← hStays.connected, hController]
            rfl
          · cases hNext
            exact ⟨hFollows.policy, Controller.quiet_write hFollows.quiet _ _ _⟩

theorem close (hKept : Kept deeds p) (doLoad : Bool) :
    Kept (deeds ++ [.close doLoad p.close.result]) p.close.next := by
  have hGone : InfluxProcessor.connected (deeds ++ [.close doLoad p.close.result]) = false :=
    connected_append ..
  have hWorker : p.worker = latestWorker (deeds ++ [.close doLoad p.close.result]) := by
    rw [latestWorker_append]
    exact hKept.worker
  unfold InfluxProcessor.close at hGone hWorker ⊢
  cases hController : p.controller with
  | none =>
      rw [hController] at hGone hWorker
      refine ⟨?_, hWorker, hKept.buffers, hKept.follows⟩
      rw [hGone, hController]
      rfl
  | some c =>
      rw [hController] at hGone hWorker
      exact ⟨hGone.symm, hWorker, hKept.buffers, nofun⟩

theorem meanwhile (hKept : Kept deeds p) (connector : Connector) (world : World)
    {buffers : Pool Bytes} (hBuffers : buffers.Bounded) :
    Kept deeds { p with connector, world, buffers } :=
  { hKept with buffers := hBuffers }

end Kept

/-- What is known of a processor holds after all its calls. -/
theorem History.kept (hPast : History deeds p) : Kept deeds p := by
  induction hPast with
  | fresh hController hWorker hBuffers =>
      refine ⟨by rw [hController]; rfl, hWorker, hBuffers, fun c hSome => ?_⟩
      rw [hController] at hSome
      cases hSome
  | init hPast worker doLoad hashWorkers ih => exact ih.init worker doLoad hashWorkers
  | process hPast b doLoad ih => exact ih.process b doLoad
  | close hPast doLoad ih => exact ih.close doLoad
  | meanwhile hPast connector world hBuffers ih => exact ih.meanwhile connector world hBuffers

/-- The call gives what the end of the write comes to. -/
theorem answered_of_endsWith {r : Answers} {attempts worker k : Nat} {counts : BatchCounts}
    {ended : WriteEnd} (hEnds : Controller.EndsWith (r k) ended) :
    Answered r attempts worker counts (k + 1) ((endOf worker ended).map fun _ => counts) := by
  cases hEnds with
  | written hVerdict => exact .accepted ((Reply.accepts_iff _).mpr hVerdict)
  | refused hVerdict tried => exact .refused hVerdict tried
  | crashed hVerdict => exact .crashed hVerdict

/-- A call succeeds just if the last answer that it got accepts the batch. -/
theorem Answered.ok_iff {r : Answers} {attempts worker n : Nat} {counts : BatchCounts}
    {result : Except Halt BatchCounts} (hAnswered : Answered r attempts worker counts n result) :
    result = .ok counts ↔ 0 < n ∧ (r (n - 1)).reply.accepts = true := by
  cases hAnswered with
  | accepted hAccepts => exact iff_of_true rfl ⟨Nat.succ_pos _, hAccepts⟩
  | @refused n message hRefused tried =>
      refine iff_of_false nofun fun ⟨_, hAccepts⟩ => ?_
      rw [Reply.accepts_iff] at hAccepts
      exact absurd (hRefused.symm.trans hAccepts) nofun
  | @crashed n hCrashed =>
      refine iff_of_false nofun fun ⟨_, hAccepts⟩ => ?_
      rw [Reply.accepts_iff] at hAccepts
      exact absurd (hCrashed.symm.trans hAccepts) nofun
  | never hNever =>
      refine iff_of_false nofun fun ⟨hPos, hAccepts⟩ => hNever n ⟨hPos, .inl ?_⟩
      exact (Reply.accepts_iff _).mp hAccepts

/-- A batch that is sent is sent as it is, until an answer ends the write. -/
theorem Kept.send (hKept : Kept deeds p) {c : Controller} (hController : p.controller = some c)
    (b : LineBatch) :
    ∃ n, (p.send c b).next.world.requests =
        p.world.requests ++ List.replicate n ⟨c.destination, p.gzip, (p.body b).1⟩ ∧
      Answered (p.world.answer c.destination) (RetryPolicy.ofConfig p.retry).maxRetries p.worker
        b.counts n (p.send c b).result := by
  have hFollows := hKept.follows c hController
  have hPolicy : 1 ≤ c.policy.maxRetries := by
    rw [hFollows.policy]
    exact Nat.le_max_right ..
  obtain ⟨n, hRequests, hEnd⟩ :=
    Controller.write_cases hPolicy hFollows.quiet p.world (p.body b).1 p.gzip
  rw [next_send, result_send, ← hFollows.policy]
  refine ⟨n, hRequests, ?_⟩
  rcases hEnd with ⟨k, rfl, hEnds⟩ | ⟨hEndless, hNever⟩
  · exact answered_of_endsWith hEnds
  · rw [hEndless]
    exact .never hNever

/-- What a processor does, by the calls made on it before. It is connected from an `init` that connected
it until it is closed. Only then a batch that is to be loaded is sent: the request brings its payload,
packed by any codec that is faithful, whatever lay in the buffers, and the batch counts just if the last
answer accepts it; else the error names the worker of the latest `init`. No other call sends anything,
and every call leaves the buffers where they were, but for a new one if there was none to pack a body
in. -/
theorem lifecycle (hCodec : p.codec.Faithful) (hPast : History deeds p) :
    (p.controller.isSome = connected deeds ∧ p.worker = latestWorker deeds) ∧
    (∀ worker doLoad, (p.init worker doLoad).next.world = p.world ∧
      (p.init worker doLoad).next.buffers = p.buffers) ∧
    (p.close.next.world = p.world ∧ p.close.next.buffers = p.buffers) ∧
    (∀ b, p.process b false = { result := .ok b.counts, next := p }) ∧
    ∀ b,
      let call := p.process b true
      if connected deeds then
        ∃ (request : Request) (n : Nat),
          let answers := p.world.answer request.destination
          request.gzip = p.gzip ∧ request.text? p.codec = some b.payload ∧
          call.next.world.requests = p.world.requests ++ List.replicate n request ∧
          Answered answers (RetryPolicy.ofConfig p.retry).maxRetries (latestWorker deeds) b.counts n
            call.result ∧
          (call.result = .ok b.counts ↔ 0 < n ∧ (answers (n - 1)).reply.accepts = true) ∧
          call.next.buffers.available =
            if p.gzip then max p.buffers.available 1 else p.buffers.available
      else call = { result := .error (.failed (.notInitialized (latestWorker deeds))), next := p } := by
  have hKept := hPast.kept
  refine ⟨⟨hKept.connected, hKept.worker⟩, fun worker doLoad => ?_, ?_, fun b => rfl, fun b => ?_⟩
  · unfold init
    cases doLoad with
    | false => exact ⟨rfl, rfl⟩
    | true =>
        rcases hConnect : p.connector.connect worker with ⟨result, told⟩
        simp only [if_true, hConnect]
        cases result <;> exact ⟨rfl, rfl⟩
  · unfold close
    cases p.controller <;> exact ⟨rfl, rfl⟩
  · intro call
    have hConnected := hKept.connected
    cases hController : p.controller with
    | none =>
        rw [hController] at hConnected
        rw [← hConnected, ← hKept.worker]
        simp [call, process, hController]
    | some c =>
        have hCall : call = p.send c b := by simp [call, process, hController]
        obtain ⟨n, hRequests, hAnswered⟩ := hKept.send hController b
        rw [hController] at hConnected
        rw [← hConnected, ← hKept.worker, if_pos (Option.isSome_some), hCall]
        refine ⟨⟨c.destination, p.gzip, (p.body b).1⟩, n, rfl,
          Request.text?_of_packed hCodec (body_eq p b), hRequests, hAnswered, hAnswered.ok_iff, ?_⟩
        rw [next_send]
        exact (buffers_body hKept.buffers b).1

end

/-- A server that accepts one request and refuses the next, and a buffer with something in it. -/
def onceAccepted : InfluxProcessor where
  codec := Gzip.pointCodec
  gzip := true
  retry := { maxRetries := 1 }
  connector := ⟨fun worker => (.ok ⟨worker, ""⟩, [])⟩
  buffers := ⟨2, [[0xff, 0xff]], 1⟩
  world := { answers := [⟨.noContent, 1, 0⟩, ⟨.response 400 [], 1, 0⟩] }

/-- After a dry `init` of another worker the processor still sends, and the refusal names that worker.
The one buffer is back, and nothing that lay in it was sent. -/
theorem lifecycle_onceAccepted :
    let b : LineBatch := .ofLines [Utf8.encode "a x=1 1"]
    let p := (((onceAccepted.init 5 true).next.process b true).next.init 7 false).next
    let call := p.process b true
    (∃ message, call.result = .error (.failed (.write 7 message))) ∧
      call.next.buffers.available = 1 ∧
      call.next.world.requests.map Request.body = [Gzip.pointMember, Gzip.pointMember] ∧
      ∃ (request : Request) (n : Nat), request.gzip = true ∧
        request.text? Gzip.pointCodec = some b.payload ∧
        call.next.world.requests = p.world.requests ++ List.replicate n request := by
  intro b p call
  have hFresh : History [] onceAccepted := .fresh rfl rfl ⟨by decide, by decide⟩
  have hPast := ((hFresh.init 5 true false).process b true).init 7 false false
  obtain ⟨-, -, -, -, hProcess⟩ := lifecycle Gzip.faithful_pointCodec hPast
  have hCall := hProcess b
  rw [if_pos (by decide +kernel)] at hCall
  obtain ⟨request, n, hGzip, hText, hRequests, -, -, hAvailable⟩ := hCall
  have hOne : p.buffers.available = 1 := by decide +kernel
  refine ⟨⟨_, rfl⟩, ?_, by decide +kernel, request, n, hGzip, hText, hRequests⟩
  rw [hAvailable, hOne]
  rfl

end InfluxProcessor
end BulkLoad
