import BulkLoad.Proofs.Run.Crew
import BulkLoad.Proofs.Run.Success

/-!
The order in which a load is executed is one that it may take.

In the order shown here every batch is taken and processed as soon as it is sent, by the workers of its
channel in turn, so that no channel ever holds more than one. Each worker is handed the batches that it
is dealt when they are all there, and so the load comes to the same summary.
-/
namespace BulkLoad

namespace Load

/-- What is dealt of the first items stays dealt. -/
theorem dealt_prefix {α : Type} (count first : Nat) {items all : List α} (hFirst : items <+: all) :
    dealt count first items <+: dealt count first all := by
  obtain ⟨more, rfl⟩ := hFirst
  rw [dealt, dealt, List.zipIdx_append, List.filter_append, List.map_append]
  exact List.prefix_append _ _

theorem dealt_append_singleton {α : Type} (count first : Nat) (items : List α) (item : α) :
    dealt count first (items ++ [item]) =
      if items.length % count = first then dealt count first items ++ [item]
      else dealt count first items := by
  rw [dealt, dealt, List.zipIdx_append, List.filter_append, List.map_append]
  by_cases hTurn : items.length % count = first
  · simp [hTurn]
  · simp [hTurn]

variable {ι : Type} {c : Config} {d next : Dispatch ι}

theorem batchesOf_eq (c : Config) (d : Dispatch ι) (worker : Nat) :
    batchesOf c d.outlets worker =
      dealt (c.workers / c.channelCount) (worker / c.channelCount)
        (d.receivedOn (channelOf c.channelCount worker)) := rfl

/-- The worker whose turn it is to take a batch from a channel. -/
def onTurn (c : Config) (d : Dispatch ι) (channel : Nat) : Nat :=
  channel + c.channelCount * ((d.receivedOn channel).length % (c.workers / c.channelCount))

theorem channelOf_onTurn {channel : Nat} (hChannel : channel < c.channelCount) :
    channelOf c.channelCount (onTurn c d channel) = channel := by
  rw [channelOf, onTurn, Nat.add_mul_mod_self_left, Nat.mod_eq_of_lt hChannel]

theorem onTurn_div {channel : Nat} (hChannel : channel < c.channelCount) :
    onTurn c d channel / c.channelCount =
      (d.receivedOn channel).length % (c.workers / c.channelCount) := by
  rw [onTurn, Nat.add_mul_div_left _ _ (Nat.zero_lt_of_lt hChannel), Nat.div_eq_of_lt hChannel,
    Nat.zero_add]

theorem onTurn_lt (hStart : startFault? c = none) {channel : Nat}
    (hChannel : channel < c.channelCount) : onTurn c d channel < c.workers := by
  obtain ⟨hPos, hMost⟩ := Concurrent.channelCount_bounds hStart
  have hTurn : (d.receivedOn channel).length % (c.workers / c.channelCount) <
      c.workers / c.channelCount := Nat.mod_lt _ (Nat.div_pos hMost hPos)
  calc onTurn c d channel
      < c.channelCount * ((d.receivedOn channel).length % (c.workers / c.channelCount) + 1) := by
        rw [onTurn, Nat.mul_succ, Nat.add_comm]
        exact Nat.add_lt_add_left hChannel _
    _ ≤ c.channelCount * (c.workers / c.channelCount) := Nat.mul_le_mul_left _ hTurn
    _ ≤ c.workers := Nat.mul_div_le _ _

/-- A batch that is sent is dealt to the worker whose turn it is. -/
theorem batchesOf_send {p : Parcel} (hSend : d.send p = .ok next)
    (hChannel : p.channel < c.channelCount) (worker : Nat) :
    batchesOf c next.outlets worker =
      if worker = onTurn c d p.channel then batchesOf c d.outlets worker ++ [p.batch]
      else batchesOf c d.outlets worker := by
  rw [batchesOf_eq, batchesOf_eq, Dispatch.receivedOn_send hSend]
  by_cases hTurn : worker = onTurn c d p.channel
  · subst hTurn
    rw [channelOf_onTurn hChannel, onTurn_div hChannel, if_pos rfl, if_pos rfl,
      dealt_append_singleton, if_pos rfl]
  · rw [if_neg hTurn]
    split
    · rename_i hSame
      rw [hSame, dealt_append_singleton, if_neg]
      intro hIndex
      apply hTurn
      rw [onTurn, hIndex, ← hSame, channelOf, Nat.mod_add_div]
    · rfl

end Load

namespace Concurrent

variable {ι π : Type} [Indexer ι] [Processor π] {c : Config} {source : Source.Stream} {indexer : ι}
  {processor : Nat → π} {d : DispatchSummary} {begun : Nat} {s : State ι π}

/-- The batches that a worker is dealt of all that dispatch sends by itself. -/
def share (c : Config) (source : Source.Stream) (indexer : ι) : Nat → List LineBatch :=
  Load.batchesOf c (alone c source indexer).final.outlets

/-- Dispatch by itself comes to a summary, and every worker by itself to a report. -/
structure Succeeds (c : Config) (source : Source.Stream) (indexer : ι) (processor : Nat → π)
    (d : DispatchSummary) : Prop where
  start : Load.startFault? c = none
  dispatched : (alone c source indexer).result = .ok d
  worked : ∀ worker < c.workers, ∃ report,
    (Load.solo c processor (share c source indexer) worker).result = .ok report

/-- A load between two batches, some of its workers having begun: nothing waits, and each worker was
handed what it is dealt of the batches that were sent. -/
structure InStep (c : Config) (source : Source.Stream) (indexer : ι) (processor : Nat → π)
    (begun : Nat) (s : State ι π) : Prop where
  reach : Reachable c source indexer processor s
  idle : s.scan.due = none
  sound : ∀ e unread, s.scan.phase ≠ .returned (.error e) unread
  runner : s.runner = .selecting none []
  phase : ∀ worker, (s.task worker).phase = if worker < begun then .ready else .fresh
  joined : ∀ worker, (s.task worker).joined = false
  queue : ∀ channel, s.queue channel = []
  outlets : s.scan.dispatch.outlets.length = c.channelCount
  taken : ∀ worker, s.taken worker = Load.batchesOf c s.scan.dispatch.outlets worker

theorem inStep_initial : InStep c source indexer processor 0 (initial c source indexer processor) where
  reach := .initial
  idle := rfl
  sound := nofun
  runner := rfl
  phase worker := (if_neg (Nat.not_lt_zero worker)).symm
  joined _ := rfl
  queue _ := rfl
  outlets := List.length_replicate
  taken worker := by
    have hReach : Reachable c source indexer processor (initial c source indexer processor) :=
      .initial
    have hNone := (conserved hReach).sent (lane c worker)
    rw [Load.batchesOf_eq, ← lane, hNone]
    rfl

/-- A worker that comes to its report goes through the first of its batches. -/
theorem Succeeds.after (hSucceeds : Succeeds c source indexer processor d) {worker : Nat}
    (hWorker : worker < c.workers) {taken : List LineBatch}
    (hTaken : taken <+: share c source indexer worker) :
    ((fresh c processor worker).after (settings c) taken).1 = .ok () := by
  obtain ⟨more, hAll⟩ := hTaken
  obtain ⟨report, hReport⟩ := hSucceeds.worked worker hWorker
  rw [Load.solo, ← hAll] at hReport
  obtain ⟨next, hAfter, -, -⟩ := WorkerState.after_of_run hReport
  obtain ⟨w, hFirst⟩ := WorkerState.after_of_append hAfter
  exact congrArg Prod.fst hFirst

/-- Dispatch still comes to what it comes to by itself. -/
theorem InStep.rest (hInStep : InStep c source indexer processor begun s) :
    (s.scan.rest (limits c)).Alike (alone c source indexer) := by
  rcases (scanning hInStep.reach).rest with hAlike | ⟨channel, unread, hRefused⟩
  · exact hAlike
  · exact absurd hRefused (hInStep.sound _ _)

/-- What a worker is dealt so far are the first of its batches. -/
theorem dealt_of_rest {scan : Scan ι} (hIdle : scan.due = none)
    (hRest : (scan.rest (limits c)).Alike (alone c source indexer)) (worker : Nat) :
    Load.batchesOf c scan.dispatch.outlets worker <+: share c source indexer worker := by
  have hReceived := Scan.received_rest (limits c) hIdle (lane c worker)
  rw [Dispatch.receivedOn, Dispatch.receivedOn, hRest.final.outlets] at hReceived
  exact Load.dealt_prefix _ _ hReceived

omit [Indexer ι] [Processor π] in
theorem State.phase_called {worker : Nat} {call : Except Halt Unit × WorkerState π}
    (hOk : call.1 = .ok ()) (s : State ι π) (other : Nat) :
    ((s.called worker call fun _ => .ready).task other).phase =
      if other = worker then .ready else (s.task other).phase := by
  by_cases hSame : other = worker
  · subst hSame
    simp [State.called, State.moved, hOk, Task.Phase.afterCall]
  · simp [State.called, State.moved, hSame]

omit [Indexer ι] [Processor π] in
theorem State.joined_called {worker : Nat} (call : Except Halt Unit × WorkerState π)
    (s : State ι π) (other : Nat) :
    ((s.called worker call fun _ => .ready).task other).joined = (s.task other).joined := by
  by_cases hSame : other = worker
  · subst hSame
    simp [State.called, State.moved]
  · simp [State.called, State.moved, hSame]

/-- A batch has gone through its channel to a worker. -/
def State.pass (s : State ι π) (scan : Scan ι) (p : Parcel) (next : Dispatch ι) (worker : Nat) :
    State ι π :=
  (State.deliver { s with scan } p next).receive p.channel worker p.batch []

section

variable (scan : Scan ι) (p : Parcel) (next : Dispatch ι) (worker : Nat)

omit [Indexer ι] [Processor π] in
theorem State.phase_pass (s : State ι π) (other : Nat) :
    ((s.pass scan p next worker).task other).phase =
      if other = worker then .holding p.batch else (s.task other).phase := by
  by_cases hSame : other = worker
  · simp [pass, receive, rephased, hSame]
  · simp [pass, receive, rephased, deliver, hSame]

omit [Indexer ι] [Processor π] in
theorem State.joined_pass (s : State ι π) (other : Nat) :
    ((s.pass scan p next worker).task other).joined = (s.task other).joined := by
  by_cases hSame : other = worker
  · simp [pass, receive, rephased, deliver, hSame]
  · simp [pass, receive, rephased, deliver, hSame]

omit [Indexer ι] [Processor π] in
theorem State.queue_pass (hEmpty : ∀ channel, s.queue channel = []) (channel : Nat) :
    (s.pass scan p next worker).queue channel = [] := by
  by_cases hHere : channel = p.channel
  · simp [pass, receive, hHere]
  · simp [pass, receive, rephased, deliver, hHere, hEmpty]

end

/-- A batch that is sent can be taken at once by any worker of its channel that is ready. -/
theorem InStep.pass (hInStep : InStep c source indexer processor begun s) {scan : Scan ι}
    (hAdvance : s.scan.advance? (limits c) = some scan) {p : Parcel} {next : Dispatch ι}
    (hDue : scan.due = some p) (hSend : scan.dispatch.send p = .ok next) {worker : Nat}
    (hWorker : worker < c.workers) (hLane : lane c worker = p.channel)
    (hReady : (s.task worker).phase = .ready) :
    Reachable c source indexer processor (s.pass scan p next worker) := by
  have hLive : (s.task worker).Live := by
    rw [Task.Live, hReady]
    trivial
  have hRoom : (s.queue p.channel).length < capacity c := by
    rw [hInStep.queue, List.length_nil, capacity]
    omega
  have hSent := (hInStep.reach.step (.advance hAdvance)).step
    (.deliver hDue ⟨worker, hWorker, hLane, hLive⟩ hRoom hSend)
  have hWaiting : State.queue (State.deliver { s with scan } p next) (lane c worker) = [p.batch] := by
    simp [State.deliver, hLane, hInStep.queue]
  have hHanded := hSent.step (.receive hWorker hReady hWaiting)
  rwa [hLane] at hHanded

/-- The next worker begins. -/
theorem InStep.begin (hSucceeds : Succeeds c source indexer processor d)
    (hInStep : InStep c source indexer processor begun s) (hWorker : begun < c.workers) :
    ∃ t, InStep c source indexer processor (begun + 1) t := by
  have hPhase : (s.task begun).phase = .fresh := by
    rw [hInStep.phase, if_neg (Nat.lt_irrefl begun)]
  have hTaken := dealt_of_rest hInStep.idle hInStep.rest begun
  rw [← hInStep.taken] at hTaken
  have hCall := (replaying hInStep.reach begun).begin hPhase (s.alike_lent begun)
  have hOk := hCall.result.trans (hSucceeds.after hWorker hTaken)
  have hReach := hInStep.reach.step (.start hWorker hPhase (by rw [hOk]; nofun))
  refine ⟨_, hReach, hInStep.idle, hInStep.sound, hInStep.runner, fun worker => ?_, fun worker => ?_,
    hInStep.queue, hInStep.outlets, hInStep.taken⟩
  · rw [State.phase_called hOk, hInStep.phase]
    by_cases hSame : worker = begun
    · rw [if_pos hSame, if_pos (by omega)]
    · have hIff : worker < begun ↔ worker < begun + 1 := by omega
      rw [if_neg hSame]
      simp only [hIff]
  · rw [State.joined_called, hInStep.joined]

/-- The batch that is due is sent, and processed by the worker whose turn it is. -/
theorem InStep.turn (hSucceeds : Succeeds c source indexer processor d)
    (hInStep : InStep c source indexer processor c.workers s) {scan : Scan ι}
    (hAdvance : s.scan.advance? (limits c) = some scan) {p : Parcel} {next : Dispatch ι}
    (hDue : scan.due = some p) (hSend : scan.dispatch.send p = .ok next) :
    ∃ t, InStep c source indexer processor c.workers t ∧ t.scan.toGo = scan.toGo := by
  obtain ⟨-, hRunning, -⟩ := Scan.dispatch_advance hAdvance
  have hOutlets := Scan.outlets_advance hAdvance
  obtain ⟨hChannel, hLength⟩ := Dispatch.outlets_send hSend
  rw [hOutlets, hInStep.outlets] at hChannel hLength
  let worker := Load.onTurn c scan.dispatch p.channel
  have hWorker : worker < c.workers := Load.onTurn_lt hSucceeds.start hChannel
  have hReady : (s.task worker).phase = .ready := by rw [hInStep.phase, if_pos hWorker]
  have hPassed := hInStep.pass hAdvance hDue hSend hWorker (Load.channelOf_onTurn hChannel) hReady
  have hHolding := s.phase_pass scan p next worker worker
  rw [if_pos rfl] at hHolding
  -- what was handed over is what is dealt of one batch more
  have hTaken (other : Nat) : (s.pass scan p next worker).taken other =
      Load.batchesOf c next.outlets other := by
    rw [State.pass, State.taken_receive, Load.batchesOf_send hSend hChannel, hOutlets,
      ← hInStep.taken]
    rfl
  have hRest : (Scan.rest (limits c) { scan with due := none, dispatch := next }).Alike
      (alone c source indexer) := by
    rw [Scan.rest_deliver hDue hSend, Scan.rest_advance hAdvance]
    exact hInStep.rest
  have hCall := (replaying hPassed worker).step hHolding (State.alike_lent _ worker)
  have hOk := hCall.result.trans
    (hSucceeds.after hWorker (hTaken worker ▸ dealt_of_rest rfl hRest worker))
  have hReach := hPassed.step (.process hWorker hHolding (by rw [hOk]; nofun))
  refine ⟨_, ⟨hReach, rfl, ?_, hInStep.runner, fun other => ?_, fun other => ?_,
    State.queue_pass scan p next worker hInStep.queue, hLength, hTaken⟩, Scan.toGo_deliver hSend⟩
  · intro e unread
    rcases hRunning with hIdle | hRunning
    · rw [hIdle] at hDue
      cases hDue
    · exact hRunning _ _
  · rw [State.phase_called hOk, State.phase_pass, hInStep.phase]
    by_cases hSame : other = worker
    · rw [if_pos hSame, hSame, if_pos hWorker]
    · rw [if_neg hSame, if_neg hSame]
  · rw [State.joined_called, State.joined_pass, hInStep.joined]

/-- Dispatch goes on by a batch, unless it has returned. -/
theorem InStep.goesOn (hSucceeds : Succeeds c source indexer processor d)
    (hInStep : InStep c source indexer processor c.workers s) :
    (∃ unread, s.scan.phase = .returned (.ok d) unread) ∨
      ∃ t, InStep c source indexer processor c.workers t ∧ t.scan.toGo < s.scan.toGo := by
  rcases s.scan.goesOn (limits c) hInStep.idle with ⟨result, unread, hReturned⟩ |
    ⟨scan, hAdvance, hLess⟩
  · left
    have hResult := hInStep.rest.result
    rw [Scan.rest_of_returned hReturned hInStep.idle, hSucceeds.dispatched] at hResult
    exact ⟨unread, hResult ▸ hReturned⟩
  · right
    have hRest : (scan.rest (limits c)).Alike (alone c source indexer) := by
      rw [Scan.rest_advance hAdvance]
      exact hInStep.rest
    have hOk : (scan.rest (limits c)).result = .ok d := hRest.result.trans hSucceeds.dispatched
    cases hDue : scan.due with
    | none =>
        have hOutlets := Scan.outlets_advance hAdvance
        refine ⟨{ s with scan }, ⟨hInStep.reach.step (.advance hAdvance), hDue, ?_, hInStep.runner,
          hInStep.phase, hInStep.joined, hInStep.queue, ?_, ?_⟩, hLess⟩
        · intro e unread hReturned
          rw [Scan.rest_of_returned hReturned hDue] at hOk
          cases hOk
        · exact hOutlets ▸ hInStep.outlets
        · exact hOutlets ▸ hInStep.taken
    | some p =>
        cases hSend : scan.dispatch.send p with
        | error e =>
            simp only [Scan.rest, hDue, hSend] at hOk
            cases hOk
        | ok next =>
            obtain ⟨t, hNext, hToGo⟩ := hInStep.turn hSucceeds hAdvance hDue hSend
            exact ⟨t, hNext, hToGo ▸ hLess⟩

/-- All workers begin, and then dispatch comes to its summary. -/
theorem Succeeds.inStep (hSucceeds : Succeeds c source indexer processor d) :
    ∃ s unread, InStep c source indexer processor c.workers s ∧
      s.scan.phase = .returned (.ok d) unread := by
  have hBegun (count : Nat) (hCount : count ≤ c.workers) :
      ∃ s : State ι π, InStep c source indexer processor count s := by
    induction count with
    | zero => exact ⟨_, inStep_initial⟩
    | succ count ih =>
        obtain ⟨s, hInStep⟩ := ih (Nat.le_of_succ_le hCount)
        exact hInStep.begin hSucceeds hCount
  obtain ⟨s, hInStep⟩ := hBegun c.workers (Nat.le_refl _)
  induction hToGo : s.scan.toGo using Nat.strongRecOn generalizing s with
  | ind toGo ih =>
      rcases hInStep.goesOn hSucceeds with ⟨unread, hReturned⟩ | ⟨t, hNext, hLess⟩
      · exact ⟨s, unread, hInStep, hReturned⟩
      · exact ih _ (hToGo ▸ hLess) t hNext rfl

/-- A load after the last batch, when some of its workers have ended and the runner has joined them. -/
structure Closing (c : Config) (source : Source.Stream) (indexer : ι) (processor : Nat → π)
    (d : DispatchSummary) (gone : Nat) (s : State ι π) : Prop where
  reach : Reachable c source indexer processor s
  scanned : Scanned s d
  runner : ∃ reports, s.runner = .selecting (some d) reports
  queue : ∀ channel, s.queue channel = []
  ended : ∀ worker < gone,
    (∃ r, (s.task worker).phase = .ended (.ok r)) ∧ (s.task worker).joined = true
  ready : ∀ worker < c.workers, gone ≤ worker →
    (s.task worker).phase = .ready ∧ (s.task worker).joined = false
  taken : ∀ worker, s.taken worker = share c source indexer worker

theorem InStep.closing (hInStep : InStep c source indexer processor c.workers s)
    {unread : List Source.Item} (hReturned : s.scan.phase = .returned (.ok d) unread) :
    Closing c source indexer processor d 0 { s with runner := .selecting (some d) [] } := by
  obtain ⟨-, hOutlets⟩ := (scanning hInStep.reach).of_returned hReturned
  refine ⟨hInStep.reach.step (.scanned hInStep.runner hReturned), ⟨unread, hReturned⟩, ⟨[], rfl⟩,
    hInStep.queue, nofun, fun worker hWorker _ => ⟨?_, hInStep.joined worker⟩, fun worker => ?_⟩
  · exact (hInStep.phase worker).trans (if_pos hWorker)
  · rw [share, hOutlets]
    exact hInStep.taken worker

/-- A worker that has taken all its batches comes to its report. -/
theorem Succeeds.finish (hSucceeds : Succeeds c source indexer processor d) {gone worker : Nat}
    (hClosing : Closing c source indexer processor d gone s) (hWorker : worker < c.workers)
    (hReady : (s.task worker).phase = .ready) :
    ∃ r, ((s.lent worker).finish (settings c)).1 = .ok r := by
  obtain ⟨r, hReport⟩ := hSucceeds.worked worker hWorker
  have hTask := replaying hClosing.reach worker
  rw [hClosing.taken] at hTask
  exact ⟨r, hTask.finish hReady (s.alike_lent worker) hReport⟩

/-- The next worker ends, and the runner takes its report. -/
theorem Closing.next (hSucceeds : Succeeds c source indexer processor d) {gone : Nat}
    (hClosing : Closing c source indexer processor d gone s) (hWorker : gone < c.workers) :
    ∃ t, Closing c source indexer processor d (gone + 1) t := by
  obtain ⟨unread, hReturned⟩ := hClosing.scanned
  obtain ⟨reports, hRunner⟩ := hClosing.runner
  obtain ⟨hReady, hFirst⟩ := hClosing.ready gone hWorker (Nat.le_refl gone)
  obtain ⟨r, hOk⟩ := hSucceeds.finish hClosing hWorker hReady
  have hFinished := hClosing.reach.step
    (.finish hWorker hReady ⟨⟨_, _, hReturned⟩, hClosing.queue _⟩ (by rw [hOk]; nofun))
  have hPhase : ((s.called gone ((s.lent gone).finish (settings c)) fun r => .ended (.ok r)).task
      gone).phase = .ended (.ok r) := by
    simp [State.called, State.moved, hOk, Task.Phase.afterCall]
  have hOpen : ((s.called gone ((s.lent gone).finish (settings c)) fun r => .ended (.ok r)).task
      gone).joined = false := by
    simp [State.called, State.moved, hFirst]
  have hReach := hFinished.step (.joined hWorker hRunner hPhase hOpen)
  refine ⟨_, hReach, ⟨unread, hReturned⟩, ⟨reports ++ [r], rfl⟩, hClosing.queue, ?_, ?_,
    hClosing.taken⟩
  · intro worker hEnded
    by_cases hSame : worker = gone
    · subst hSame
      exact ⟨⟨r, by simp [State.join, hPhase]⟩, by simp [State.join]⟩
    · have hBefore : worker < gone := by omega
      simpa [State.join, State.called, State.moved, hSame] using hClosing.ended worker hBefore
  · intro worker hLt hLeft
    have hOther : worker ≠ gone := by omega
    simpa [State.join, State.called, State.moved, hOther] using
      hClosing.ready worker hLt (Nat.le_of_succ_le hLeft)

/-- In the order shown here the load comes to its end, each worker as it would by itself. -/
theorem Succeeds.closing (hSucceeds : Succeeds c source indexer processor d) :
    ∃ s, Closing c source indexer processor d c.workers s := by
  obtain ⟨s, unread, hInStep, hReturned⟩ := hSucceeds.inStep
  have hClosing (count : Nat) (hCount : count ≤ c.workers) :
      ∃ s : State ι π, Closing c source indexer processor d count s := by
    induction count with
    | zero => exact ⟨_, hInStep.closing hReturned⟩
    | succ count ih =>
        obtain ⟨s, hClosing⟩ := ih (Nat.le_of_succ_le hCount)
        exact hClosing.next hSucceeds hCount
  exact hClosing c.workers (Nat.le_refl _)

/-- A worker that has ended is where it would be by itself. -/
theorem Closing.alike (hClosing : Closing c source indexer processor d c.workers s) {worker : Nat}
    (hWorker : worker < c.workers) :
    (s.task worker).state.Alike (Load.solo c processor (share c source indexer) worker).final := by
  obtain ⟨⟨r, hEnded⟩, -⟩ := hClosing.ended worker hWorker
  have hTask := replaying hClosing.reach worker
  unfold Task.Replays at hTask
  rw [hEnded, hClosing.taken] at hTask
  exact hTask.2

theorem Closing.figure (hClosing : Closing c source indexer processor d c.workers s)
    (figure : WorkerReport → Nat) :
    s.figure c figure = Load.reported c processor (share c source indexer) c.workers figure :=
  sumOf_congr fun _ hWorker =>
    congrArg figure (hClosing.alike (List.mem_range.mp hWorker)).report

end Concurrent

namespace Load

variable {ι π : Type} [Indexer ι] [Processor π] {c : Config} {elapsed : Nat}
  {parts : LoadParts ι π} {source : Source.Stream}

/-- A load that is executed with success shows one of the orders that its steps may take. -/
theorem reachable_of_run {summary : LoadSummary} (hSource : parts.source = .ok source)
    (hRun : (run c elapsed parts).result = .ok summary) :
    ∃ s, Concurrent.Reachable c source parts.indexer parts.processor s ∧
      s.runner = .returned (.ok summary) ∧
      (run c elapsed parts).processors =
        (List.range c.workers).map fun worker => (s.task worker).state.processor := by
  obtain ⟨hStart, d, crew, hResult, hCrew, hProcessors, rfl⟩ := of_run_ok hSource hRun
  have hSucceeds : Concurrent.Succeeds c source parts.indexer parts.processor d :=
    ⟨hStart, hResult, hCrew.results⟩
  obtain ⟨s, hClosing⟩ := hSucceeds.closing
  obtain ⟨reports, hRunner⟩ := hClosing.runner
  have hAll : ∀ worker < c.workers, (s.task worker).joined = true :=
    fun worker hWorker => (hClosing.ended worker hWorker).2
  have hTruthful := Concurrent.truthful hClosing.reach
  rw [hRunner] at hTruthful
  have hComplete : Concurrent.Complete c s reports := ⟨hTruthful.2, hAll⟩
  have hReports : Concurrent.inOrder reports = crew.reports.reverse := by
    rw [hComplete.inOrder_eq (Concurrent.replaying hClosing.reach), hCrew.reports]
    exact List.map_congr_left fun worker hWorker =>
      (hClosing.alike (List.mem_range.mp hWorker)).report
  have hTotals : s.totals = crew.totals := by
    have hTallied := Concurrent.tallied hClosing.reach
    have hFigure := hClosing.figure
    rw [hCrew.totals]
    exact congr (congr (congrArg Totals.mk (hTallied.points.trans (congrArg _ (hFigure _))))
      (hTallied.rows.trans (congrArg _ (hFigure _))))
      (hTallied.batches.trans (congrArg _ (hFigure _)))
  refine ⟨_, hClosing.reach.step (.summarise hRunner hAll elapsed), ?_, ?_⟩
  · simp only [hReports, hTotals]
  · rw [hProcessors, hCrew.processors]
    exact List.map_congr_left fun worker hWorker =>
      (hClosing.alike (List.mem_range.mp hWorker)).processor.symm

/-- When dispatch and all workers come to their ends by themselves, so does the load. -/
theorem run_ok_of_succeeds {d : DispatchSummary} (hSource : parts.source = .ok source)
    (hSucceeds : Concurrent.Succeeds c source parts.indexer parts.processor d) (elapsed : Nat) :
    ∃ summary, (run c elapsed parts).result = .ok summary := by
  have hHalt := halt_foldl (c := c)
    (Concurrent.alone c source parts.indexer).final.dispatcher.pool hSucceeds.worked
  rw [run_eq hSucceeds.start hSource, hSucceeds.dispatched]
  simp only [runWorkers]
  rw [Concurrent.share] at hHalt
  rw [hHalt]
  exact ⟨_, rfl⟩

end Load
end BulkLoad
