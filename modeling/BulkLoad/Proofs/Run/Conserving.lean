import BulkLoad.Proofs.Run.Scanning
import BulkLoad.Proofs.Run.Working

/-!
Nothing is lost between dispatch and the workers.

What dispatch sent to a channel was handed to a worker of the channel or waits there, in the order in
which it was sent. The totals are what the workers' reports add up to.
-/
namespace BulkLoad

namespace WorkerState

variable {π : Type} [Processor π]

/-- A call adds the same to the totals and to the report of its worker. -/
structure Adds (v w : WorkerState π) (points rows batches : Nat) : Prop where
  reportPoints : w.report.counts.points = v.report.counts.points + points
  reportRows : w.report.counts.rows = v.report.counts.rows + rows
  reportBatches : w.report.batches = v.report.batches + batches
  totals : w.totals = ⟨v.totals.points + .ofNat points, v.totals.rows + .ofNat rows,
    v.totals.batches + .ofNat batches⟩

omit [Processor π] in
theorem Adds.nothing {v w : WorkerState π} (hCounts : w.report.counts = v.report.counts)
    (hBatches : w.report.batches = v.report.batches) (hTotals : w.totals = v.totals) :
    Adds v w 0 0 0 := by
  refine ⟨by rw [hCounts]; rfl, by rw [hCounts]; rfl, hBatches, ?_⟩
  rw [hTotals]
  simp

/-- A worker whose report has grown by as much as the totals. -/
def Grows (v w : WorkerState π) : Prop := ∃ points rows batches, Adds v w points rows batches

/-- What a call does to what its worker shares. -/
structure Shares (v w : WorkerState π) : Prop where
  adds : Grows v w
  clean : v.pool.Clean → w.pool.Clean

theorem shares_begin (settings : WorkerSettings) (s : WorkerState π) :
    s.Shares (s.begin settings).2 := by
  unfold begin
  dsimp only
  split <;> exact ⟨⟨0, 0, 0, .nothing rfl rfl rfl⟩, id⟩

theorem shares_step (settings : WorkerSettings) (s : WorkerState π) (b : LineBatch) :
    s.Shares (s.step settings b).2 := by
  unfold step
  dsimp only
  split
  · exact ⟨⟨0, 0, 0, .nothing rfl rfl rfl⟩, fun hClean => hClean.release b⟩
  · exact ⟨⟨0, 0, 0, .nothing rfl rfl rfl⟩, id⟩
  · exact ⟨⟨0, 0, 0, .nothing rfl rfl rfl⟩, id⟩
  · rename_i counts hCounts
    exact ⟨⟨counts.points, counts.rows, 1, rfl, rfl, rfl, rfl⟩, fun hClean => hClean.release b⟩

theorem shares_finish (settings : WorkerSettings) (s : WorkerState π) :
    s.Shares (s.finish settings).2 := by
  unfold finish
  dsimp only
  split <;> exact ⟨⟨0, 0, 0, .nothing rfl rfl rfl⟩, id⟩

end WorkerState

namespace Concurrent

variable {ι π : Type} [Indexer ι] [Processor π] {c : Config} {source : Source.Stream} {indexer : ι}
  {processor : Nat → π} {s t : State ι π}

/-- Dispatch by itself, over channels that take every batch at once. -/
def alone (c : Config) (source : Source.Stream) (indexer : ι) : DispatchOutcome ι :=
  (Dispatch.start indexer (.ofCapacity (Load.poolSize c))
    (List.replicate c.channelCount {})).run (limits c) source

/-- Dispatch comes to what it would come to by itself, unless it found a channel closed. -/
structure Scanning (c : Config) (source : Source.Stream) (indexer : ι) (s : State ι π) : Prop where
  clean : s.scan.pool.Clean
  idle : s.scan.due = none ∨ ∀ result unread, s.scan.phase ≠ .returned result unread
  rest : (s.scan.rest (limits c)).Alike (alone c source indexer) ∨
    ∃ channel unread, s.scan.phase = .returned (.error (.channelClosed channel)) unread

omit [Processor π] in
/-- A call of a worker leaves dispatch where it was. -/
theorem Scanning.moved (hScanning : Scanning c source indexer s) {worker : Nat} {w : WorkerState π}
    (hShares : (s.lent worker).Shares w) (phase : Task.Phase) :
    Scanning c source indexer (s.moved worker phase w) := by
  have hClean : w.pool.Clean := hShares.clean hScanning.clean
  refine ⟨hClean, hScanning.idle, ?_⟩
  rcases hScanning.rest with hAlike | hRefused
  · exact .inl ((Scan.alike_rest_withPool hScanning.clean hClean).trans hAlike)
  · exact .inr hRefused

omit [Processor π] in
/-- When dispatch has returned a summary, it did all that it would have done by itself. -/
theorem Scanning.of_returned (hScanning : Scanning c source indexer s) {d : DispatchSummary}
    {unread : List Source.Item} (hReturned : s.scan.phase = .returned (.ok d) unread) :
    (alone c source indexer).result = .ok d ∧
      (alone c source indexer).final.outlets = s.scan.dispatch.outlets := by
  rcases hScanning.rest with hAlike | ⟨channel, unread', hRefused⟩
  · have hIdle : s.scan.due = none := by
      rcases hScanning.idle with hIdle | hRunning
      · exact hIdle
      · exact absurd hReturned (hRunning _ _)
    rw [Scan.rest_of_returned hReturned hIdle] at hAlike
    exact ⟨hAlike.result.symm, hAlike.final.outlets.symm⟩
  · rw [hReturned] at hRefused
    cases hRefused

omit [Processor π] in
theorem Scanning.receivedOn_of_returned (hScanning : Scanning c source indexer s)
    {d : DispatchSummary} {unread : List Source.Item}
    (hReturned : s.scan.phase = .returned (.ok d) unread) :
    (alone c source indexer).final.receivedOn = s.scan.dispatch.receivedOn := by
  obtain ⟨-, hOutlets⟩ := hScanning.of_returned hReturned
  funext channel
  rw [Dispatch.receivedOn, hOutlets, Dispatch.receivedOn]

theorem Scanning.step (hScanning : Scanning c source indexer s) (hStep : Step c s t) :
    Scanning c source indexer t := by
  cases hStep with
  | advance hScan =>
      obtain ⟨hNone, hIdle, d, told, hDispatch, hClean⟩ := Scan.dispatch_advance hScan
      refine ⟨?_, hIdle, ?_⟩
      · rw [Scan.pool, hDispatch]
        exact hClean hScanning.clean
      · rcases hScanning.rest with hAlike | ⟨channel, unread, hRefused⟩
        · exact .inl (Scan.rest_advance hScan ▸ hAlike)
        · rw [Scan.advance_of_returned hRefused] at hScan
          cases hScan
  | deliver hDue hOpen hRoom hSend =>
      refine ⟨?_, .inl rfl, ?_⟩
      · rw [State.deliver, Scan.pool, Dispatch.dispatcher_send hSend]
        exact hScanning.clean
      · rcases hScanning.rest with hAlike | hRefused
        · exact .inl (Scan.rest_deliver hDue hSend ▸ hAlike)
        · exact .inr hRefused
  | refuse hDue hClosed => exact ⟨hScanning.clean, .inl rfl, .inr ⟨_, _, rfl⟩⟩
  | start hWorker hPhase hReturns => exact hScanning.moved (WorkerState.shares_begin _ _) _
  | process hWorker hPhase hReturns => exact hScanning.moved (WorkerState.shares_step _ _ _) _
  | finish hWorker hPhase hDrained hReturns =>
      exact hScanning.moved (WorkerState.shares_finish _ _) _
  | _ => exact ⟨hScanning.clean, hScanning.idle, hScanning.rest⟩

theorem scanning (hReach : Reachable c source indexer processor s) :
    Scanning c source indexer s := by
  induction hReach with
  | initial =>
      have hClean : (Pool.ofCapacity (Load.poolSize c)).Clean := .ofCapacity _
      refine ⟨hClean, .inl rfl, .inl ?_⟩
      exact Dispatch.Alike.run (.refl hClean) (limits c) source
  | step hBefore hStep ih => exact ih.step hStep

/-- The batches that the workers of a channel were handed, in order. -/
def State.handedOn {ι π : Type} (c : Config) (s : State ι π) (channel : Nat) : List LineBatch :=
  (s.handed.filter fun h => lane c h.1 = channel).map Prod.snd

omit [Indexer ι] [Processor π] in
theorem State.handedOn_receive (s : State ι π) (worker : Nat) (b : LineBatch)
    (rest : List LineBatch) (channel : Nat) :
    (s.receive (lane c worker) worker b rest).handedOn c channel =
      if channel = lane c worker then s.handedOn c channel ++ [b] else s.handedOn c channel := by
  by_cases hSame : channel = lane c worker
  · subst hSame
    simp [handedOn, receive, List.filter_append]
  · simp [handedOn, receive, List.filter_append, hSame, Ne.symm hSame]

/-- What was sent was handed over or waits, and only workers were handed anything. -/
structure Conserved (c : Config) (s : State ι π) : Prop where
  sent : ∀ channel,
    s.scan.dispatch.receivedOn channel = s.handedOn c channel ++ s.queue channel
  handed : ∀ h ∈ s.handed, h.1 < c.workers

omit [Indexer ι] [Processor π] in
theorem Conserved.deliver (hConserved : Conserved c s) {p : Parcel} {next : Dispatch ι}
    (hSend : s.scan.dispatch.send p = .ok next) : Conserved c (s.deliver p next) := by
  refine ⟨fun channel => ?_, hConserved.handed⟩
  have hSent := hConserved.sent channel
  have hGrown := Dispatch.receivedOn_send hSend channel
  by_cases hHere : channel = p.channel
  · subst hHere
    rw [if_pos rfl, hSent, List.append_assoc] at hGrown
    simpa [State.deliver, State.handedOn] using hGrown
  · rw [if_neg hHere, hSent] at hGrown
    simpa [State.deliver, State.handedOn, hHere] using hGrown

omit [Indexer ι] [Processor π] in
theorem Conserved.receive (hConserved : Conserved c s) {worker : Nat} {b : LineBatch}
    {rest : List LineBatch} (hWorker : worker < c.workers)
    (hQueue : s.queue (lane c worker) = b :: rest) :
    Conserved c (s.receive (lane c worker) worker b rest) := by
  constructor
  · intro channel
    have hSent := hConserved.sent channel
    rw [s.handedOn_receive]
    by_cases hHere : channel = lane c worker
    · subst hHere
      rw [hQueue] at hSent
      simpa [State.receive, State.rephased] using hSent
    · simpa [State.receive, State.rephased, hHere] using hSent
  · intro h hHanded
    rcases List.mem_append.mp hHanded with hBefore | hNew
    · exact hConserved.handed h hBefore
    · rw [List.mem_singleton.mp hNew]
      exact hWorker

theorem Conserved.step (hConserved : Conserved c s) (hStep : Step c s t) : Conserved c t := by
  cases hStep with
  | advance hScan =>
      obtain ⟨-, -, d, told, hDispatch, -⟩ := Scan.dispatch_advance hScan
      refine ⟨fun channel => ?_, hConserved.handed⟩
      have hSame : Dispatch.receivedOn ({ s.scan.dispatch with dispatcher := d }.tell told) channel =
          s.scan.dispatch.receivedOn channel := rfl
      rw [hDispatch, hSame]
      exact hConserved.sent channel
  | deliver hDue hOpen hRoom hSend => exact hConserved.deliver hSend
  | receive hWorker hPhase hQueue => exact hConserved.receive hWorker hQueue
  | _ => exact ⟨hConserved.sent, hConserved.handed⟩

theorem conserved (hReach : Reachable c source indexer processor s) : Conserved c s := by
  induction hReach with
  | initial =>
      refine ⟨fun channel => ?_, by simp [Concurrent.initial]⟩
      have hFresh : (Dispatch.start indexer (.ofCapacity (Load.poolSize c))
          (List.replicate c.channelCount {})).receivedOn channel = [] := by
        simp only [Dispatch.receivedOn, Dispatch.start, List.getElem?_replicate]
        split <;> rfl
      exact hFresh
  | step hBefore hStep ih => exact ih.step hStep

omit [Indexer ι] [Processor π] in
/-- One other item of a function changes the sum over the first items of it. -/
theorem sumOf_range_update {α : Type} (g : α → Nat) (f : Nat → α) (a : α) {n i : Nat}
    (hIndex : i < n) :
    sumOf (fun j => g (Function.update f i a j)) (List.range n) + g (f i) =
      sumOf (fun j => g (f j)) (List.range n) + g a := by
  have hSet : (List.range n).map (fun j => Function.update f i a j) =
      ((List.range n).map f).set i a := by
    apply List.ext_getElem
    · simp
    · intro j hLeft hRight
      by_cases hSame : i = j
      · subst hSame
        simp
      · simp [hSame, Function.update_of_ne (Ne.symm hSame)]
  have hGet : ((List.range n).map f)[i]? = some (f i) := by simp [hIndex]
  have hSum := sumOf_set_add g a hGet
  rw [← hSet, sumOf_map, sumOf_map] at hSum
  exact hSum

section Queues

variable {α : Type} {queue : Nat → List α} {n i : Nat}

/-- A queue that has got one more. -/
theorem sumOf_length_push (queue : Nat → List α) (hIndex : i < n) (a : α) :
    sumOf (fun j => (Function.update queue i (queue i ++ [a]) j).length) (List.range n) =
      sumOf (fun j => (queue j).length) (List.range n) + 1 := by
  have hSum := sumOf_range_update List.length queue (queue i ++ [a]) hIndex
  rw [List.length_append, List.length_singleton] at hSum
  omega

/-- A queue that has lost its first. -/
theorem sumOf_length_pop (hIndex : i < n) {a : α} {rest : List α} (hQueue : queue i = a :: rest) :
    sumOf (fun j => (Function.update queue i rest j).length) (List.range n) + 1 =
      sumOf (fun j => (queue j).length) (List.range n) := by
  have hSum := sumOf_range_update List.length queue rest hIndex
  rw [hQueue, List.length_cons] at hSum
  omega

theorem length_push_le {most : Nat} (hAll : ∀ j, (queue j).length ≤ most)
    (hRoom : (queue i).length < most) (a : α) (j : Nat) :
    (Function.update queue i (queue i ++ [a]) j).length ≤ most := by
  refine forall_update (P := fun _ (q : List α) => q.length ≤ most) hAll ?_ j
  rw [List.length_append]
  exact hRoom

theorem length_pop_le {most : Nat} (hAll : ∀ j, (queue j).length ≤ most) {a : α} {rest : List α}
    (hQueue : queue i = a :: rest) (j : Nat) : (Function.update queue i rest j).length ≤ most := by
  refine forall_update (P := fun _ (q : List α) => q.length ≤ most) hAll ?_ j
  have hBefore := hAll i
  rw [hQueue, List.length_cons] at hBefore
  exact Nat.le_of_succ_le hBefore

end Queues

/-- A figure of all reports. -/
def State.figure {ι π : Type} (c : Config) (s : State ι π) (figure : WorkerReport → Nat) : Nat :=
  sumOf (fun worker => figure (s.task worker).state.report) (List.range c.workers)

/-- The totals are what the reports add up to, in words. -/
structure Tallied (c : Config) (s : State ι π) : Prop where
  points : s.totals.points = .ofNat (s.figure c fun r => r.counts.points)
  rows : s.totals.rows = .ofNat (s.figure c fun r => r.counts.rows)
  batches : s.totals.batches = .ofNat (s.figure c WorkerReport.batches)

omit [Indexer ι] [Processor π] in
theorem State.figure_moved (s : State ι π) {worker : Nat} (hWorker : worker < c.workers)
    (phase : Task.Phase) (w : WorkerState π) (figure : WorkerReport → Nat) {more : Nat}
    (hMore : figure w.report = figure (s.task worker).state.report + more) :
    (s.moved worker phase w).figure c figure = s.figure c figure + more := by
  have hSum := sumOf_range_update (fun t : Task π => figure t.state.report) s.task
    { s.task worker with phase, state := w } hWorker
  simp only [hMore] at hSum
  simp only [State.figure, State.moved]
  omega

omit [Indexer ι] [Processor π] in
theorem State.figure_of_states {s t : State ι π}
    (hSame : ∀ worker, (t.task worker).state = (s.task worker).state)
    (figure : WorkerReport → Nat) : t.figure c figure = s.figure c figure := by
  unfold State.figure
  simp only [hSame]

omit [Indexer ι] [Processor π] in
theorem Tallied.of_states (hTallied : Tallied c s) (hTotals : t.totals = s.totals)
    (hSame : ∀ worker, (t.task worker).state = (s.task worker).state) : Tallied c t := by
  refine ⟨?_, ?_, ?_⟩ <;> rw [State.figure_of_states hSame, hTotals]
  · exact hTallied.points
  · exact hTallied.rows
  · exact hTallied.batches

omit [Indexer ι] [Processor π] in
theorem Tallied.moved (hTallied : Tallied c s) {worker : Nat} (hWorker : worker < c.workers)
    {w : WorkerState π} (hShares : (s.lent worker).Shares w) (phase : Task.Phase) :
    Tallied c (s.moved worker phase w) := by
  obtain ⟨⟨points, rows, batches, hPoints, hRows, hBatches, hTotals⟩, -⟩ := hShares
  have hMoved : (s.moved worker phase w).totals = w.totals := rfl
  have hLent : (s.lent worker).totals = s.totals := rfl
  rw [hLent] at hTotals
  refine ⟨?_, ?_, ?_⟩ <;> rw [hMoved, hTotals]
  · rw [s.figure_moved hWorker phase w _ hPoints, UInt64.ofNat_add, hTallied.points]
  · rw [s.figure_moved hWorker phase w _ hRows, UInt64.ofNat_add, hTallied.rows]
  · rw [s.figure_moved hWorker phase w _ hBatches, UInt64.ofNat_add, hTallied.batches]

theorem Tallied.step (hTallied : Tallied c s) (hStep : Step c s t) : Tallied c t := by
  have hState (worker : Nat) {task : Task π} (hTask : task.state = (s.task worker).state)
      (other : Nat) : (Function.update s.task worker task other).state = (s.task other).state :=
    forall_update (P := fun i (t : Task π) => t.state = (s.task i).state) (fun _ => rfl) hTask other
  cases hStep with
  | start hWorker hPhase hReturns =>
      exact hTallied.moved hWorker (WorkerState.shares_begin _ _) _
  | process hWorker hPhase hReturns =>
      exact hTallied.moved hWorker (WorkerState.shares_step _ _ _) _
  | finish hWorker hPhase hDrained hReturns =>
      exact hTallied.moved hWorker (WorkerState.shares_finish _ _) _
  | receive hWorker hPhase hQueue => exact hTallied.of_states rfl (hState _ rfl)
  | joined hWorker hRunner hPhase hFirst => exact hTallied.of_states rfl (hState _ rfl)
  | joinFailed hWorker hRunner hPhase hFirst => exact hTallied.of_states rfl (hState _ rfl)
  | abort hWorker hRunner hLive => exact hTallied.of_states rfl (hState _ rfl)
  | _ => exact hTallied.of_states rfl fun _ => rfl

theorem tallied (hReach : Reachable c source indexer processor s) : Tallied c s := by
  induction hReach with
  | initial =>
      have hNone (figure : WorkerReport → Nat) (hFresh : ∀ worker, figure { worker } = 0) :
          (Concurrent.initial c source indexer processor).figure c figure = 0 := by
        have hZero : (Concurrent.initial c source indexer processor).figure c figure =
            sumOf (fun _ => 0) (List.range c.workers) := congrArg (sumOf · _) (funext hFresh)
        rw [hZero, sumOf_zero]
      refine ⟨?_, ?_, ?_⟩ <;> rw [hNone _ fun _ => rfl] <;> rfl
  | step hBefore hStep ih => exact ih.step hStep

end Concurrent
end BulkLoad
