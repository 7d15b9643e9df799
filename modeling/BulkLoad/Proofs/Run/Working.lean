import BulkLoad.Proofs.Run.Concurrent

/-!
A worker among others does what a worker does alone.

A worker shares its pool and the totals with the others, but nothing that it does depends on them. So
it comes to the same with the batches that it was handed as a worker that gets them one after another.
-/
namespace BulkLoad

/-- The figures of a report are those of the batches. -/
structure WorkerReport.Covers (r : WorkerReport) (taken : List LineBatch) : Prop where
  batches : r.batches = taken.length
  points : r.counts.points = sumOf LineBatch.points taken
  rows : r.counts.rows = sumOf LineBatch.rows taken

namespace WorkerState

variable {π : Type} {settings : WorkerSettings} {v w : WorkerState π}

/-- Two workers that differ in what they share at most. -/
structure Alike (v w : WorkerState π) : Prop where
  processor : v.processor = w.processor
  report : v.report = w.report
  idled : v.idled = w.idled
  told : v.toldNewestFirst = w.toldNewestFirst

/-- Calls of two such workers that come to the same. -/
structure AlikeCalls {α : Type} (call call' : Except Halt α × WorkerState π) : Prop where
  result : call.1 = call'.1
  next : call.2.Alike call'.2

theorem Alike.refl (w : WorkerState π) : w.Alike w := ⟨rfl, rfl, rfl, rfl⟩

theorem Alike.symm (hAlike : v.Alike w) : w.Alike v :=
  ⟨hAlike.processor.symm, hAlike.report.symm, hAlike.idled.symm, hAlike.told.symm⟩

theorem Alike.trans {u : WorkerState π} (hLeft : u.Alike v) (hRight : v.Alike w) : u.Alike w :=
  ⟨hLeft.processor.trans hRight.processor, hLeft.report.trans hRight.report,
    hLeft.idled.trans hRight.idled, hLeft.told.trans hRight.told⟩

variable [Processor π]

theorem Alike.begin (hAlike : v.Alike w) (settings : WorkerSettings) :
    AlikeCalls (v.begin settings) (w.begin settings) := by
  rcases v with ⟨p, pool, totals, report, idled, told⟩
  rcases w with ⟨p', pool', totals', report', idled', told'⟩
  obtain ⟨rfl, rfl, rfl, rfl⟩ := hAlike
  simp only [WorkerState.begin]
  split <;> exact ⟨rfl, rfl, rfl, rfl, rfl⟩

theorem Alike.step (hAlike : v.Alike w) (settings : WorkerSettings) (b : LineBatch) :
    AlikeCalls (v.step settings b) (w.step settings b) := by
  rcases v with ⟨p, pool, totals, report, idled, told⟩
  rcases w with ⟨p', pool', totals', report', idled', told'⟩
  obtain ⟨rfl, rfl, rfl, rfl⟩ := hAlike
  simp only [WorkerState.step]
  split <;> exact ⟨rfl, rfl, rfl, rfl, rfl⟩

theorem Alike.finish (hAlike : v.Alike w) (settings : WorkerSettings) :
    AlikeCalls (v.finish settings) (w.finish settings) := by
  rcases v with ⟨p, pool, totals, report, idled, told⟩
  rcases w with ⟨p', pool', totals', report', idled', told'⟩
  obtain ⟨rfl, rfl, rfl, rfl⟩ := hAlike
  simp only [WorkerState.finish]
  split <;> exact ⟨rfl, rfl, rfl, rfl, rfl⟩

/-- A worker that has begun and gone through some batches. -/
def after (settings : WorkerSettings) (s : WorkerState π) (batches : List LineBatch) :
    Except Halt Unit × WorkerState π :=
  match s.begin settings with
  | (.error halt, s) => (.error halt, s)
  | (.ok (), s) => let (result, s, _) := s.loop settings batches; (result, s)

theorem loop_append_singleton (s : WorkerState π) (batches : List LineBatch) (b : LineBatch)
    {next : WorkerState π} {untaken : List LineBatch}
    (hLoop : s.loop settings batches = (.ok (), next, untaken)) :
    s.loop settings (batches ++ [b]) = let (result, w) := next.step settings b; (result, w, []) := by
  induction batches generalizing s with
  | nil =>
      cases hLoop
      simp only [List.nil_append, loop]
      rcases hStep : next.step settings b with ⟨result, w⟩
      cases result with
      | error halt => rfl
      | ok u => rfl
  | cons first batches ih =>
      simp only [List.cons_append, loop] at hLoop ⊢
      rcases hStep : s.step settings first with ⟨result, w⟩
      rw [hStep] at hLoop
      cases result with
      | error halt => cases hLoop
      | ok u => exact ih w hLoop

/-- One more batch is one more step. -/
theorem after_append_singleton {s next : WorkerState π} {batches : List LineBatch}
    (hAfter : s.after settings batches = (.ok (), next)) (b : LineBatch) :
    s.after settings (batches ++ [b]) = next.step settings b := by
  unfold after at hAfter ⊢
  rcases hBegin : s.begin settings with ⟨result, begun⟩
  rw [hBegin] at hAfter
  cases result with
  | error halt => cases hAfter
  | ok u =>
      rcases hLoop : begun.loop settings batches with ⟨result, w, untaken⟩
      simp only [hLoop] at hAfter
      cases hAfter
      simp only [loop_append_singleton begun batches b hLoop]

/-- A worker that failed on the way came to the same as one that was given no more than that. -/
theorem run_of_after_error {s next : WorkerState π} {batches : List LineBatch} {halt : Halt}
    (hAfter : s.after settings batches = (.error halt, next)) :
    (s.run settings batches).result = .error (halt.ofWorker s.report.worker) ∧
      (s.run settings batches).final = next := by
  unfold after at hAfter
  rw [run_eq]
  rcases hBegin : s.begin settings with ⟨result, begun⟩
  rw [hBegin] at hAfter
  cases result with
  | error halt => cases hAfter; exact ⟨rfl, rfl⟩
  | ok u =>
      rcases hLoop : begun.loop settings batches with ⟨result, w, untaken⟩
      simp only [hLoop] at hAfter
      cases hAfter
      simp only [hLoop]
      exact ⟨trivial, trivial⟩

/-- A worker that went through its batches has only to finish. -/
theorem run_of_after_ok {s next : WorkerState π} {batches : List LineBatch}
    (hAfter : s.after settings batches = (.ok (), next)) :
    (s.run settings batches).result =
        (match (next.finish settings).1 with
          | .error halt => .error (halt.ofWorker s.report.worker)
          | .ok report => .ok report) ∧
      (s.run settings batches).final = (next.finish settings).2 := by
  unfold after at hAfter
  rw [run_eq]
  rcases hBegin : s.begin settings with ⟨result, begun⟩
  rw [hBegin] at hAfter
  cases result with
  | error halt => cases hAfter
  | ok u =>
      rcases hLoop : begun.loop settings batches with ⟨result, w, untaken⟩
      simp only [hLoop] at hAfter
      cases hAfter
      rcases hFinish : next.finish settings with ⟨result, w⟩
      simp only [hLoop, hFinish]
      cases result with
      | error halt => exact ⟨rfl, rfl⟩
      | ok report => exact ⟨rfl, rfl⟩

theorem Alike.loop (hAlike : v.Alike w) (settings : WorkerSettings) (batches : List LineBatch) :
    (v.loop settings batches).1 = (w.loop settings batches).1 ∧
      (v.loop settings batches).2.1.Alike (w.loop settings batches).2.1 := by
  induction batches generalizing v w with
  | nil => exact ⟨rfl, hAlike⟩
  | cons b batches ih =>
      obtain ⟨hResult, hNext⟩ := hAlike.step settings b
      simp only [WorkerState.loop]
      rcases hStep : v.step settings b with ⟨result, v'⟩
      rcases hStep' : w.step settings b with ⟨result', w'⟩
      rw [hStep, hStep'] at hResult hNext
      obtain rfl : result = result' := hResult
      cases result with
      | error halt => exact ⟨rfl, hNext⟩
      | ok u => exact ih hNext

theorem Alike.after (hAlike : v.Alike w) (settings : WorkerSettings) (batches : List LineBatch) :
    AlikeCalls (v.after settings batches) (w.after settings batches) := by
  obtain ⟨hResult, hNext⟩ := hAlike.begin settings
  unfold WorkerState.after
  rcases hBegin : v.begin settings with ⟨result, v'⟩
  rcases hBegin' : w.begin settings with ⟨result', w'⟩
  rw [hBegin, hBegin'] at hResult hNext
  obtain rfl : result = result' := hResult
  cases result with
  | error halt => exact ⟨rfl, hNext⟩
  | ok u =>
      obtain ⟨hLoop, hLast⟩ := hNext.loop settings batches
      exact ⟨hLoop, hLast⟩

/-- What a worker does from its start to its end does not depend on what it shares. -/
theorem Alike.run (hAlike : v.Alike w) (settings : WorkerSettings) (batches : List LineBatch) :
    (v.run settings batches).result = (w.run settings batches).result ∧
      (v.run settings batches).final.Alike (w.run settings batches).final := by
  obtain ⟨hResult, hNext⟩ := hAlike.after settings batches
  rcases hAfter : v.after settings batches with ⟨result, v'⟩
  rcases hAfter' : w.after settings batches with ⟨result', w'⟩
  rw [hAfter, hAfter'] at hResult hNext
  obtain rfl : result = result' := hResult
  cases result with
  | error halt =>
      obtain ⟨hRun, hFinal⟩ := run_of_after_error hAfter
      obtain ⟨hRun', hFinal'⟩ := run_of_after_error hAfter'
      rw [hRun, hRun', hFinal, hFinal', hAlike.report]
      exact ⟨rfl, hNext⟩
  | ok u =>
      obtain ⟨hRun, hFinal⟩ := run_of_after_ok hAfter
      obtain ⟨hRun', hFinal'⟩ := run_of_after_ok hAfter'
      obtain ⟨hFinish, hLast⟩ := hNext.finish settings
      rw [hRun, hRun', hFinal, hFinal', hFinish, hAlike.report]
      exact ⟨rfl, hLast⟩

/-- A worker that goes through some batches goes through the first of them. -/
theorem after_of_append {s next : WorkerState π} {batches more : List LineBatch}
    (hAfter : s.after settings (batches ++ more) = (.ok (), next)) :
    ∃ w, s.after settings batches = (.ok (), w) := by
  unfold after at hAfter ⊢
  rcases hBegin : s.begin settings with ⟨result, begun⟩
  rw [hBegin] at hAfter
  cases result with
  | error halt => cases hAfter
  | ok u =>
      simp only at hAfter ⊢
      clear hBegin
      induction batches generalizing begun with
      | nil => exact ⟨begun, rfl⟩
      | cons b batches ih =>
          simp only [List.cons_append, loop] at hAfter ⊢
          rcases hStep : begun.step settings b with ⟨result, w⟩
          rw [hStep] at hAfter
          cases result with
          | error halt => cases hAfter
          | ok u => exact ih w hAfter

theorem report_begin (settings : WorkerSettings) (s : WorkerState π) :
    (s.begin settings).2.report = s.report := by
  unfold begin
  dsimp only
  split <;> rfl

theorem worker_step (settings : WorkerSettings) (s : WorkerState π) (b : LineBatch) :
    (s.step settings b).2.report.worker = s.report.worker := by
  unfold step
  dsimp only
  split <;> rfl

theorem worker_loop (settings : WorkerSettings) (s : WorkerState π) (batches : List LineBatch) :
    (s.loop settings batches).2.1.report.worker = s.report.worker := by
  induction batches generalizing s with
  | nil => rfl
  | cons b batches ih =>
      have hFirst := worker_step settings s b
      simp only [loop]
      rcases hStep : s.step settings b with ⟨result, w⟩
      rw [hStep] at hFirst
      cases result with
      | error halt => exact hFirst
      | ok u => exact (ih w).trans hFirst

theorem worker_after (settings : WorkerSettings) (s : WorkerState π) (batches : List LineBatch) :
    (s.after settings batches).2.report.worker = s.report.worker := by
  have hFirst := congrArg WorkerReport.worker (report_begin settings s)
  unfold after
  rcases hBegin : s.begin settings with ⟨result, begun⟩
  rw [hBegin] at hFirst
  cases result with
  | error halt => exact hFirst
  | ok u => exact (worker_loop settings begun batches).trans hFirst

theorem report_finish {settings : WorkerSettings} {s : WorkerState π} {report : WorkerReport}
    (hFinish : (s.finish settings).1 = .ok report) :
    (s.finish settings).2.report = report ∧ report.worker = s.report.worker := by
  unfold finish at hFinish ⊢
  dsimp only at hFinish ⊢
  split at hFinish
  · cases hFinish
  · cases hFinish
    exact ⟨rfl, rfl⟩

/-- A worker that gives a report went through all its batches before it finished. -/
theorem after_of_run {settings : WorkerSettings} {s : WorkerState π} {batches : List LineBatch}
    {report : WorkerReport} (hRun : (s.run settings batches).result = .ok report) :
    ∃ next, s.after settings batches = (.ok (), next) ∧ (next.finish settings).1 = .ok report ∧
      (s.run settings batches).final = (next.finish settings).2 := by
  rcases hAfter : s.after settings batches with ⟨result, next⟩
  cases result with
  | error halt =>
      rw [(run_of_after_error hAfter).1] at hRun
      cases hRun
  | ok u =>
      obtain ⟨hResult, hFinal⟩ := run_of_after_ok hAfter
      rw [hRun] at hResult
      refine ⟨next, rfl, ?_, hFinal⟩
      split at hResult
      · cases hResult
      · rename_i r hFinish
        cases hResult
        exact hFinish

/-- A worker gives the report that it kept, under its own ordinal. -/
theorem report_run {settings : WorkerSettings} {s : WorkerState π} {batches : List LineBatch}
    {report : WorkerReport} (hRun : (s.run settings batches).result = .ok report) :
    (s.run settings batches).final.report = report ∧ report.worker = s.report.worker := by
  obtain ⟨next, hAfter, hFinish, hFinal⟩ := after_of_run hRun
  obtain ⟨hReport, hWorker⟩ := report_finish hFinish
  have hNext := worker_after settings s batches
  rw [hAfter] at hNext
  exact ⟨by rw [hFinal, hReport], hWorker.trans hNext⟩

/-- A processor counts for a batch what the batch counts. -/
def CountsBatches (π : Type) [Processor π] : Prop :=
  ∀ (p : π) (b : LineBatch) (doLoad : Bool) (counts : BatchCounts),
    (Processor.process p b doLoad).result = .ok counts → counts = b.counts

theorem covers_step (hCounts : CountsBatches π) {s w : WorkerState π} {before : List LineBatch}
    (hCovers : s.report.Covers before) {b : LineBatch} (hStep : s.step settings b = (.ok (), w)) :
    w.report.Covers (before ++ [b]) := by
  unfold step at hStep
  dsimp only at hStep
  split at hStep
  · cases hStep
  · cases hStep
  · cases hStep
  · rename_i counts hCall
    obtain rfl := hCounts _ _ _ _ hCall
    cases hStep
    refine ⟨?_, ?_, ?_⟩
    · simp [record, tell, hCovers.batches]
    · simp [record, tell, hCovers.points, LineBatch.counts]
    · simp [record, tell, hCovers.rows, LineBatch.counts]

theorem covers_loop (hCounts : CountsBatches π) {s next : WorkerState π}
    {before batches untaken : List LineBatch} (hCovers : s.report.Covers before)
    (hLoop : s.loop settings batches = (.ok (), next, untaken)) :
    next.report.Covers (before ++ batches) := by
  induction batches generalizing s before with
  | nil =>
      cases hLoop
      rwa [List.append_nil]
  | cons b batches ih =>
      simp only [loop] at hLoop
      rcases hStep : s.step settings b with ⟨result, w⟩
      rw [hStep] at hLoop
      cases result with
      | error halt => cases hLoop
      | ok u =>
          rw [List.append_cons]
          exact ih (covers_step hCounts hCovers hStep) hLoop

/-- The report of a worker covers the batches that it was given. -/
theorem covers_run (hCounts : CountsBatches π) {s : WorkerState π} {batches : List LineBatch}
    {report : WorkerReport} (hFresh : s.report.Covers [])
    (hRun : (s.run settings batches).result = .ok report) : report.Covers batches := by
  obtain ⟨next, hAfter, hFinish, -⟩ := after_of_run hRun
  have hNext : next.report.Covers batches := by
    unfold after at hAfter
    have hBegun := report_begin settings s
    rcases hBegin : s.begin settings with ⟨result, begun⟩
    rw [hBegin] at hAfter hBegun
    cases result with
    | error halt => cases hAfter
    | ok u =>
        rcases hLoop : begun.loop settings batches with ⟨result, w, untaken⟩
        simp only [hLoop] at hAfter
        cases hAfter
        have hCovers := covers_loop hCounts (hBegun ▸ hFresh) hLoop
        rwa [List.nil_append] at hCovers
  unfold finish at hFinish
  dsimp only at hFinish
  split at hFinish
  · cases hFinish
  · cases hFinish
    exact ⟨hNext.batches, hNext.points, hNext.rows⟩

end WorkerState

namespace Concurrent

variable {ι π : Type}

/-- The batches that were handed to a worker, in order. -/
def State.taken (s : State ι π) (worker : Nat) : List LineBatch :=
  (s.handed.filter fun h => h.1 = worker).map Prod.snd

/-- A worker is where one by itself would be with the batches that it was handed. -/
def Task.Replays [Processor π] (settings : WorkerSettings) (first : WorkerState π)
    (taken : List LineBatch) (t : Task π) : Prop :=
  match t.phase with
  | .fresh => taken = [] ∧ t.state.Alike first
  | .ready => WorkerState.AlikeCalls (.ok (), t.state) (first.after settings taken)
  | .holding b =>
    ∃ before, taken = before ++ [b] ∧
      WorkerState.AlikeCalls (.ok (), t.state) (first.after settings before)
  | .ended result =>
    (first.run settings taken).result = result ∧ t.state.Alike (first.run settings taken).final
  | .aborted => True

section

variable [Processor π] {settings : WorkerSettings} {first w : WorkerState π}
  {taken : List LineBatch} {t : Task π} {worker : Nat}

theorem Task.Replays.begin (hTask : t.Replays settings first taken) (hPhase : t.phase = .fresh)
    (hLent : w.Alike t.state) :
    WorkerState.AlikeCalls (w.begin settings) (first.after settings taken) := by
  unfold Task.Replays at hTask
  rw [hPhase] at hTask
  obtain ⟨rfl, hAlike⟩ := hTask
  have hBegin := (hLent.trans hAlike).begin settings
  have hAfter : first.after settings [] = first.begin settings := by
    unfold WorkerState.after
    rcases first.begin settings with ⟨result, begun⟩
    cases result <;> rfl
  rwa [hAfter]

theorem Task.Replays.step (hTask : t.Replays settings first taken) {b : LineBatch}
    (hPhase : t.phase = .holding b) (hLent : w.Alike t.state) :
    WorkerState.AlikeCalls (w.step settings b) (first.after settings taken) := by
  unfold Task.Replays at hTask
  rw [hPhase] at hTask
  obtain ⟨before, rfl, hResult, hNext⟩ := hTask
  have hAfter : first.after settings before = (.ok (), (first.after settings before).2) :=
    Prod.ext hResult.symm rfl
  rw [WorkerState.after_append_singleton hAfter]
  exact (hLent.trans hNext).step settings b

/-- A call that leaves a worker ready for the next batch, or ends it. -/
theorem Task.replays_called {call : Except Halt Unit × WorkerState π}
    (hCall : WorkerState.AlikeCalls call (first.after settings taken))
    (hWorker : first.report.worker = worker) (t : Task π) :
    Task.Replays settings first taken
      { t with phase := .afterCall worker (fun _ => .ready) call.1, state := call.2 } := by
  rcases call with ⟨result, w⟩
  obtain ⟨hResult, hNext⟩ := hCall
  cases result with
  | ok u => exact ⟨hResult, hNext⟩
  | error halt =>
      have hAfter : first.after settings taken = (.error halt, (first.after settings taken).2) :=
        Prod.ext hResult.symm rfl
      obtain ⟨hRun, hFinal⟩ := WorkerState.run_of_after_error hAfter
      exact ⟨hWorker ▸ hRun, hFinal ▸ hNext⟩

theorem Task.replays_finished (hTask : t.Replays settings first taken) (hPhase : t.phase = .ready)
    (hLent : w.Alike t.state) (hWorker : first.report.worker = worker) :
    Task.Replays settings first taken
      { t with
        phase := .afterCall worker (fun r => .ended (.ok r)) (w.finish settings).1
        state := (w.finish settings).2 } := by
  unfold Task.Replays at hTask
  rw [hPhase] at hTask
  have hAfter : first.after settings taken = (.ok (), (first.after settings taken).2) :=
    Prod.ext hTask.result.symm rfl
  obtain ⟨hRun, hFinal⟩ := WorkerState.run_of_after_ok hAfter
  obtain ⟨hResult, hNext⟩ := (hLent.trans hTask.next).finish settings
  rw [← hResult] at hRun
  rw [← hFinal] at hNext
  cases hFinish : (w.finish settings).1 with
  | error halt =>
      rw [hFinish] at hRun
      exact ⟨hWorker ▸ hRun, hNext⟩
  | ok report =>
      rw [hFinish] at hRun
      exact ⟨hRun, hNext⟩

/-- A worker whose batches are all there gives the report that one by itself gives. -/
theorem Task.Replays.finish (hTask : t.Replays settings first taken) (hPhase : t.phase = .ready)
    (hLent : w.Alike t.state) {r : WorkerReport} (hRun : (first.run settings taken).result = .ok r) :
    (w.finish settings).1 = .ok r := by
  unfold Task.Replays at hTask
  rw [hPhase] at hTask
  obtain ⟨next, hAfter, hFinish, -⟩ := WorkerState.after_of_run hRun
  have hNext := hTask.next
  rw [hAfter] at hNext
  exact ((hLent.trans hNext).finish settings).result.trans hFinish

end

theorem State.alike_lent (s : State ι π) (worker : Nat) :
    (s.lent worker).Alike (s.task worker).state := ⟨rfl, rfl, rfl, rfl⟩

theorem State.taken_receive (s : State ι π) (channel : Nat) {worker : Nat} (b : LineBatch)
    (rest : List LineBatch) (other : Nat) : (s.receive channel worker b rest).taken other =
      if other = worker then s.taken other ++ [b] else s.taken other := by
  by_cases hSame : other = worker
  · subst hSame
    simp [taken, receive, List.filter_append]
  · simp [taken, receive, List.filter_append, hSame, Ne.symm hSame]

/-- What holds of all workers holds still when it holds of the one that changed. -/
theorem forall_update {α : Type} {P : Nat → α → Prop} {f : Nat → α} (hAll : ∀ i, P i (f i))
    {i : Nat} {a : α} (hHere : P i a) (j : Nat) : P j (Function.update f i a j) := by
  by_cases hSame : j = i
  · subst hSame
    rwa [Function.update_self]
  · rw [Function.update_of_ne hSame]
    exact hAll j

/-- No worker moves when the runner hears of one. -/
theorem State.phase_join (s : State ι π) (changed : Nat) (runner : Runner) (worker : Nat) :
    ((s.join changed runner).task worker).phase = (s.task worker).phase :=
  forall_update (P := fun i (t : Task π) => t.phase = (s.task i).phase)
    (a := { s.task changed with joined := true }) (fun _ => rfl) rfl worker

section

variable [Indexer ι] [Processor π] {c : Config} {source : Source.Stream} {indexer : ι}
  {processor : Nat → π} {s t : State ι π}

/-- Every worker is where it would be by itself. -/
def Replaying (c : Config) (processor : Nat → π) (s : State ι π) : Prop :=
  ∀ worker, (s.task worker).Replays (settings c) (fresh c processor worker) (s.taken worker)

omit [Indexer ι] in
theorem Replaying.receive (hTasks : Replaying c processor s) {worker channel : Nat} {b : LineBatch}
    {rest : List LineBatch} (hPhase : (s.task worker).phase = .ready) :
    Replaying c processor (s.receive channel worker b rest) := by
  intro other
  rw [s.taken_receive]
  by_cases hSame : other = worker
  · subst hSame
    have hReady := hTasks other
    unfold Task.Replays at hReady
    rw [hPhase] at hReady
    rw [if_pos rfl]
    simp only [State.receive, State.rephased, Function.update_self]
    exact ⟨s.taken other, rfl, hReady⟩
  · rw [if_neg hSame]
    simp only [State.receive, State.rephased, Function.update_of_ne hSame]
    exact hTasks other

omit [Indexer ι] in
theorem Replaying.join (hTasks : Replaying c processor s) (worker : Nat) (runner : Runner) :
    Replaying c processor (s.join worker runner) := by
  have hHere : Task.Replays (settings c) (fresh c processor worker) (s.taken worker)
      { s.task worker with joined := true } := hTasks worker
  exact fun other => forall_update hTasks hHere other

omit [Indexer ι] in
theorem Replaying.abort (hTasks : Replaying c processor s) (worker : Nat) :
    Replaying c processor (s.rephased worker .aborted) := by
  have hHere : Task.Replays (settings c) (fresh c processor worker) (s.taken worker)
      { s.task worker with phase := .aborted } := trivial
  exact fun other => forall_update hTasks hHere other

theorem Replaying.step (hTasks : Replaying c processor s) (hStep : Step c s t) :
    Replaying c processor t := by
  cases hStep with
  | start hWorker hPhase hReturns =>
      exact fun other => forall_update hTasks
        (Task.replays_called ((hTasks _).begin hPhase (s.alike_lent _)) rfl _) other
  | process hWorker hPhase hReturns =>
      exact fun other => forall_update hTasks
        (Task.replays_called ((hTasks _).step hPhase (s.alike_lent _)) rfl _) other
  | finish hWorker hPhase hDrained hReturns =>
      exact fun other => forall_update hTasks
        (Task.replays_finished (hTasks _) hPhase (s.alike_lent _) rfl) other
  | receive hWorker hPhase hQueue => exact hTasks.receive hPhase
  | joined hWorker hRunner hPhase hFirst => exact hTasks.join _ _
  | joinFailed hWorker hRunner hPhase hFirst => exact hTasks.join _ _
  | abort hWorker hRunner hLive => exact hTasks.abort _
  | _ => exact hTasks

/-- In a load every worker does what it would do by itself. -/
theorem replaying (hReach : Reachable c source indexer processor s) :
    Replaying c processor s := by
  induction hReach with
  | initial => exact fun worker => ⟨rfl, .refl _⟩
  | step hBefore hStep ih => exact ih.step hStep

omit [Indexer ι] in
/-- The result of a worker is the report that it kept, under its own ordinal. -/
theorem Replaying.report (hTasks : Replaying c processor s) {worker : Nat} {r : WorkerReport}
    (hEnded : (s.task worker).phase = .ended (.ok r)) :
    (s.task worker).state.report = r ∧ r.worker = worker := by
  have hTask := hTasks worker
  unfold Task.Replays at hTask
  rw [hEnded] at hTask
  obtain ⟨hRun, hAlike⟩ := hTask
  obtain ⟨hReport, hWorker⟩ := WorkerState.report_run hRun
  exact ⟨hAlike.report.trans hReport, hWorker⟩

/-- What holds of the processors first, and still holds after each of their calls, holds always. -/
theorem forall_processor {P : Nat → π → Prop} (hFirst : ∀ worker, P worker (processor worker))
    (hBegin : ∀ worker (w : WorkerState π), P worker w.processor →
      P worker (w.begin (settings c)).2.processor)
    (hProcess : ∀ worker (w : WorkerState π) (b : LineBatch), P worker w.processor →
      P worker (w.step (settings c) b).2.processor)
    (hFinish : ∀ worker (w : WorkerState π), P worker w.processor →
      P worker (w.finish (settings c)).2.processor)
    (hReach : Reachable c source indexer processor s) (worker : Nat) :
    P worker (s.task worker).state.processor := by
  induction hReach generalizing worker with
  | initial => exact hFirst worker
  | @step s t hBefore hStep ih =>
      have hUpdate {changed : Nat} {task : Task π} (hHere : P changed task.state.processor) :
          P worker (Function.update s.task changed task worker).state.processor :=
        forall_update (P := fun i (t : Task π) => P i t.state.processor) ih hHere worker
      cases hStep with
      | start hWorker hPhase hReturns => exact hUpdate (hBegin _ _ (ih _))
      | process hWorker hPhase hReturns => exact hUpdate (hProcess _ _ _ (ih _))
      | finish hWorker hPhase hDrained hReturns => exact hUpdate (hFinish _ _ (ih _))
      | receive hWorker hPhase hQueue => exact hUpdate (ih _)
      | joined hWorker hRunner hPhase hFirst => exact hUpdate (ih _)
      | joinFailed hWorker hRunner hPhase hFirst => exact hUpdate (ih _)
      | abort hWorker hRunner hLive => exact hUpdate (ih _)
      | _ => exact ih worker

end

end Concurrent
end BulkLoad
