import BulkLoad.Proofs.Run.Conserving

/-!
Workers one after another.

The crew of a load in which the workers take turns stands, as long as none of them fails, where each
of them has given a report, and its totals are those of all batches that were dealt out.
-/
namespace BulkLoad

namespace WorkerState

variable {π : Type} [Processor π] {settings : WorkerSettings} {s u v w : WorkerState π}

omit [Processor π] in
theorem Grows.trans (hFirst : u.Grows v) (hSecond : v.Grows w) : u.Grows w := by
  obtain ⟨points, rows, batches, hPoints, hRows, hBatches, hTotals⟩ := hFirst
  obtain ⟨points', rows', batches', hPoints', hRows', hBatches', hTotals'⟩ := hSecond
  refine ⟨points + points', rows + rows', batches + batches', ?_, ?_, ?_, ?_⟩
  · rw [hPoints', hPoints, Nat.add_assoc]
  · rw [hRows', hRows, Nat.add_assoc]
  · rw [hBatches', hBatches, Nat.add_assoc]
  · rw [hTotals', hTotals]
    simp only [UInt64.ofNat_add, UInt64.add_assoc]

theorem grows_loop (s : WorkerState π) (batches : List LineBatch) :
    s.Grows (s.loop settings batches).2.1 := by
  induction batches generalizing s with
  | nil => exact ⟨0, 0, 0, .nothing rfl rfl rfl⟩
  | cons b batches ih =>
      have hFirst : s.Grows (s.step settings b).2 := (shares_step settings s b).adds
      simp only [loop]
      rcases hStep : s.step settings b with ⟨result, w⟩
      rw [hStep] at hFirst
      cases result with
      | error halt => exact hFirst
      | ok u => exact hFirst.trans (ih w)

theorem grows_after (s : WorkerState π) (batches : List LineBatch) :
    s.Grows (s.after settings batches).2 := by
  have hFirst : s.Grows (s.begin settings).2 := (shares_begin settings s).adds
  unfold after
  rcases hBegin : s.begin settings with ⟨result, begun⟩
  rw [hBegin] at hFirst
  cases result with
  | error halt => exact hFirst
  | ok u => exact hFirst.trans (grows_loop begun batches)

/-- A worker that gives a report has added it to the totals. -/
theorem totals_run {batches : List LineBatch} {report : WorkerReport}
    (hFresh : s.report.Covers []) (hRun : (s.run settings batches).result = .ok report) :
    let final := (s.run settings batches).final
    final.totals =
      ⟨s.totals.points + .ofNat final.report.counts.points,
        s.totals.rows + .ofNat final.report.counts.rows,
        s.totals.batches + .ofNat final.report.batches⟩ := by
  intro final
  obtain ⟨next, hAfter, -, hFinal⟩ := after_of_run hRun
  have hBefore : s.Grows next := by
    have hGrows : s.Grows (s.after settings batches).2 := grows_after s batches
    rwa [hAfter] at hGrows
  have hLast : next.Grows final := by
    have hFinish : next.Grows (next.finish settings).2 := (shares_finish settings next).adds
    rwa [← hFinal] at hFinish
  obtain ⟨points, rows, count, hPoints, hRows, hBatches, hTotals⟩ := hBefore.trans hLast
  rw [hFresh.points, sumOf_nil, Nat.zero_add] at hPoints
  rw [hFresh.rows, sumOf_nil, Nat.zero_add] at hRows
  rw [hFresh.batches, List.length_nil, Nat.zero_add] at hBatches
  rw [hTotals, hPoints, hRows, hBatches]

end WorkerState

namespace Load

variable {π : Type} [Processor π] {c : Config} {processor : Nat → π}
  {batches : Nat → List LineBatch} {crew : Crew π} {count : Nat}

/-- What a worker comes to by itself. -/
def solo (c : Config) (processor : Nat → π) (batches : Nat → List LineBatch) (worker : Nat) :
    WorkerOutcome π :=
  (Concurrent.fresh c processor worker).run (.ofConfig c) (batches worker)

/-- What the first workers report of a figure. -/
def reported (c : Config) (processor : Nat → π) (batches : Nat → List LineBatch) (count : Nat)
    (figure : WorkerReport → Nat) : Nat :=
  sumOf (fun worker => figure (solo c processor batches worker).final.report) (List.range count)

/-- A crew whose first workers have all come to what each of them comes to by itself. -/
structure Crew.After (c : Config) (processor : Nat → π) (batches : Nat → List LineBatch)
    (count : Nat) (crew : Crew π) : Prop where
  results : ∀ worker < count, ∃ report, (solo c processor batches worker).result = .ok report
  reports : crew.reports.reverse =
    (List.range count).map fun worker => (solo c processor batches worker).final.report
  processors : crew.processors.reverse =
    (List.range count).map fun worker => (solo c processor batches worker).final.processor
  totals : crew.totals =
    ⟨.ofNat (reported c processor batches count fun r => r.counts.points),
      .ofNat (reported c processor batches count fun r => r.counts.rows),
      .ofNat (reported c processor batches count WorkerReport.batches)⟩

/-- A crew does not go on after a failure. -/
theorem halt_of_add {settings : WorkerSettings} (worker : Nat)
    (hHalt : (crew.add settings processor batches worker).halt = none) : crew.halt = none := by
  unfold Crew.add at hHalt
  split at hHalt
  · rename_i halt hFailed
    rw [hFailed] at hHalt
    cases hHalt
  · assumption

theorem reported_succ (figure : WorkerReport → Nat) :
    UInt64.ofNat (reported c processor batches (count + 1) figure) =
      .ofNat (reported c processor batches count figure) +
        .ofNat (figure (solo c processor batches count).final.report) := by
  rw [reported, List.range_succ, sumOf_append, UInt64.ofNat_add, sumOf_cons, sumOf_nil, Nat.add_zero,
    reported]

theorem Crew.After.add (hAfter : Crew.After c processor batches count crew)
    (hHalt : (crew.add (.ofConfig c) processor batches count).halt = none) :
    Crew.After c processor batches (count + 1) (crew.add (.ofConfig c) processor batches count) := by
  have hBefore := halt_of_add count hHalt
  have hAlike : (WorkerState.start count (processor count) crew.pool crew.totals).Alike
      (Concurrent.fresh c processor count) := ⟨rfl, rfl, rfl, rfl⟩
  obtain ⟨hResult, hFinal⟩ := hAlike.run (.ofConfig c) (batches count)
  unfold Crew.add at hHalt ⊢
  simp only [hBefore] at hHalt ⊢
  cases hRun : ((WorkerState.start count (processor count) crew.pool crew.totals).run (.ofConfig c)
      (batches count)).result with
  | error halt =>
      rw [hRun] at hHalt
      cases hHalt
  | ok report =>
      have hTotals := WorkerState.totals_run ⟨rfl, rfl, rfl⟩ hRun
      have hReport := (WorkerState.report_run hRun).1
      rw [hRun] at hResult
      refine ⟨fun worker hWorker => ?_, ?_, ?_, ?_⟩
      · rcases Nat.lt_succ_iff_lt_or_eq.mp hWorker with hEarlier | rfl
        · exact hAfter.results worker hEarlier
        · exact ⟨report, hResult.symm⟩
      · simp only
        rw [List.range_succ, List.map_append, List.reverse_cons, hAfter.reports, ← hReport,
          hFinal.report]
        rfl
      · simp only
        rw [List.range_succ, List.map_append, List.reverse_cons, hAfter.processors,
          hFinal.processor]
        rfl
      · simp only [reported_succ]
        rw [hTotals, hFinal.report]
        simp only [WorkerState.start, hAfter.totals]
        rfl

/-- A crew that comes to its end has all its reports. -/
theorem after_of_foldl (pool : Pool LineBatch)
    (hHalt : ((List.range count).foldl (Crew.add (.ofConfig c) processor batches)
      { pool }).halt = none) :
    Crew.After c processor batches count
      ((List.range count).foldl (Crew.add (.ofConfig c) processor batches) { pool }) := by
  induction count with
  | zero => exact ⟨nofun, rfl, rfl, rfl⟩
  | succ count ih =>
      rw [List.range_succ, List.foldl_append] at hHalt ⊢
      exact (ih (halt_of_add count hHalt)).add hHalt

/-- A worker that comes to its report by itself lets the crew go on. -/
theorem halt_add {worker : Nat} (hHalt : crew.halt = none)
    (hSolo : ∃ report, (solo c processor batches worker).result = .ok report) :
    (crew.add (.ofConfig c) processor batches worker).halt = none := by
  have hAlike : (WorkerState.start worker (processor worker) crew.pool crew.totals).Alike
      (Concurrent.fresh c processor worker) := ⟨rfl, rfl, rfl, rfl⟩
  obtain ⟨report, hReport⟩ := hSolo
  have hResult := (hAlike.run (.ofConfig c) (batches worker)).1.trans hReport
  unfold Crew.add
  simp only [hHalt, hResult]

theorem halt_foldl (pool : Pool LineBatch)
    (hSolo : ∀ worker < count, ∃ report, (solo c processor batches worker).result = .ok report) :
    ((List.range count).foldl (Crew.add (.ofConfig c) processor batches) { pool }).halt = none := by
  induction count with
  | zero => rfl
  | succ count ih =>
      rw [List.range_succ, List.foldl_append]
      exact halt_add (ih fun worker hWorker => hSolo worker (Nat.lt_succ_of_lt hWorker))
        (hSolo count (Nat.lt_succ_self count))

section

variable {ι : Type} [Indexer ι] {c : Config} {elapsed : Nat} {parts : LoadParts ι π}
  {source : Source.Stream}

/-- A load past its checks is dispatch, and then its workers. -/
theorem run_eq (hStart : startFault? c = none) (hSource : parts.source = .ok source) :
    let outcome := Concurrent.alone c source parts.indexer
    run c elapsed parts =
      match outcome.result with
      | .error e => failed [] (toldStarted c :: outcome.final.told) (dispatchError e)
      | .ok d =>
        runWorkers c elapsed parts.processor outcome.final.outlets outcome.final.dispatcher.pool d
          (toldStarted c :: outcome.final.told) := by
  simp only [run, hStart, hSource]
  rfl

theorem of_runWorkers_ok {processor : Nat → π}
    {outlets : List Outlet} {pool : Pool LineBatch} {d : DispatchSummary} {told : Journal}
    {summary : LoadSummary}
    (hRun : (runWorkers c elapsed processor outlets pool d told).result = .ok summary) :
    ∃ crew, Crew.After c processor (batchesOf c outlets) c.workers crew ∧
      (runWorkers c elapsed processor outlets pool d told).processors = crew.processors.reverse ∧
      summary = summarise crew.reports.reverse crew.totals elapsed d := by
  unfold runWorkers at hRun ⊢
  dsimp only at hRun ⊢
  split at hRun
  · cases hRun
  · cases hRun
  · rename_i hHalt
    cases hRun
    exact ⟨_, after_of_foldl pool hHalt, rfl, rfl⟩

/-- A load that gives a summary had dispatch and then all its workers succeed. -/
theorem of_run_ok {summary : LoadSummary} (hSource : parts.source = .ok source)
    (hRun : (run c elapsed parts).result = .ok summary) :
    let outcome := Concurrent.alone c source parts.indexer
    startFault? c = none ∧ ∃ d crew, outcome.result = .ok d ∧
      Crew.After c parts.processor (batchesOf c outcome.final.outlets) c.workers crew ∧
      (run c elapsed parts).processors = crew.processors.reverse ∧
      summary = summarise crew.reports.reverse crew.totals elapsed d := by
  intro outcome
  have hStart : startFault? c = none := by
    unfold run at hRun
    split at hRun
    · cases hRun
    · assumption
  rw [run_eq hStart hSource] at hRun ⊢
  cases hResult : outcome.result with
  | error e =>
      rw [hResult] at hRun
      cases hRun
  | ok d =>
      rw [hResult] at hRun
      obtain ⟨crew, hCrew, hProcessors, hSummary⟩ := of_runWorkers_ok hRun
      exact ⟨hStart, d, crew, rfl, hCrew, hProcessors, hSummary⟩

end

end Load
end BulkLoad
