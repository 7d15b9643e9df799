import BulkLoad.Proofs.Run.Places
import BulkLoad.Proofs.Write.Settling
import BulkLoad.Proofs.Write.Watched

/-!
What a worker asks of its processor, and what it makes of the answers.

A worker begins its processor, hands it the batches of its channel one by one, and closes it. The first
call that fails is the last. Whatever the processor does, the totals, the counters and the report say
the same of the batches that were processed, and of these only.
-/
namespace BulkLoad

open Journal

/-- The worker without the record of its processor. -/
def WorkerState.unwatched {π : Type} (s : WorkerState (Watched π)) : WorkerState π where
  processor := s.processor.processor
  pool := s.pool
  totals := s.totals
  report := s.report
  idled := s.idled
  toldNewestFirst := s.toldNewestFirst

namespace WorkerState

variable {π : Type} [Processor π] (settings : WorkerSettings) (s : WorkerState (Watched π))

/-! A record changes nothing in what a worker does. -/

theorem begin_unwatched :
    s.unwatched.begin settings = ((s.begin settings).1, (s.begin settings).2.unwatched) := by
  unfold begin
  dsimp only [Processor.init, Watched.watch, unwatched]
  split <;> rfl

theorem step_unwatched (b : LineBatch) :
    s.unwatched.step settings b = ((s.step settings b).1, (s.step settings b).2.unwatched) := by
  unfold step
  dsimp only [Processor.process, Watched.watch, unwatched]
  split <;> rfl

theorem finish_unwatched :
    s.unwatched.finish settings = ((s.finish settings).1, (s.finish settings).2.unwatched) := by
  unfold finish
  dsimp only [Processor.close, Watched.watch, unwatched]
  split <;> rfl

theorem loop_unwatched (batches : List LineBatch) :
    s.unwatched.loop settings batches =
      let (result, last, untaken) := s.loop settings batches
      (result, last.unwatched, untaken) := by
  induction batches generalizing s with
  | nil => rfl
  | cons b batches ih =>
      rw [loop, loop, step_unwatched]
      rcases s.step settings b with ⟨result, next⟩
      cases result with
      | error halt => rfl
      | ok u => exact ih next

theorem run_unwatched (batches : List LineBatch) :
    s.unwatched.run settings batches =
      let o := s.run settings batches
      ⟨o.result, o.final.unwatched, o.untaken⟩ := by
  rw [run_eq, run_eq, begin_unwatched]
  rcases s.begin settings with ⟨result, begun⟩
  cases result with
  | error halt => rfl
  | ok u =>
      dsimp only
      rw [loop_unwatched]
      rcases begun.loop settings batches with ⟨result, last, untaken⟩
      cases result with
      | error halt => rfl
      | ok u =>
          dsimp only
          rw [finish_unwatched]
          rcases last.finish settings with ⟨result, final⟩
          cases result <;> rfl

end WorkerState

theorem Running.count_push {α : Type} [Measure α] (r : Running α) (value : α) :
    (r.push value).count = r.count + 1 := by
  unfold push
  split
  · rename_i hFirst
    rw [hFirst]
  · rfl

namespace Metrics

/-- What is told of a batch counts it once, and each of its points and rows. -/
theorem counted_batchProcessed (c : BatchCounts) (millis : Float) :
    counted points (batchProcessed c millis) = c.points ∧
      counted rows (batchProcessed c millis) = c.rows ∧
      counted batches (batchProcessed c millis) = 1 := by
  have hPoints : points ≠ rows ∧ points ≠ batches := by decide
  have hRows : rows ≠ points ∧ rows ≠ batches := by decide
  simp [batchProcessed, amount_count_of_ne hPoints.1, amount_count_of_ne hPoints.2,
    amount_count_of_ne hRows.1, amount_count_of_ne hRows.2, amount_count_of_ne hPoints.2.symm,
    amount_count_of_ne hRows.2.symm]

end Metrics

namespace WorkerState

@[simp] theorem counted_told_tell {π : Type} (s : WorkerState π) (told : Journal) (name : String) :
    counted name (s.tell told).told = counted name s.told + counted name told := by
  simp [WorkerState.told, tell]

/-- The accounts of a worker agree with the counts of the batches that it has processed: the totals
have grown by them from `base`, the counters by them and by what the processor told itself, and the
report holds them. -/
structure Accounts {π : Type} (base : Totals) (worker : Nat) (processed : List BatchCounts)
    (own : Journal) (s : WorkerState π) : Prop where
  totals : s.totals =
    ⟨base.points + .ofNat (sumOf BatchCounts.points processed),
      base.rows + .ofNat (sumOf BatchCounts.rows processed),
      base.batches + .ofNat processed.length⟩
  pointsTold : counted Metrics.points s.told =
    counted Metrics.points own + sumOf BatchCounts.points processed
  rowsTold : counted Metrics.rows s.told =
    counted Metrics.rows own + sumOf BatchCounts.rows processed
  batchesTold : counted Metrics.batches s.told = counted Metrics.batches own + processed.length
  worker : s.report.worker = worker
  batches : s.report.batches = processed.length
  counts : s.report.counts =
    ⟨sumOf BatchCounts.points processed, sumOf BatchCounts.rows processed⟩
  latency : s.report.latency.count = processed.length

namespace Accounts

variable {π : Type} {base : Totals} {worker : Nat} {processed : List BatchCounts} {own : Journal}
  {s : WorkerState π}

theorem start (processor : π) (pool : Pool LineBatch) (base : Totals) (worker : Nat) :
    (WorkerState.start worker processor pool base).Accounts base worker [] [] := by
  refine ⟨?_, rfl, rfl, rfl, rfl, rfl, rfl, rfl⟩
  change base = ⟨base.points + 0, base.rows + 0, base.batches + 0⟩
  simp

/-- What the processor tells is its own. -/
theorem heard (hAccounts : s.Accounts base worker processed own) (next : π) (told : Journal) :
    ({ s with processor := next }.tell told).Accounts base worker processed (own ++ told) := by
  have hSame : { s with processor := next }.told = s.told := rfl
  refine { hAccounts with pointsTold := ?_, rowsTold := ?_, batchesTold := ?_ }
  · rw [counted_told_tell, hSame, hAccounts.pointsTold, counted_append, Nat.add_right_comm]
  · rw [counted_told_tell, hSame, hAccounts.rowsTold, counted_append, Nat.add_right_comm]
  · rw [counted_told_tell, hSame, hAccounts.batchesTold, counted_append, Nat.add_right_comm]

/-- Words that count nothing leave the accounts as they are. -/
theorem saying (hAccounts : s.Accounts base worker processed own) {told : Journal}
    (hQuiet : ∀ name, counted name told = 0) :
    (s.tell told).Accounts base worker processed own := by
  refine { hAccounts with pointsTold := ?_, rowsTold := ?_, batchesTold := ?_ }
  · rw [counted_told_tell, hQuiet]
    exact hAccounts.pointsTold
  · rw [counted_told_tell, hQuiet]
    exact hAccounts.rowsTold
  · rw [counted_told_tell, hQuiet]
    exact hAccounts.batchesTold

theorem withPool (hAccounts : s.Accounts base worker processed own) (pool : Pool LineBatch) :
    { s with pool }.Accounts base worker processed own :=
  { hAccounts with }

theorem withBackoff (hAccounts : s.Accounts base worker processed own) (backoff : Nat) :
    { s with report := { s.report with backoff } }.Accounts base worker processed own :=
  { hAccounts with }

/-- A batch that was processed is entered everywhere. -/
theorem record (hAccounts : s.Accounts base worker processed own) (settings : WorkerSettings)
    (c : BatchCounts) (took : Nat) :
    (s.record settings c took).Accounts base worker (processed ++ [c]) own := by
  obtain ⟨hPoints, hRows, hBatches⟩ :=
    Metrics.counted_batchProcessed c (Span.seconds took * 1000.0)
  have hTold (name : String) : counted name (s.record settings c took).told =
      counted name s.told +
        counted name (Metrics.batchProcessed c (Span.seconds took * 1000.0)) := by
    simp only [WorkerState.record, counted_told_tell]
    rfl
  refine ⟨?_, ?_, ?_, ?_, hAccounts.worker, ?_, ?_, ?_⟩
  · simp [WorkerState.record, tell, Totals.add, hAccounts.totals, UInt64.ofNat_add, UInt64.add_assoc]
  · rw [hTold, hAccounts.pointsTold, hPoints, sumOf_append, Nat.add_assoc]
    rfl
  · rw [hTold, hAccounts.rowsTold, hRows, sumOf_append, Nat.add_assoc]
    rfl
  · rw [hTold, hAccounts.batchesTold, hBatches, List.length_append, Nat.add_assoc]
    rfl
  · simp [WorkerState.record, tell, hAccounts.batches]
  · simp [WorkerState.record, tell, hAccounts.counts]
  · simp [WorkerState.record, tell, Running.count_push, hAccounts.latency]

end Accounts

/-- A batch that was processed, and what it counted for. -/
abbrev Processed := LineBatch × BatchCounts

/-- The calls of a worker that has begun and processed some batches. -/
def callsOf (settings : WorkerSettings) (worker : Nat) (done : List Processed) : List Deed :=
  .init worker settings.doLoad settings.hashWorkers (.ok ()) ::
    done.map fun d => .process d.1 settings.doLoad (.ok d.2)

theorem callsOf_append (settings : WorkerSettings) (worker : Nat) (done : List Processed)
    (d : Processed) :
    callsOf settings worker (done ++ [d]) =
      callsOf settings worker done ++ [.process d.1 settings.doLoad (.ok d.2)] := by
  simp [callsOf]

/-- All that a worker can do with the batches of its channel: the calls that it makes, the batches that
it takes, those of them that are processed, the batches that it leaves, and its result. -/
inductive Conduct (settings : WorkerSettings) (worker : Nat) (batches : List LineBatch) :
    List Deed → List LineBatch → List Processed → List LineBatch →
      Except WorkerHalt WorkerReport → Prop where
  | notBegun (halt : Halt) :
      Conduct settings worker batches
        [.init worker settings.doLoad settings.hashWorkers (.error halt)] [] [] batches
        (.error (halt.ofWorker worker))
  | stopped (done : List Processed) (b : LineBatch) (rest : List LineBatch) (halt : Halt)
      (hBatches : batches = done.map Prod.fst ++ b :: rest) :
      Conduct settings worker batches
        (callsOf settings worker done ++ [.process b settings.doLoad (.error halt)])
        (done.map Prod.fst ++ [b]) done rest (.error (halt.ofWorker worker))
  | notClosed (done : List Processed) (halt : Halt) (hBatches : batches = done.map Prod.fst) :
      Conduct settings worker batches
        (callsOf settings worker done ++ [.close settings.doLoad (.error halt)])
        batches done [] (.error (halt.ofWorker worker))
  | closed (done : List Processed) (backoff : Nat) (report : WorkerReport)
      (hBatches : batches = done.map Prod.fst) :
      Conduct settings worker batches
        (callsOf settings worker done ++ [.close settings.doLoad (.ok backoff)])
        batches done [] (.ok report)

/-- What a call that failed gives back of its batch: all of it if it returned, else nothing. -/
def givenBack : Halt → LineBatch → List LineBatch
  | .failed _, b => [b]
  | .crashed, _ => []
  | .endless, _ => []

/-- A worker that has made these calls, has put these batches back into the pool that it started with,
and has processed some of them. -/
structure Conducted {π : Type} (base : WorkerState π) (deeds : List Deed) (back : List LineBatch)
    (done : List Processed) (s : WorkerState (Watched π)) : Prop where
  deeds : s.processor.deeds = deeds
  pool : s.pool = base.pool.releaseAll back
  accounts : s.Accounts base.totals base.report.worker (done.map Prod.snd) s.processor.told

namespace Conducted

section

variable {π : Type} {base : WorkerState π} {deeds : List Deed} {back : List LineBatch}
  {done : List Processed} {s : WorkerState (Watched π)}

/-- A call is recorded with what it gave. -/
theorem called {α : Type} (hConducted : Conducted base deeds back done s) (call : Call π α)
    (deed : Except Halt α → Deed) :
    Conducted base (deeds ++ [deed call.result]) back done
      ({ s with processor := (s.processor.watch call deed).next }.tell call.told) := by
  have hHeard := hConducted.accounts.heard (s.processor.watch call deed).next call.told
  rw [← Watched.told_watch s.processor call deed] at hHeard
  refine ⟨?_, hConducted.pool, hHeard⟩
  rw [← hConducted.deeds]
  exact Watched.deeds_watch s.processor call deed

theorem recorded (hConducted : Conducted base deeds back done s) (settings : WorkerSettings)
    (d : Processed) (took : Nat) :
    Conducted base deeds back (done ++ [d]) (s.record settings d.2 took) := by
  refine ⟨hConducted.deeds, hConducted.pool, ?_⟩
  rw [List.map_append]
  exact hConducted.accounts.record settings d.2 took

theorem released (hConducted : Conducted base deeds back done s) (b : LineBatch) :
    Conducted base deeds (back ++ [b]) done { s with pool := s.pool.release b } := by
  refine ⟨hConducted.deeds, ?_, hConducted.accounts.withPool _⟩
  have hPool := hConducted.pool
  unfold Pool.releaseAll at hPool ⊢
  rw [List.foldl_append, ← hPool]
  rfl

theorem reported (hConducted : Conducted base deeds back done s) (backoff : Nat) :
    Conducted base deeds back done { s with report := { s.report with backoff } } :=
  ⟨hConducted.deeds, hConducted.pool, hConducted.accounts.withBackoff backoff⟩

theorem saying (hConducted : Conducted base deeds back done s) {told : Journal}
    (hQuiet : ∀ name, counted name told = 0) : Conducted base deeds back done (s.tell told) :=
  ⟨hConducted.deeds, hConducted.pool, hConducted.accounts.saying hQuiet⟩

end

variable {π : Type} [Processor π] {base : WorkerState π} {deeds : List Deed}
  {back : List LineBatch} {done : List Processed} {s : WorkerState (Watched π)}

/-- A worker begins its processor, and either has begun or is at its end. -/
theorem begin (hConducted : Conducted base [] [] [] s) (settings : WorkerSettings) :
    (∃ next, s.begin settings = (.ok (), next) ∧
      Conducted base (callsOf settings base.report.worker []) [] [] next) ∨
    ∃ halt next, s.begin settings = (.error halt, next) ∧
      Conducted base
        [.init base.report.worker settings.doLoad settings.hashWorkers (.error halt)] [] [] next := by
  have hCalled := hConducted.called (Processor.init s.processor.processor s.report.worker
    settings.doLoad settings.hashWorkers) (.init s.report.worker settings.doLoad settings.hashWorkers)
  rw [← hConducted.accounts.worker]
  unfold WorkerState.begin
  dsimp only [Processor.init, Watched.watch] at hCalled ⊢
  cases hResult : (Processor.init s.processor.processor s.report.worker settings.doLoad
      settings.hashWorkers).result with
  | error halt =>
      right
      rw [hResult] at hCalled
      exact ⟨halt, _, rfl, hCalled⟩
  | ok u =>
      left
      rw [hResult] at hCalled
      exact ⟨_, rfl, hCalled.saying fun name => rfl⟩

/-- A batch is taken, processed, and put back. It is processed if the call gives its counts. -/
theorem step (hConducted : Conducted base deeds back done s) (settings : WorkerSettings)
    (b : LineBatch) :
    (∃ counts next, s.step settings b = (.ok (), next) ∧
      Conducted base (deeds ++ [.process b settings.doLoad (.ok counts)]) (back ++ [b])
        (done ++ [(b, counts)]) next) ∨
    ∃ halt next, s.step settings b = (.error halt, next) ∧
      Conducted base (deeds ++ [.process b settings.doLoad (.error halt)])
        (back ++ givenBack halt b) done next := by
  have hCalled := hConducted.called
    (Processor.process s.processor.processor b settings.doLoad) (.process b settings.doLoad)
  unfold WorkerState.step
  dsimp only [Processor.process, Watched.watch] at hCalled ⊢
  cases hResult : (Processor.process s.processor.processor b settings.doLoad).result with
  | error halt =>
      right
      rw [hResult] at hCalled
      cases halt with
      | failed f => exact ⟨.failed f, _, rfl, hCalled.released b⟩
      | crashed => exact ⟨.crashed, _, rfl, (List.append_nil back).symm ▸ hCalled⟩
      | endless => exact ⟨.endless, _, rfl, (List.append_nil back).symm ▸ hCalled⟩
  | ok counts =>
      left
      rw [hResult] at hCalled
      exact ⟨counts, _, rfl, (hCalled.recorded settings (b, counts) _).released b⟩

/-- A worker closes its processor, and gives its report if that does not fail. -/
theorem finish (hConducted : Conducted base deeds back done s) (settings : WorkerSettings) :
    (∃ backoff next, s.finish settings = (.ok next.report, next) ∧
      Conducted base (deeds ++ [.close settings.doLoad (.ok backoff)]) back done next) ∨
    ∃ halt next, s.finish settings = (.error halt, next) ∧
      Conducted base (deeds ++ [.close settings.doLoad (.error halt)]) back done next := by
  have hCalled := hConducted.called
    (Processor.close s.processor.processor settings.doLoad) (.close settings.doLoad)
  unfold WorkerState.finish
  dsimp only [Processor.close, Watched.watch] at hCalled ⊢
  cases hResult : (Processor.close s.processor.processor settings.doLoad).result with
  | error halt =>
      right
      rw [hResult] at hCalled
      exact ⟨halt, _, rfl, hCalled⟩
  | ok backoff =>
      left
      rw [hResult] at hCalled
      exact ⟨backoff, _, rfl, (hCalled.reported backoff).saying fun name => rfl⟩

/-- The batches are processed in order, all of them or those before the first that fails. -/
theorem loop {settings : WorkerSettings} (hConducted : Conducted base
      (callsOf settings base.report.worker done) (done.map Prod.fst) done s)
    (batches : List LineBatch) :
    (∃ more next, s.loop settings batches = (.ok (), next, []) ∧ batches = more.map Prod.fst ∧
      Conducted base (callsOf settings base.report.worker (done ++ more))
        ((done ++ more).map Prod.fst) (done ++ more) next) ∨
    ∃ more b rest halt next, s.loop settings batches = (.error halt, next, rest) ∧
      batches = more.map Prod.fst ++ b :: rest ∧
      Conducted base
        (callsOf settings base.report.worker (done ++ more) ++
          [.process b settings.doLoad (.error halt)])
        ((done ++ more).map Prod.fst ++ givenBack halt b) (done ++ more) next := by
  induction batches generalizing done s with
  | nil => exact .inl ⟨[], s, rfl, rfl, by rwa [List.append_nil]⟩
  | cons b batches ih =>
      rcases hConducted.step settings b with ⟨counts, next, hStep, hNext⟩ |
        ⟨halt, next, hStep, hNext⟩
      · rw [← callsOf_append settings base.report.worker done (b, counts)] at hNext
        have hMap : done.map Prod.fst ++ [b] = (done ++ [(b, counts)]).map Prod.fst := by simp
        rw [hMap] at hNext
        rcases ih hNext with ⟨more, last, hLoop, hBatches, hLast⟩ |
          ⟨more, b', rest, halt, last, hLoop, hBatches, hLast⟩
        · rw [List.append_assoc] at hLast
          refine .inl ⟨(b, counts) :: more, last, ?_, by rw [hBatches]; rfl, hLast⟩
          rw [WorkerState.loop, hStep]
          exact hLoop
        · rw [List.append_assoc] at hLast
          refine .inr ⟨(b, counts) :: more, b', rest, halt, last, ?_, by rw [hBatches]; rfl, hLast⟩
          rw [WorkerState.loop, hStep]
          exact hLoop
      · refine .inr ⟨[], b, batches, halt, next, ?_, rfl, ?_⟩
        · rw [WorkerState.loop, hStep]
        · rwa [List.append_nil]

/-- A worker that returns with a failure of its own gave the batch back for which it failed. -/
theorem givenBack_of_returns {halt : Halt} {worker : Nat}
    (hReturns : ∃ f, halt.ofWorker worker = .failed (.worker worker f)) (b : LineBatch) :
    givenBack halt b = [b] := by
  obtain ⟨f, hFailed⟩ := hReturns
  cases halt with
  | failed f => rfl
  | crashed => cases hFailed
  | endless => cases hFailed

/-- A run from its first call to its last. What was taken was put back if the worker returns. -/
theorem run (hConducted : Conducted base [] [] [] s) (settings : WorkerSettings)
    (batches : List LineBatch) :
    ∃ deeds taken back done,
      Conduct settings base.report.worker batches deeds taken done (s.run settings batches).untaken
        (s.run settings batches).result ∧
      Conducted base deeds back done (s.run settings batches).final ∧
      ((∀ halt, (s.run settings batches).result = .error halt →
        ∃ f, halt = .failed (.worker base.report.worker f)) → back = taken) ∧
      ∀ report, (s.run settings batches).result = .ok report →
        report = (s.run settings batches).final.report := by
  have hWorker := hConducted.accounts.worker
  rw [run_eq, hWorker]
  rcases hConducted.begin settings with ⟨begun, hBegin, hBegun⟩ | ⟨halt, last, hBegin, hLast⟩
  · rw [hBegin]
    dsimp only
    have hLoop := hBegun.loop batches
    simp only [List.nil_append] at hLoop
    rcases hLoop with ⟨done, next, hLoop, hBatches, hNext⟩ |
      ⟨done, b, rest, halt, last, hLoop, hBatches, hLast⟩
    · rw [hLoop]
      dsimp only
      rw [← hBatches] at hNext
      rcases hNext.finish settings with ⟨backoff, last, hFinish, hLast⟩ |
        ⟨halt, last, hFinish, hLast⟩
      · rw [hFinish]
        refine ⟨_, _, _, done, .closed done backoff _ hBatches, hLast, fun _ => rfl,
          fun report hReport => ?_⟩
        cases hReport
        rfl
      · rw [hFinish]
        exact ⟨_, _, _, done, .notClosed done halt hBatches, hLast, fun _ => rfl, nofun⟩
    · rw [hLoop]
      refine ⟨_, _, _, done, .stopped done b rest halt hBatches, hLast, fun hReturns => ?_, nofun⟩
      rw [givenBack_of_returns (hReturns _ rfl)]
  · rw [hBegin]
    exact ⟨_, _, _, _, .notBegun halt, hLast, fun _ => rfl, nofun⟩

end Conducted

/-- Whatever its processor does, a worker begins it, hands it the batches of its channel in their order
up to the first that fails, and closes it if none did; it takes no batch that it does not hand over.
When it returns, each batch that it took was put back into the pool once. The totals, the counters and
the report have grown by the counts of the batches that were processed. -/
theorem worker_conduct {π : Type} [Processor π] (settings : WorkerSettings) (worker : Nat) (p : π)
    (pool : Pool LineBatch) (totals : Totals) (batches : List LineBatch) :
    let watched := (start worker ({ processor := p } : Watched π) pool totals).run settings batches
    let o := (start worker p pool totals).run settings batches
    (o.result = watched.result ∧ o.untaken = watched.untaken ∧
      o.final = watched.final.unwatched) ∧
    ∃ (taken : List LineBatch) (done : List Processed),
      Conduct settings worker batches watched.final.processor.deeds taken done o.untaken o.result ∧
      ((∀ halt, o.result = .error halt → ∃ f, halt = .failed (.worker worker f)) →
        o.final.pool = pool.releaseAll taken) ∧
      o.final.Accounts totals worker (done.map Prod.snd) watched.final.processor.told ∧
      ∀ report, o.result = .ok report → report = o.final.report := by
  intro watched o
  have hSame : o = ⟨watched.result, watched.final.unwatched, watched.untaken⟩ :=
    run_unwatched settings (start worker { processor := p } pool totals) batches
  have hStart : Conducted (start worker p pool totals) [] [] []
      (start worker ({ processor := p } : Watched π) pool totals) :=
    ⟨rfl, rfl, .start ..⟩
  obtain ⟨deeds, taken, back, done, hConduct, hConducted, hBack, hReport⟩ :=
    hStart.run settings batches
  rw [hSame]
  refine ⟨⟨rfl, rfl, rfl⟩, taken, done, ?_, fun hReturns => ?_, ?_, hReport⟩
  · rw [hConducted.deeds]
    exact hConduct
  · rw [← hBack hReturns]
    exact hConducted.pool
  · exact { hConducted.accounts with }

/-- A processor that can process so many batches more. -/
structure Tiring where
  left : Nat

instance : Processor Tiring where
  init p _ _ _ := { result := .ok (), next := p }
  process p b _ :=
    match p.left with
    | 0 => { result := .error (.failed (.write 0 "tired")), next := p }
    | left + 1 => { result := .ok b.counts, next := ⟨left⟩ }

/-- The second of three batches fails: it is taken and put back like the first, and not counted. -/
theorem worker_conduct_tiring :
    let b : LineBatch := .ofLines [Utf8.encode "a x=1,y=1 1"]
    let settings : WorkerSettings := ⟨true, false, none⟩
    let o := (start 3 (Tiring.mk 1) (.ofCapacity 2) {}).run settings [b, b, b]
    let halt : WorkerHalt := .failed (.worker 3 (.write 0 "tired"))
    o.result = .error halt ∧
    ∃ deeds taken done own,
      Conduct settings 3 [b, b, b] deeds taken done [b] (.error halt) ∧
      o.final.pool = (Pool.ofCapacity 2).releaseAll taken ∧
      o.final.Accounts {} 3 (done.map Prod.snd) own := by
  intro b settings o halt
  have hResult : o.result = .error halt := by rfl
  have hUntaken : o.untaken = [b] := by rfl
  obtain ⟨-, taken, done, hConduct, hPool, hAccounts, -⟩ :=
    worker_conduct settings 3 (Tiring.mk 1) (.ofCapacity 2) {} [b, b, b]
  rw [hResult] at hPool
  refine ⟨hResult, _, taken, done, _, hUntaken ▸ hResult ▸ hConduct, hPool fun other hOther => ?_,
    hAccounts⟩
  cases hOther
  exact ⟨_, rfl⟩

end WorkerState

end BulkLoad
