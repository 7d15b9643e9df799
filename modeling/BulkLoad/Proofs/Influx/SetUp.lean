import BulkLoad.Proofs.Influx.Delivery
import BulkLoad.Proofs.Influx.Endpoint

/-!
How far a configuration without broken rules can be set up.

Whatever is divided by is there: a channel, and a url. Each worker is handed a channel and each
channel a worker. But no rule bounds the number of workers or what a channel holds, so the sizes
that are computed from them need not have a word.
-/
namespace BulkLoad

namespace Load

variable {c : Config}

/-- As there is a channel, no step of the size of the pool is greater than the size itself. -/
theorem poolSize?_eq (hChannels : 0 < c.channelCount) : poolSize? c = Word.fit? (poolSize c) := by
  have hPlaces : c.channelCapacity + 1 ≤ c.channelCount * (c.channelCapacity + 1) :=
    Nat.le_mul_of_pos_left _ hChannels
  by_cases hFits : poolSize c < Word.size
  · have hFull : c.channelCount * (c.channelCapacity + 1) < Word.size :=
      Nat.lt_of_le_of_lt (Nat.le_add_right ..) hFits
    have hOne : c.channelCapacity + 1 < Word.size := Nat.lt_of_le_of_lt hPlaces hFull
    simp only [poolSize?, Word.add?, Word.mul?, Word.fit?_of_lt hOne, Word.fit?_of_lt hFull,
      Option.bind_eq_bind, Option.bind_some]
    rfl
  · have hNone : Word.fit? (poolSize c) = none := Word.fit?_eq_none.mpr (Nat.le_of_not_lt hFits)
    rw [hNone, Option.eq_none_iff_forall_not_mem]
    intro size hSize
    simp only [poolSize?, Word.add?, Word.mul?, Option.bind_eq_bind, Option.mem_def,
      Option.bind_eq_some_iff, Word.fit?_eq_some] at hSize
    obtain ⟨_, ⟨rfl, -⟩, _, ⟨rfl, -⟩, rfl, hLast⟩ := hSize
    exact hFits hLast

theorem handedOf?_eq {α : Type} {items : List α} (hSome : 0 < items.length) (worker : Nat) :
    handedOf? items worker = items[worker % items.length]? := by
  rw [handedOf?, Word.rem?_of_pos worker hSome]
  rfl

theorem handedOf?_range {count : Nat} (hSome : 0 < count) (worker : Nat) :
    handedOf? (List.range count) worker = some (worker % count) := by
  rw [handedOf?_eq (by rwa [List.length_range]), List.length_range]
  exact List.getElem?_range (Nat.mod_lt worker hSome)

/-- Only the size of the pool can be missing from a set-up. -/
theorem setUp?_eq (hChannels : 0 < c.channelCount) :
    setUp? c = (Word.fit? (poolSize c)).map fun size =>
      ⟨size, (List.range c.workers).map (channelOf c.channelCount)⟩ := by
  have hHanded : handedOf? (List.range c.channelCount) =
      fun worker => pure (channelOf c.channelCount worker) := by
    funext worker
    exact handedOf?_range hChannels worker
  rw [setUp?, poolSize?_eq hChannels, hHanded]
  simp only [List.mapM_pure]
  cases Word.fit? (poolSize c) <;> rfl

/-- Each channel has a worker that reads it, since there are no more channels than workers. -/
theorem exists_channelOf (hStart : startFault? c = none) {channel : Nat}
    (hChannel : channel < c.channelCount) :
    ∃ worker < c.workers, channelOf c.channelCount worker = channel :=
  ⟨channel, Nat.lt_of_lt_of_le hChannel (Concurrent.channelCount_bounds hStart).2,
    Nat.mod_eq_of_lt hChannel⟩

section Launched

variable {ι π : Type} [Indexer ι] [Processor π] {elapsed : Nat} {parts : LoadParts ι π}

/-- With a source that opens, a load breaks down just when its pool is too great. -/
theorem launch_eq_none_iff (hStart : startFault? c = none) :
    launch c elapsed parts = none ↔
      (∃ source, parts.source = .ok source) ∧ Word.size ≤ poolSize c := by
  have hChannels := (Concurrent.channelCount_bounds hStart).1
  rw [launch, hStart]
  cases parts.source with
  | error f => simp only [reduceCtorEq, exists_false, false_and]
  | ok source =>
      simp only [setUp?_eq hChannels, Option.map_map, Option.map_eq_none_iff, Word.fit?_eq_none,
        Except.ok.injEq, exists_eq', true_and]

/-- What is launched, if no size breaks down, is the load itself. -/
theorem launch_eq_run {outcome : LoadOutcome π} (hLaunch : launch c elapsed parts = some outcome) :
    outcome = run c elapsed parts := by
  unfold launch at hLaunch
  split at hLaunch
  · obtain ⟨_, -, hRun⟩ := Option.map_eq_some_iff.mp hLaunch
    exact hRun.symm
  · exact (Option.some.inj hLaunch).symm

end Launched

end Load

namespace InfluxLoad

variable {c : Config} {ι π : Type} [Indexer ι] [Processor π] {elapsed : Nat}
  {parts : LoadParts ι π}

theorem bufferCount?_eq (c : Config) : bufferCount? c = Word.fit? (bufferCount c) := rfl

theorem launch_eq_none_iff (hStart : Load.startFault? c = none) :
    launch c elapsed parts = none ↔
      Word.size ≤ bufferCount c ∨
        (∃ source, parts.source = .ok source) ∧ Word.size ≤ Load.poolSize c := by
  rw [launch, bufferCount?_eq, Option.bind_eq_bind]
  by_cases hBuffers : bufferCount c < Word.size
  · simp only [Word.fit?_of_lt hBuffers, Option.bind_some, Load.launch_eq_none_iff hStart,
      Nat.not_le_of_lt hBuffers, false_or]
  · have hMost := Nat.le_of_not_lt hBuffers
    simp only [Word.fit?_eq_none.mpr hMost, Option.bind_none, hMost, true_or]

theorem launch_eq_run {outcome : LoadOutcome π} (hLaunch : launch c elapsed parts = some outcome) :
    outcome = Load.run c elapsed parts := by
  obtain ⟨_, -, hInner⟩ := Option.bind_eq_some_iff.mp hLaunch
  exact Load.launch_eq_run hInner

/-- Let a configuration break no rule. Then the url of each worker and its channel are there, so
that no remainder is taken by zero, and each channel has a worker. There are two buffers for each
worker, and the pool has room for full channels, for one more batch in each and for one of each
worker, as long as these numbers have a word. The computation of the sizes breaks down just when the
first has none, or when the second has none and the source opens; else what is launched is the load
itself. Whether there is memory for what has these sizes is not asked. -/
theorem setUp_of_validate (hValid : c.validate = .ok ()) (elapsed : Nat) (parts : LoadParts ι π) :
    (∀ worker, ∃ index url, Word.rem? worker c.influx.urls.length = some index ∧
      c.influx.urls[index]? = some url ∧ c.influx.urlFor? worker = some url) ∧
    (∀ {α : Type} (receivers : List α), receivers.length = c.channelCount → ∀ worker,
      ∃ receiver, Load.handedOf? receivers worker = some receiver ∧
        receivers[worker % c.channelCount]? = some receiver) ∧
    (∀ channel < c.channelCount, ∃ worker < c.workers, worker % c.channelCount = channel) ∧
    (∀ size, bufferCount? c = some size ↔ size = c.workers * 2 ∧ size < 2 ^ 64) ∧
    (∀ size, Load.poolSize? c = some size ↔
      size = c.channelCount * (c.channelCapacity + 1) + c.workers ∧ size < 2 ^ 64) ∧
    (launch c elapsed parts = none ↔
      2 ^ 64 ≤ c.workers * 2 ∨ (∃ source, parts.source = .ok source) ∧
        2 ^ 64 ≤ c.channelCount * (c.channelCapacity + 1) + c.workers) ∧
    (∀ outcome, launch c elapsed parts = some outcome → outcome = Load.run c elapsed parts) := by
  have hStart := Config.startFault?_of_validate hValid
  have hChannels := (Concurrent.channelCount_bounds hStart).1
  constructor
  · intro worker
    have hUrls : 0 < c.influx.urls.length :=
      List.length_pos_iff.mpr (Config.urls_ne_nil_of_validate hValid)
    have hUrl := List.getElem?_eq_getElem (Nat.mod_lt worker hUrls)
    exact ⟨_, _, Word.rem?_of_pos worker hUrls, hUrl, hUrl⟩
  constructor
  · intro α receivers hLength worker
    have hSome : 0 < receivers.length := hLength.symm ▸ hChannels
    have hReceiver := List.getElem?_eq_getElem (Nat.mod_lt worker hSome)
    rw [Load.handedOf?_eq hSome, ← hLength]
    exact ⟨_, hReceiver, hReceiver⟩
  constructor
  · intro channel hChannel
    exact Load.exists_channelOf hStart hChannel
  constructor
  · intro size
    exact Word.fit?_eq_some
  constructor
  · intro size
    rw [Load.poolSize?_eq hChannels]
    exact Word.fit?_eq_some
  constructor
  · exact launch_eq_none_iff hStart
  · intro outcome
    exact launch_eq_run

/-- By default one worker has two buffers, and the pool room for a channel of a hundred. -/
theorem setUp_of_validate_default :
    let c : Config := {}
    c.validate = .ok () ∧ bufferCount? c = some 2 ∧ Load.poolSize? c = some 102 := by
  intro c
  have hValid : c.validate = .ok () := by
    have hNone : c.violations = [] := by decide +kernel
    rw [Config.validate, hNone]
  obtain ⟨-, -, -, hBuffers, hPool, -⟩ := setUp_of_validate hValid 0
    (parts .stored c (.ok {}) fun _ => Http.silentWorld c.influx)
  exact ⟨hValid, (hBuffers 2).mpr (by decide), (hPool 102).mpr (by decide)⟩

/-- The greatest channel that is accepted leaves no word for the size of the pool, and half the
words as workers leave none for the number of buffers. -/
theorem setUp_breaks_down :
    let roomy : Config := { channelCapacity := 2 ^ 64 - 1 }
    let crowded : Config := { workers := 2 ^ 63 }
    (roomy.validate = .ok () ∧ Load.poolSize? roomy = none) ∧
      (crowded.validate = .ok () ∧ bufferCount? crowded = none) := by
  intro roomy crowded
  have hRoomy : roomy.violations = [] := by decide +kernel
  have hCrowded : crowded.violations = [] := by decide +kernel
  rw [Config.validate, hRoomy, Config.validate, hCrowded]
  decide +kernel

end InfluxLoad
end BulkLoad
