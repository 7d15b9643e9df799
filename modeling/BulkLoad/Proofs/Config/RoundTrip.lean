import BulkLoad.Proofs.Config.Settings
import BulkLoad.Proofs.Config.Rules

/-!
Configurations written in a format and read again.

What a text gives fits the words of the machine, and so each of its settings is read back as it was.
The one exception is a multiplier that is no finite number: TOML has a name for it, JSON has not, and
writes a null that is refused where a number is due.
-/
namespace BulkLoad

open Setting Decimal

/-! ### Counts that fit -/

/-- The counts and times fit the words of the machine. -/
structure RetryConfig.Fits (c : RetryConfig) : Prop where
  maxRetries : c.maxRetries ≤ maxHalfWord
  baseDelayMs : c.baseDelayMs ≤ maxWord
  maxDelayMs : c.maxDelayMs ≤ maxWord
  backoffMs : c.backoffMs ≤ maxWord

/-- The counts and times fit the words of the machine. -/
structure Config.Fits (c : Config) : Prop where
  workers : c.workers ≤ maxWord
  channelCapacity : c.channelCapacity ≤ maxWord
  batchSize : c.batchSize ≤ maxWord
  limit : ∀ n ∈ c.limit, n ≤ maxWord
  batchDelayMs : c.batchDelayMs ≤ maxWord
  reportingPeriodMs : c.reportingPeriodMs ≤ maxWord
  retry : c.retry.Fits

namespace Setting

variable {greatest default n : Nat} {s : Setting} {value : Option Setting}

theorem nat?_le (hRead : nat? greatest s = some n) : n ≤ greatest := by
  unfold nat? at hRead
  split at hRead
  · split at hRead
    · rename_i hFits
      cases hRead
      exact hFits
    · cases hRead
  · cases hRead

theorem orElse?_nat?_le (hRead : orElse? (nat? greatest) default value = some n)
    (hDefault : default ≤ greatest) : n ≤ greatest := by
  cases value with
  | none =>
      cases hRead
      exact hDefault
  | some s => exact nat?_le hRead

theorem orElse?_optional?_nat?_le {found : Option Nat}
    (hRead : orElse? (optional? (nat? greatest)) none value = some found) :
    ∀ n ∈ found, n ≤ greatest := by
  rintro n rfl
  cases value with
  | none => cases hRead
  | some s =>
      show n ≤ greatest
      have hSome : optional? (nat? greatest) s = some (some n) := hRead
      unfold optional? at hSome
      split at hSome
      · cases hSome
      · obtain ⟨m, hNat, hSame⟩ := Option.map_eq_some_iff.mp hSome
        cases hSame
        exact nat?_le hNat

end Setting

theorem RetryConfig.fits_of_ofSetting? {format : Format} {s : Setting} {c : RetryConfig}
    (hRead : RetryConfig.ofSetting? format s = some c) : c.Fits := by
  simp only [RetryConfig.ofSetting?, Option.bind_eq_bind, Option.bind_eq_some_iff] at hRead
  obtain ⟨values, -, hRead⟩ := hRead
  split at hRead
  · simp only [Option.bind_eq_some_iff] at hRead
    obtain ⟨retries, hRetries, base, hBase, multiplier, -, most, hMost, backoff, hBackoff, hSame⟩ :=
      hRead
    cases hSame
    exact ⟨orElse?_nat?_le hRetries (by decide), orElse?_nat?_le hBase (by decide),
      orElse?_nat?_le hMost (by decide), orElse?_nat?_le hBackoff (by decide)⟩
  · cases hRead

theorem RetryConfig.fits_of_orElse? {format : Format} {value : Option Setting} {c : RetryConfig}
    (hRead : orElse? (RetryConfig.ofSetting? format) {} value = some c) : c.Fits := by
  cases value with
  | none =>
      cases hRead
      exact ⟨by decide, by decide, by decide, by decide⟩
  | some s => exact fits_of_ofSetting? hRead

theorem Config.fits_of_ofSetting? {format : Format} {s : Setting} {c : Config}
    (hRead : Config.ofSetting? format s = some c) : c.Fits := by
  simp only [Config.ofSetting?, Option.bind_eq_bind, Option.bind_eq_some_iff] at hRead
  obtain ⟨values, -, hRead⟩ := hRead
  split at hRead
  · simp only [Option.bind_eq_some_iff] at hRead
    obtain ⟨workers, hWorkers, capacity, hCapacity, size, hSize, limit, hLimit, delay, hDelay,
      hash, -, load, -, period, hPeriod, retry, hRetry, influx, -, source, -, hSame⟩ := hRead
    cases hSame
    have hRetryFits := RetryConfig.fits_of_orElse? hRetry
    exact ⟨orElse?_nat?_le hWorkers (by decide), orElse?_nat?_le hCapacity (by decide),
      orElse?_nat?_le hSize (by decide), orElse?_optional?_nat?_le hLimit,
      orElse?_nat?_le hDelay (by decide), orElse?_nat?_le hPeriod (by decide), hRetryFits⟩
  · cases hRead

/-! ### Settings in order -/

def RetryConfig.values (c : RetryConfig) : List Setting :=
  [.integer c.maxRetries, .integer c.baseDelayMs, .float c.multiplier, .integer c.maxDelayMs,
    .integer c.backoffMs]

def InfluxConfig.values (c : InfluxConfig) : List Setting :=
  [.list (c.urls.map .text), .text c.database, .text c.consistency.name, .bool c.gzip, .text c.token,
    .text c.bearer, .bool c.noSync]

def SourceConfig.values (c : SourceConfig) : List Setting := [c.path.elim .absent .text]

def Config.values (c : Config) : List Setting :=
  [.integer c.workers, .integer c.channelCapacity, .integer c.batchSize,
    c.limit.elim .absent fun n => .integer n, .integer c.batchDelayMs, .bool c.hashWorkers,
    .bool c.doLoad, .integer c.reportingPeriodMs, c.retry.toSetting, c.influx.toSetting,
    c.source.toSetting]

namespace Setting

variable {greatest default n : Nat}

theorem lt_of_le_maxWord (hFits : n ≤ maxWord) : n < Nat.pow 2 64 :=
  Nat.lt_of_le_of_lt hFits (by decide)

theorem orElse?_natural (hFits : n ≤ greatest) (hWord : greatest ≤ maxWord) (format : Format) :
    orElse? (nat? greatest) default (seen format (.integer n)) = some n := by
  rw [seen_natural format (lt_of_le_maxWord (Nat.le_trans hFits hWord))]
  exact if_pos hFits

theorem orElse?_word (hFits : n ≤ maxWord) (format : Format) :
    orElse? (nat? maxWord) default (seen format (.integer n)) = some n :=
  orElse?_natural hFits (Nat.le_refl _) format

theorem orElse?_bool (default b : Bool) (format : Format) :
    orElse? bool? default (seen format (.bool b)) = some b := by
  rw [seen_bool]
  rfl

theorem orElse?_text (default s : String) (format : Format) :
    orElse? text? default (seen format (.text s)) = some s := by
  rw [seen_text]
  rfl

theorem orElse?_texts (default ss : List String) (format : Format) :
    orElse? texts? default (seen format (.list (ss.map .text))) = some ss := by
  have hTexts : (ss.map Setting.text).mapM text? = some ss := by
    induction ss with
    | nil => rfl
    | cons s ss ih =>
        rw [List.map_cons, List.mapM_cons, ih]
        rfl
  rw [seen_texts]
  exact hTexts

theorem orElse?_consistency (default c : Consistency) (format : Format) :
    orElse? (Consistency.ofSetting? format) default (seen format (.text c.name)) = some c := by
  rw [seen_text]
  exact Consistency.ofName?_name c

/-- A multiplier is refused where it was written as a null. -/
theorem orElse?_float {x : Float} (hDigits : ReadsBack x) (default : Float) (format : Format) :
    orElse? float? default (seen format (.float x)) =
      if format = .json ∧ x.isFinite = false then none else some x := by
  rw [seen_float hDigits]
  split
  · rfl
  · rfl

/-- What may be absent is found as it is, whether it is left out or written as a null. -/
theorem orElse?_optional {α : Type} {read : Setting → Option α} {write : α → Setting}
    {value : Option α} {format : Format}
    (hSeen : ∀ a ∈ value, seen format (write a) = some (write a))
    (hRead : ∀ a ∈ value, optional? read (write a) = some (some a)) :
    orElse? (optional? read) none (seen format (value.elim .absent write)) = some value := by
  cases value with
  | none => cases format <;> rfl
  | some a =>
      rw [Option.elim_some, hSeen a rfl]
      exact hRead a rfl

end Setting

theorem RetryConfig.ofSetting?_seen {c : RetryConfig} (hFits : c.Fits)
    (hDigits : ReadsBack c.multiplier) (format : Format) :
    orElse? (ofSetting? format) {} (seen format c.toSetting) =
      if format = .json ∧ c.multiplier.isFinite = false then none else some c := by
  have hSetting : c.toSetting = .group (names.zip c.values) := rfl
  have hRetries : maxHalfWord ≤ maxWord := by decide
  rw [hSetting, seen_group, orElse?, ofSetting?, members?_given format (by decide) rfl]
  simp only [values, List.map_cons, List.map_nil, orElse?_natural hFits.maxRetries hRetries,
    orElse?_word hFits.baseDelayMs, orElse?_word hFits.maxDelayMs, orElse?_word hFits.backoffMs,
    orElse?_float hDigits, Option.bind_eq_bind, Option.bind_some]
  split
  · rfl
  · rfl

theorem InfluxConfig.ofSetting?_seen (c : InfluxConfig) (format : Format) :
    orElse? (ofSetting? format) {} (seen format c.toSetting) = some c := by
  have hSetting : c.toSetting = .group (names.zip c.values) := rfl
  rw [hSetting, seen_group, orElse?, ofSetting?, members?_given format (by decide) rfl]
  simp only [values, List.map_cons, List.map_nil, orElse?_texts, orElse?_text, orElse?_consistency,
    orElse?_bool, Option.bind_eq_bind, Option.bind_some]
  rfl

theorem SourceConfig.ofSetting?_seen (c : SourceConfig) (format : Format) :
    orElse? (ofSetting? format) {} (seen format c.toSetting) = some c := by
  have hSetting : c.toSetting = .group (names.zip c.values) := rfl
  have hPath : orElse? (optional? text?) none (seen format (c.path.elim .absent .text)) =
      some c.path := orElse?_optional (fun s _ => seen_text format s) fun _ _ => rfl
  rw [hSetting, seen_group, orElse?, ofSetting?, members?_given format (by decide) rfl]
  simp only [values, List.map_cons, List.map_nil, hPath, Option.bind_eq_bind, Option.bind_some]
  rfl

/-- All that was written of a configuration is found again, but for a multiplier that became a
null. -/
theorem Config.ofSetting?_seen {c : Config} (hFits : c.Fits) (hDigits : ReadsBack c.retry.multiplier)
    (format : Format) :
    (seen format c.toSetting).bind (ofSetting? format) =
      if format = .json ∧ c.retry.multiplier.isFinite = false then none else some c := by
  have hSetting : c.toSetting = .group (names.zip c.values) := rfl
  have hLimit : orElse? (optional? (nat? maxWord)) none
      (seen format (c.limit.elim .absent fun n => .integer n)) = some c.limit :=
    orElse?_optional (fun n hn => seen_natural format (lt_of_le_maxWord (hFits.limit n hn)))
      fun n hn => congrArg (Option.map some) (if_pos (hFits.limit n hn))
  rw [hSetting, seen_group, Option.bind_some, ofSetting?, members?_given format (by decide) rfl]
  simp only [values, List.map_cons, List.map_nil, hLimit, orElse?_bool, orElse?_word hFits.workers,
    orElse?_word hFits.channelCapacity, orElse?_word hFits.batchSize,
    orElse?_word hFits.batchDelayMs, orElse?_word hFits.reportingPeriodMs,
    RetryConfig.ofSetting?_seen hFits.retry hDigits, InfluxConfig.ofSetting?_seen,
    SourceConfig.ofSetting?_seen, Option.bind_eq_bind, Option.bind_some]
  split
  · rfl
  · rfl

/-! ### The page -/

/-- The tables of a page, each under a header of its own. -/
def Config.tables (c : Config) : List (String × List (String × Toml)) :=
  [("retry", toTomlEntries (RetryConfig.names.zip c.retry.values)),
    ("influx", toTomlEntries (InfluxConfig.names.zip c.influx.values)),
    ("source", toTomlEntries (SourceConfig.names.zip c.source.values))]

theorem Setting.isPlain_word {n : Nat} (hFits : n ≤ maxWord) : IsPlain (.integer n) :=
  isPlain_natural (Nat.lt_of_le_of_lt hFits (by decide))

theorem RetryConfig.isGroup {c : RetryConfig} (hFits : c.Fits) (hDigits : ReadsBack c.multiplier) :
    Toml.IsGroup (toTomlEntries (names.zip c.values)) := by
  have hRetries : c.maxRetries ≤ maxWord := Nat.le_trans hFits.maxRetries (by decide)
  apply isGroup_toTomlEntries (Toml.isKey_of_all rfl) (by decide) (Nat.le_refl _)
  simp only [values, List.forall_mem_cons]
  exact ⟨isPlain_word hRetries, isPlain_word hFits.baseDelayMs, isPlain_float hDigits,
    isPlain_word hFits.maxDelayMs, isPlain_word hFits.backoffMs, nofun⟩

theorem InfluxConfig.isGroup (c : InfluxConfig) :
    Toml.IsGroup (toTomlEntries (names.zip c.values)) := by
  apply isGroup_toTomlEntries (Toml.isKey_of_all rfl) (by decide) (Nat.le_refl _)
  simp only [values, List.forall_mem_cons]
  exact ⟨isPlain_texts c.urls, isPlain_text _, isPlain_text _, isPlain_bool _, isPlain_text _,
    isPlain_text _, isPlain_bool _, nofun⟩

theorem SourceConfig.isGroup (c : SourceConfig) :
    Toml.IsGroup (toTomlEntries (names.zip c.values)) := by
  apply isGroup_toTomlEntries (Toml.isKey_of_all rfl) (by decide) (Nat.le_refl _)
  simp only [values, List.forall_mem_cons]
  refine ⟨?_, nofun⟩
  cases c.path with
  | none => exact isPlain_absent
  | some path => exact isPlain_text path

/-- The settings that stand above all tables. -/
theorem Config.isGroup {c : Config} (hFits : c.Fits) :
    Toml.IsGroup (toTomlEntries ((names.take 8).zip (c.values.take 8))) := by
  apply isGroup_toTomlEntries (Toml.isKey_of_all rfl) (by decide) (Nat.le_refl _)
  simp only [values, List.take_succ_cons, List.take_zero, List.forall_mem_cons]
  refine ⟨isPlain_word hFits.workers, isPlain_word hFits.channelCapacity,
    isPlain_word hFits.batchSize, ?_, isPlain_word hFits.batchDelayMs, isPlain_bool _,
    isPlain_bool _, isPlain_word hFits.reportingPeriodMs, nofun⟩
  cases hLimit : c.limit with
  | none => exact isPlain_absent
  | some n => exact isPlain_word (hFits.limit n hLimit)

theorem Config.toTomlEntries_eq (c : Config) :
    toTomlEntries (names.zip c.values) =
      toTomlEntries ((names.take 8).zip (c.values.take 8)) ++
        c.tables.map fun t => (t.1, .table t.2) := by
  have hParts : names.zip c.values =
      (names.take 8).zip (c.values.take 8) ++ (names.drop 8).zip (c.values.drop 8) := rfl
  rw [hParts, toTomlEntries_append]
  rfl

/-- The settings of a text are those that its format shows of the configuration. -/
theorem Config.settings?_toText {c : Config} (hFits : c.Fits)
    (hDigits : ReadsBack c.retry.multiplier) (format : Format) :
    format.settings? (c.toText format) = seen format c.toSetting := by
  cases format with
  | json => exact settings?_toJson c.toSetting
  | toml =>
      have hKeys : ∀ name ∈ names.drop 8, Toml.IsKey name := Toml.isKey_of_all rfl
      have hTables : ∀ t ∈ c.tables, Toml.IsKey t.1 ∧ Toml.IsGroup t.2 := by
        intro t ht
        refine ⟨hKeys t.1 (List.mem_map_of_mem ht), ?_⟩
        revert t
        simp only [tables, List.forall_mem_cons]
        exact ⟨RetryConfig.isGroup hFits.retry hDigits, c.influx.isGroup, c.source.isGroup, nofun⟩
      have hNames : ((toTomlEntries ((names.take 8).zip (c.values.take 8))).map Prod.fst ++
          c.tables.map Prod.fst).Nodup := by
        have hLines : ((toTomlEntries ((names.take 8).zip (c.values.take 8))).map Prod.fst).Sublist
            (names.take 8) := names_zip_toTomlEntries (Nat.le_refl _)
        have hDistinct : (names.take 8 ++ names.drop 8).Nodup := by decide
        exact (hLines.append_right _).nodup hDistinct
      have hText : c.toText .toml = Toml.toPage (toTomlEntries (names.zip c.values)) := rfl
      rw [hText]
      exact settings?_toToml c.toTomlEntries_eq (Config.isGroup hFits) hTables hNames

/-! ### Texts -/

theorem Config.ofText?_toText {c : Config} (hFits : c.Fits) (hDigits : ReadsBack c.retry.multiplier)
    (format : Format) : ofText? format (c.toText format) =
      if format = .json ∧ c.retry.multiplier.isFinite = false then none else some c := by
  rw [ofText?, settings?_toText hFits hDigits, ofSetting?_seen hFits hDigits]

theorem Config.ofText_eq_ok_iff {format : Format} {text : String} {c : Config} :
    ofText format text = .ok c ↔ ofText? format text = some c ∧ c.validate = .ok () := by
  constructor
  · intro hRead
    unfold ofText at hRead
    split at hRead
    · cases hRead
    · rename_i d hFound
      split at hRead
      · cases hRead
      · rename_i hValid
        cases hRead
        exact ⟨hFound, hValid⟩
  · rintro ⟨hFound, hValid⟩
    rw [ofText, hFound]
    simp only [hValid]

theorem Config.ofText_of_fits {c : Config} (hFits : c.Fits) (hValid : c.validate = .ok ())
    (hDigits : ReadsBack c.retry.multiplier) (format : Format) :
    ofText format (c.toText format) =
      if format = .json ∧ c.retry.multiplier.isFinite = false then .error format.unreadable
      else .ok c := by
  have hBack := ofText?_toText hFits hDigits format
  split
  · rename_i hNull
    rw [if_pos hNull] at hBack
    rw [ofText, hBack]
  · rename_i hOther
    rw [if_neg hOther] at hBack
    exact ofText_eq_ok_iff.mpr ⟨hBack, hValid⟩

/-- What was read from some text, in either format, is read back from its own text in each format.
Only JSON refuses a multiplier that is no finite number. -/
theorem Config.ofText_toText {source : Format} {text : String} {c : Config}
    (hRead : ofText source text = .ok c) (hDigits : ReadsBack c.retry.multiplier) (format : Format) :
    ofText format (c.toText format) =
      if format = .json ∧ c.retry.multiplier.isFinite = false then .error format.unreadable
      else .ok c := by
  obtain ⟨hFound, hValid⟩ := ofText_eq_ok_iff.mp hRead
  obtain ⟨s, -, hSetting⟩ := Option.bind_eq_some_iff.mp hFound
  exact ofText_of_fits (fits_of_ofSetting? hSetting) hValid hDigits format

theorem Setting.readsBack_two : ReadsBack 2.0 where
  toml := fun _ => by
    have hChars : Toml.floatChars 2.0 = ['2', '.', '0'] := by decide +kernel
    have hFinite : (⟨false, ['2'], ['0'], none⟩ : Numeral).toFloat.isInf = false := by decide +kernel
    have hValue : (⟨false, ['2'], ['0'], none⟩ : Numeral).toFloat = 2.0 := by decide +kernel
    have hRead : Toml.scalar? ['2', '.', '0'] =
        some (if (⟨false, ['2'], ['0'], none⟩ : Numeral).toFloat.isInf then .huge
          else .float (⟨false, ['2'], ['0'], none⟩ : Numeral).toFloat) := rfl
    rw [hChars, hRead, hFinite, hValue]
    rfl
  json := fun n hNumeral => by
    have hWritten : Numeral.ofFloat? 2.0 = some ⟨false, ['2'], ['0'], none⟩ := by decide +kernel
    have hScaled : Json.scaleDown (Float.ofNat 20) 1 = 2.0 := by
      rw [Json.scaleDown, if_pos (by decide)]
      decide +kernel
    rw [hWritten] at hNumeral
    cases hNumeral
    show (some (Json.scaleDown (Float.ofNat 20) 1)).map _ = _
    rw [hScaled]
    rfl

theorem Setting.readsBack_of_not_finite {x : Float} (hName : x.isFinite = false) : ReadsBack x where
  toml := fun hFinite => by
    rw [hName] at hFinite
    cases hFinite
  json := fun n hNumeral => by
    rw [(ofFloat?_eq_none_iff x).mpr hName] at hNumeral
    cases hNumeral

/-- Every other setting as it is by default. -/
theorem Config.fits_of_multiplier (m : Float) : ({ retry := { multiplier := m } } : Config).Fits where
  workers := (by decide : 1 ≤ maxWord)
  channelCapacity := (by decide : 100 ≤ maxWord)
  batchSize := (by decide : 10000 ≤ maxWord)
  limit := nofun
  batchDelayMs := (by decide : 0 ≤ maxWord)
  reportingPeriodMs := (by decide : 10000 ≤ maxWord)
  retry := ⟨(by decide : 10 ≤ maxHalfWord), (by decide : 5 ≤ maxWord), (by decide : 125 ≤ maxWord),
    (by decide : 1000 ≤ maxWord)⟩

theorem Config.validate_of_multiplier {m : Float} (hAtLeast : 1.0 ≤ m) :
    ({ retry := { multiplier := m } } : Config).validate = .ok () :=
  validate_of_acceptable {
    workers := Nat.le_refl 1
    channelCapacity := (by decide : 1 ≤ 100)
    batchSize := (by decide : 1 ≤ 10000)
    maxRetries := (by decide : 1 ≤ 10)
    multiplier := .inl hAtLeast
    urls := List.cons_ne_nil _ _
    database := (by decide : "benchmark" ≠ "")
    window := (by decide : 5 ≤ 125)
    web := List.forall_mem_singleton.mpr (by decide +kernel : isHttpUrl "http://localhost:8086" = true)
    limit := nofun }

/-- The defaults, written in TOML and accepted, are read back from JSON. -/
theorem Config.ofText_toText_default :
    ofText .toml (({ retry := { multiplier := 2.0 } } : Config).toText .toml) =
        .ok { retry := { multiplier := 2.0 } } ∧ ReadsBack 2.0 ∧
      ofText .json (({ retry := { multiplier := 2.0 } } : Config).toText .json) =
        .ok { retry := { multiplier := 2.0 } } := by
  have hRead : ofText .toml (({ retry := { multiplier := 2.0 } } : Config).toText .toml) =
      .ok { retry := { multiplier := 2.0 } } :=
    ofText_of_fits (fits_of_multiplier 2.0) (validate_of_multiplier (by decide +kernel))
      readsBack_two .toml
  refine ⟨hRead, readsBack_two, (ofText_toText hRead readsBack_two .json).trans (if_neg ?_)⟩
  decide +kernel

/-- With an infinite multiplier the text in TOML is accepted, and the text in JSON is refused. -/
theorem Config.ofText_toText_infinite :
    ofText .toml (({ retry := { multiplier := 1.0 / 0.0 } } : Config).toText .toml) =
        .ok { retry := { multiplier := 1.0 / 0.0 } } ∧
      ofText .json (({ retry := { multiplier := 1.0 / 0.0 } } : Config).toText .json) =
        .error Format.json.unreadable := by
  have hName : (1.0 / 0.0 : Float).isFinite = false := by decide +kernel
  have hBack := ofText_of_fits (fits_of_multiplier (1.0 / 0.0))
    (validate_of_multiplier (by decide +kernel)) (readsBack_of_not_finite hName)
  exact ⟨hBack .toml, (hBack .json).trans (if_pos ⟨rfl, hName⟩)⟩

end BulkLoad
