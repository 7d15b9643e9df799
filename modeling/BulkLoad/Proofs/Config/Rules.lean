import BulkLoad.Config.Rules
import BulkLoad.Proofs.Decimal.Doubles

/-!
Which configurations are accepted, and which rule is named where one is not.

A table of findings may give its entries in any order: sorted by name they are the same. So what is
looked through field by field comes to a list of rules in a fixed order, of which the first broken
one is named.
-/
namespace BulkLoad.Config

namespace Finding

variable {order : TableOrder} {path : String} {fields sorted : List (String × Option Finding)}

theorem firsts_eq_map (order : TableOrder) (path : String) (table : List (String × Finding)) :
    firsts order path table =
      table.map fun entry => (entry.1, first? order (join path entry.1) entry.2) := by
  induction table with
  | nil => rfl
  | cons entry table ih =>
      obtain ⟨name, finding⟩ := entry
      rw [firsts, ih]
      rfl

theorem pairwise_byName (entries : List (String × Option Violation)) :
    (entries.mergeSort byName).Pairwise fun a b => a.1 ≤ b.1 := by
  have hTrans : ∀ a b c, byName a b = true → byName b c = true → byName a c = true := by
    intro a b c hab hbc
    simp only [byName, decide_eq_true_iff] at hab hbc ⊢
    exact String.le_trans hab hbc
  have hTotal : ∀ a b, (byName a b || byName b a) = true := by
    intro a b
    simp only [byName, Bool.or_eq_true, decide_eq_true_iff]
    exact String.le_total a.1 b.1
  apply (List.pairwise_mergeSort hTrans hTotal entries).imp
  intro a b hab
  exact of_decide_eq_true hab

/-- Entries of different names can be sorted in one way only. -/
theorem mergeSort_arrange {entries ranked : List (String × Option Violation)}
    (hPerm : entries.Perm ranked) (hRanked : ranked.Pairwise fun a b => a.1 < b.1) :
    (order.arrange entries).mergeSort byName = ranked := by
  have hSame : ((order.arrange entries).mergeSort byName).Perm ranked :=
    (List.mergeSort_perm ..).trans ((order.perm entries).trans hPerm)
  have hSorted := pairwise_byName (order.arrange entries)
  have hAtMost : ranked.Pairwise fun a b => a.1 ≤ b.1 := hRanked.imp le_of_lt
  apply List.Perm.eq_of_pairwise ?_ hSorted hAtMost hSame
  have hDistinct : (ranked.map Prod.fst).Nodup := List.pairwise_map.mpr (hRanked.imp ne_of_lt)
  intro a b ha hb hab hba
  exact List.inj_on_of_nodup_map hDistinct (hSame.subset ha) hb (String.le_antisymm hab hba)

theorem firsts_found (order : TableOrder) (path : String)
    (fields : List (String × Option Finding)) :
    firsts order path (found fields) = fields.filterMap fun field =>
      field.2.map fun finding => (field.1, first? order (join path field.1) finding) := by
  rw [firsts_eq_map, found, List.map_filterMap]
  congr
  funext field
  cases field.2 <;> rfl

theorem findSome?_filterMap {α β γ : Type} (f : α → Option β) (g : β → Option γ) (l : List α) :
    (l.filterMap f).findSome? g = l.findSome? fun a => (f a).bind g := by
  induction l with
  | nil => rfl
  | cons a l ih =>
      rw [List.findSome?_cons, List.filterMap_cons]
      cases f a with
      | none => exact ih
      | some b => rw [List.findSome?_cons, ih]; rfl

/-- The first violation at fields of different names, whatever the order in which a table gives
them. -/
theorem least?_firsts (order : TableOrder) (path : String) (hPerm : fields.Perm sorted)
    (hSorted : (sorted.map Prod.fst).Pairwise (· < ·)) :
    least? order (firsts order path (found fields)) =
      sorted.findSome? fun field => field.2.bind (first? order (join path field.1)) := by
  rw [least?, firsts_found, mergeSort_arrange (hPerm.filterMap _), findSome?_filterMap]
  · congr
    funext field
    cases field.2 <;> rfl
  · rw [List.pairwise_map] at hSorted
    rw [List.pairwise_filterMap]
    apply hSorted.imp
    rintro a b hLess x hx y hy
    obtain ⟨_, -, rfl⟩ := Option.map_eq_some_iff.mp hx
    obtain ⟨_, -, rfl⟩ := Option.map_eq_some_iff.mp hy
    exact hLess

theorem first?_nested (order : TableOrder) (path : String)
    (fields : List (String × Option Finding)) :
    (nested fields).bind (first? order path) = least? order (firsts order path (found fields)) := by
  unfold nested
  split
  · rename_i hNone
    have hEmpty : order.arrange [] = [] := (order.perm []).eq_nil
    rw [hNone, firsts, least?, hEmpty, List.mergeSort_nil]
    rfl
  · rw [Option.bind_some, first?]

end Finding

/-! ### The rules in their order -/

open Finding

/-- A rule, and whether a configuration keeps it. -/
structure Rule where
  field : String
  message : String
  kept : Bool

def Rule.violation? (r : Rule) : Option Violation :=
  if r.kept then none else some ⟨r.field, r.message⟩

/-- The rules about single fields. What is no number is not below one. -/
def fieldRules (c : Config) : List Rule :=
  [⟨"batch_size", "must be >= 1", 1 ≤ c.batchSize⟩,
    ⟨"channel_capacity", "must be >= 1", 1 ≤ c.channelCapacity⟩,
    ⟨"influx.database", "must have length >= 1", c.influx.database ≠ ""⟩,
    ⟨"influx.urls", "must have length >= 1", c.influx.urls ≠ []⟩,
    ⟨"retry.max_retries", "must be >= 1", 1 ≤ c.retry.maxRetries⟩,
    ⟨"retry.multiplier", "must be >= 1.0", 1.0 ≤ c.retry.multiplier ∨ c.retry.multiplier.isNaN⟩,
    ⟨"workers", "must be >= 1", 1 ≤ c.workers⟩]

def windowRule (r : RetryConfig) : Rule :=
  ⟨"retry.base_delay_ms / retry.max_delay_ms",
    "base_delay_ms (" ++ toString r.baseDelayMs ++ ") must be <= max_delay_ms ("
      ++ toString r.maxDelayMs ++ ")",
    r.baseDelayMs ≤ r.maxDelayMs⟩

/-- The rule about the url of that index. -/
def urlRule (index : Nat) (url : String) : Rule :=
  ⟨"influx.urls[" ++ toString index ++ "]", "'" ++ url ++ "' must start with http:// or https://",
    isHttpUrl url⟩

def limitRule (c : Config) : Rule :=
  ⟨"limit", "limit must be > 0 (omit it to load the whole source)", c.limit ≠ some 0⟩

def rules (c : Config) : List Rule :=
  fieldRules c ++ windowRule c.retry :: c.influx.urls.mapIdx urlRule ++ [limitRule c]

theorem decide_eq_not_decide {p q : Prop} [Decidable p] [Decidable q] (h : p ↔ ¬q) :
    decide p = !decide q := by
  rw [← decide_not, decide_eq_decide]
  exact h

theorem head?_brokenIf {broken kept : Bool} (hKept : kept = !broken) (field message : String) :
    (brokenIf broken field message).head? = Rule.violation? ⟨field, message, kept⟩ := by
  subst hKept
  cases broken <;> rfl

theorem first?_tooSmall {below kept : Bool} (hKept : kept = !below) (order : TableOrder)
    (path least : String) :
    (tooSmall least below).bind (first? order path) =
      Rule.violation? ⟨path, "must be >= " ++ least, kept⟩ := by
  subst hKept
  cases below <;> rfl

theorem first?_tooShort {short kept : Bool} (hKept : kept = !short) (order : TableOrder)
    (path least : String) :
    (tooShort least short).bind (first? order path) =
      Rule.violation? ⟨path, "must have length >= " ++ least, kept⟩ := by
  subst hKept
  cases short <;> rfl

theorem findSome?_cons_or {α β : Type} (f : α → Option β) (a : α) (l : List α) :
    (a :: l).findSome? f = (f a).or (l.findSome? f) := by
  rw [List.findSome?_cons]
  cases f a <;> rfl

theorem first?_retryFields (order : TableOrder) (r : RetryConfig) :
    (nested (retryFields r)).bind (first? order "retry") =
      (Rule.violation? ⟨"retry.max_retries", "must be >= 1", 1 ≤ r.maxRetries⟩).or
        (Rule.violation? ⟨"retry.multiplier", "must be >= 1.0",
          1.0 ≤ r.multiplier ∨ r.multiplier.isNaN⟩) := by
  have hRetries := first?_tooSmall (decide_eq_not_decide (p := 1 ≤ r.maxRetries) Nat.not_lt.symm)
    order "retry.max_retries" "1"
  have hMultiplier := first?_tooSmall
    (decide_eq_not_decide (Decimal.Binary.not_lt_one_iff r.multiplier).symm)
    order "retry.multiplier" "1.0"
  have hSorted : ["max_retries", "multiplier"].Pairwise (· < ·) := by decide
  rw [first?_nested, least?_firsts order "retry" (.refl (retryFields r)) hSorted]
  simp only [retryFields, findSome?_cons_or, List.findSome?_nil, Option.or_none]
  exact congr (congrArg Option.or hRetries) hMultiplier

theorem first?_influxFields (order : TableOrder) (i : InfluxConfig) :
    (nested (influxFields i)).bind (first? order "influx") =
      (Rule.violation? ⟨"influx.database", "must have length >= 1", i.database ≠ ""⟩).or
        (Rule.violation? ⟨"influx.urls", "must have length >= 1", i.urls ≠ []⟩) := by
  have hDatabase : (tooShort "1" (i.database.length < 1)).bind (first? order "influx.database") =
      Rule.violation? ⟨"influx.database", "must have length >= 1", i.database ≠ ""⟩ :=
    first?_tooShort (decide_eq_not_decide (by simp)) order "influx.database" "1"
  have hUrls : (tooShort "1" (i.urls.length < 1)).bind (first? order "influx.urls") =
      Rule.violation? ⟨"influx.urls", "must have length >= 1", i.urls ≠ []⟩ :=
    first?_tooShort (decide_eq_not_decide (by simp)) order "influx.urls" "1"
  have hPerm : (influxFields i).Perm [("database", tooShort "1" (i.database.length < 1)),
    ("urls", tooShort "1" (i.urls.length < 1))] := .swap ..
  have hSorted : ["database", "urls"].Pairwise (· < ·) := by decide
  rw [first?_nested, least?_firsts order "influx" hPerm hSorted]
  simp only [findSome?_cons_or, List.findSome?_nil, Option.or_none]
  exact congr (congrArg Option.or hDatabase) hUrls

/-- The fields by name. -/
theorem fields_perm (c : Config) : c.fields.Perm
    [("batch_size", tooSmall "1" (c.batchSize < 1)),
      ("channel_capacity", tooSmall "1" (c.channelCapacity < 1)),
      ("influx", nested (influxFields c.influx)), ("retry", nested (retryFields c.retry)),
      ("workers", tooSmall "1" (c.workers < 1))] := by
  apply (List.perm_append_singleton _ _).symm.trans
  apply (List.Perm.swap ..).trans
  exact ((List.Perm.swap ..).cons _).cons _

/-- Looked through field by field, a configuration is looked through rule by rule. -/
theorem first?_fields (order : TableOrder) (c : Config) :
    first? order "" (.record (found c.fields)) = (fieldRules c).findSome? Rule.violation? := by
  have hSorted : ["batch_size", "channel_capacity", "influx", "retry", "workers"].Pairwise
    (· < ·) := by decide
  rw [first?, least?_firsts order "" (fields_perm c) hSorted, fieldRules]
  simp only [findSome?_cons_or, List.findSome?_nil, Option.or_none]
  have hLeast : ∀ {n : Nat} (path : String), (tooSmall "1" (n < 1)).bind (first? order path) =
      Rule.violation? ⟨path, "must be >= 1", 1 ≤ n⟩ := fun path =>
    first?_tooSmall (decide_eq_not_decide Nat.not_lt.symm) order path "1"
  have hJoin : ∀ name, join "" name = name := fun name => if_pos rfl
  simp only [hJoin, hLeast, first?_influxFields, first?_retryFields, Option.or_assoc]

theorem head?_urlViolations (first : Nat) (urls : List String) :
    (urlViolations first urls).head? =
      (urls.mapIdx fun i => urlRule (first + i)).findSome? Rule.violation? := by
  induction urls generalizing first with
  | nil => rfl
  | cons url urls ih =>
      have hHead : (urlViolations first (url :: urls)).head? =
          (urlRule first url).violation?.or (urlViolations (first + 1) urls).head? := by
        rw [urlViolations, List.head?_append, head?_brokenIf (Bool.not_not _).symm]
        rfl
      have hNext : (fun i => urlRule (first + (i + 1))) = fun i => urlRule (first + 1 + i) := by
        funext i
        rw [Nat.add_right_comm, Nat.add_assoc]
      rw [hHead, ih, List.mapIdx_cons, findSome?_cons_or, hNext]
      rfl

theorem head?_violationsIn (order : Finding.TableOrder) (c : Config) :
    (c.violationsIn order).head? = c.rules.findSome? Rule.violation? := by
  have hWindow : (retryWindow c.retry).head? = (windowRule c.retry).violation? :=
    head?_brokenIf (decide_eq_not_decide Nat.not_lt.symm) ..
  have hUrls : (urlViolations 0 c.influx.urls).head? =
      (c.influx.urls.mapIdx urlRule).findSome? Rule.violation? := by
    simpa only [Nat.zero_add] using head?_urlViolations 0 c.influx.urls
  have hLimit : (brokenIf (c.limit = some 0) "limit"
      "limit must be > 0 (omit it to load the whole source)").head? = (limitRule c).violation? :=
    head?_brokenIf (decide_eq_not_decide Iff.rfl) ..
  rw [violationsIn, rules]
  simp only [List.head?_append, List.findSome?_append, findSome?_cons_or, List.findSome?_nil,
    Option.or_none, Option.or_assoc, Option.head?_toList, hWindow, hUrls, hLimit, first?_fields]

/-! ### Accepting -/

/-- The first broken rule decides. -/
theorem validateIn_eq (order : TableOrder) (c : Config) : c.validateIn order =
    (c.rules.findSome? Rule.violation?).elim (.ok ()) fun v => .error v.fault := by
  rw [← head?_violationsIn order, validateIn]
  cases c.violationsIn order <;> rfl

theorem validate_eq (c : Config) : c.validate =
    (c.rules.findSome? Rule.violation?).elim (.ok ()) fun v => .error v.fault :=
  validateIn_eq .asMade c

theorem violation?_eq_none_iff {r : Rule} : r.violation? = none ↔ r.kept = true := by
  unfold Rule.violation?
  cases r.kept <;> simp

theorem violation?_eq_some_iff {r : Rule} {v : Violation} :
    r.violation? = some v ↔ r.kept = false ∧ v = ⟨r.field, r.message⟩ := by
  unfold Rule.violation?
  cases r.kept <;> simp [eq_comm]

/-- What is asked of a configuration, except that the multiplier may be no number. -/
structure Acceptable (c : Config) : Prop where
  workers : 1 ≤ c.workers
  channelCapacity : 1 ≤ c.channelCapacity
  batchSize : 1 ≤ c.batchSize
  maxRetries : 1 ≤ c.retry.maxRetries
  multiplier : 1.0 ≤ c.retry.multiplier ∨ c.retry.multiplier.isNaN = true
  urls : c.influx.urls ≠ []
  database : c.influx.database ≠ ""
  window : c.retry.baseDelayMs ≤ c.retry.maxDelayMs
  web : ∀ url ∈ c.influx.urls, isHttpUrl url = true
  limit : c.limit ≠ some 0

theorem kept_rules_iff (c : Config) : (∀ r ∈ c.rules, r.kept = true) ↔ c.Acceptable := by
  have hUrls : (∀ r ∈ c.influx.urls.mapIdx urlRule, r.kept = true) ↔
      ∀ url ∈ c.influx.urls, isHttpUrl url = true := by
    constructor
    · intro hRules url hUrl
      obtain ⟨i, hi, rfl⟩ := List.mem_iff_getElem.mp hUrl
      exact hRules _ (List.mem_mapIdx.mpr ⟨i, hi, rfl⟩)
    · intro hWeb r hRule
      obtain ⟨i, hi, rfl⟩ := List.mem_mapIdx.mp hRule
      exact hWeb _ (List.getElem_mem hi)
  simp only [rules, fieldRules, windowRule, limitRule, List.forall_mem_append, List.forall_mem_cons,
    hUrls, decide_eq_true_iff]
  constructor
  · rintro ⟨⟨⟨hBatch, hCapacity, hDatabase, hNamed, hRetries, hMultiplier, hWorkers, -⟩, hWindow, hWeb⟩,
      hLimit, -⟩
    exact ⟨hWorkers, hCapacity, hBatch, hRetries, hMultiplier, hNamed, hDatabase, hWindow, hWeb, hLimit⟩
  · intro h
    exact ⟨⟨⟨h.batchSize, h.channelCapacity, h.database, h.urls, h.maxRetries, h.multiplier, h.workers,
      nofun⟩, h.window, h.web⟩, h.limit, nofun⟩

theorem acceptable_of_validate {c : Config} (hValid : c.validate = .ok ()) : c.Acceptable := by
  rw [validate_eq] at hValid
  cases hFirst : c.rules.findSome? Rule.violation? with
  | none =>
      rw [← kept_rules_iff]
      intro r hRule
      exact violation?_eq_none_iff.mp (List.findSome?_eq_none_iff.mp hFirst r hRule)
  | some v =>
      rw [hFirst] at hValid
      cases hValid

theorem validate_of_acceptable {c : Config} (hAcceptable : c.Acceptable) : c.validate = .ok () := by
  have hNone : c.rules.findSome? Rule.violation? = none := by
    apply List.findSome?_eq_none_iff.mpr
    intro r hRule
    exact violation?_eq_none_iff.mpr ((kept_rules_iff c).mpr hAcceptable r hRule)
  rw [validate_eq, hNone]
  rfl

theorem validate_eq_error_iff (c : Config) (fault : Fault) :
    c.validate = .error fault ↔ ∃ v, c.rules.findSome? Rule.violation? = some v ∧ fault = v.fault := by
  rw [validate_eq]
  cases c.rules.findSome? Rule.violation? with
  | none => simp
  | some v => simp [eq_comm]

/-- A configuration is accepted just if it is acceptable. Otherwise the rule that is named is the
first broken one in the order of the rules, whichever are broken. The order in which tables give
their entries makes no difference. -/
theorem validate_names_first_broken (c : Config) :
    (∀ order, c.validateIn order = c.validate) ∧
      (c.validate = .ok () ↔ c.Acceptable) ∧
      (∀ fault, c.validate = .error fault ↔
        ∃ kept r others, c.rules = kept ++ r :: others ∧ (∀ q ∈ kept, q.kept = true) ∧
          r.kept = false ∧ fault = .configRule r.field r.message) := by
  refine ⟨fun order => ?_, ⟨acceptable_of_validate, validate_of_acceptable⟩, fun fault => ?_⟩
  · rw [validateIn_eq, validate_eq]
  · rw [validate_eq_error_iff]
    constructor
    · rintro ⟨v, hFirst, rfl⟩
      obtain ⟨kept, r, others, hRules, hViolation, hKept⟩ := List.findSome?_eq_some_iff.mp hFirst
      obtain ⟨hBroken, rfl⟩ := violation?_eq_some_iff.mp hViolation
      exact ⟨kept, r, others, hRules, fun q hq => violation?_eq_none_iff.mp (hKept q hq), hBroken, rfl⟩
    · rintro ⟨kept, r, others, hRules, hKept, hBroken, rfl⟩
      refine ⟨⟨r.field, r.message⟩, ?_, rfl⟩
      apply List.findSome?_eq_some_iff.mpr
      exact ⟨kept, r, others, hRules, violation?_eq_some_iff.mpr ⟨hBroken, rfl⟩,
        fun q hq => violation?_eq_none_iff.mpr (hKept q hq)⟩

/-- A multiplier that is no number is accepted although it is not at least one. -/
theorem validate_noNumber :
    let c : Config := { retry := { multiplier := 0.0 / 0.0 } }
    c.validate = .ok () ∧ ¬ 1.0 ≤ c.retry.multiplier := by
  intro c
  have hNone : c.violations = [] := by decide +kernel
  exact ⟨by rw [Config.validate, hNone], by decide +kernel⟩

end BulkLoad.Config
