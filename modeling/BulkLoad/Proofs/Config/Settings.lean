import BulkLoad.Config.Text
import BulkLoad.Proofs.Json.RoundTrip
import BulkLoad.Proofs.Toml.RoundTrip

/-!
Settings written in a format and read again.

`seen` is what a reader finds of a setting that was written: nothing of an absent one in TOML, where
it is left out, and in JSON nothing but a null of a double that is no finite number. All else is
found as it was.
-/
namespace BulkLoad

open Decimal

namespace Setting

/-! ### Members by their names -/

/-- The members under some names, in order; what is not given is left out. -/
def given : List String → List (Option Setting) → List (String × Setting)
  | name :: names, value :: values => (value.toList.map fun s => (name, s)) ++ given names values
  | _, _ => []

section Given

variable {name : String} {names : List String} {values : List (Option Setting)}
variable {members : List (String × Setting)}

theorem fst_of_mem_given {m : String × Setting} (hMem : m ∈ given names values) : m.1 ∈ names := by
  induction names generalizing values with
  | nil => cases values <;> cases hMem
  | cons name names ih =>
      cases values with
      | nil => cases hMem
      | cons value values =>
          obtain hHead | hTail := List.mem_append.mp hMem
          · obtain ⟨s, -, rfl⟩ := List.mem_map.mp hHead
            exact List.mem_cons_self ..
          · exact List.mem_cons_of_mem _ (ih hTail)

theorem givenAs_append (more : List (String × Setting)) :
    givenAs name (members ++ more) = givenAs name members ++ givenAs name more := by
  rw [givenAs, List.filter_append, List.map_append]
  rfl

theorem givenAs_of_fresh (hFresh : ∀ m ∈ members, m.1 ≠ name) : givenAs name members = [] := by
  rw [givenAs, List.map_eq_nil_iff, List.filter_eq_nil_iff]
  intro m hm hName
  exact hFresh m hm (by simpa using hName)

theorem givenAs_toList (value : Option Setting) :
    givenAs name (value.toList.map fun s => (name, s)) = value.toList := by
  cases value with
  | none => rfl
  | some s => simp [givenAs]

theorem single?_toList (value : Option Setting) : single? value.toList = some value := by
  cases value <;> rfl

/-- Behind members of other names, each value is found under its name. -/
theorem mapM_single?_given (hNames : names.Nodup) (hLength : values.length = names.length)
    (hFresh : ∀ m ∈ members, m.1 ∉ names) :
    (names.mapM fun name => single? (givenAs name (members ++ given names values))) =
      some values := by
  -- the members of the names gone by move to the front, where no later name finds them
  induction names generalizing values members with
  | nil => cases values with
    | nil => rfl
    | cons value values => cases hLength
  | cons name names ih =>
      cases values with
      | nil => cases hLength
      | cons value values =>
          obtain ⟨hNew, hDistinct⟩ := List.nodup_cons.mp hNames
          have hHead : single? (givenAs name (members ++ given (name :: names) (value :: values))) =
              some value := by
            have hBefore : givenAs name members = [] :=
              givenAs_of_fresh fun m hm hName => hFresh m hm (hName ▸ List.mem_cons_self ..)
            have hAfter : givenAs name (given names values) = [] :=
              givenAs_of_fresh fun m hm hName => hNew (hName ▸ fst_of_mem_given hm)
            rw [given, givenAs_append, givenAs_append, hBefore, hAfter, givenAs_toList,
              List.nil_append, List.append_nil, single?_toList]
          have hOthers : ∀ m ∈ members ++ value.toList.map (fun s => (name, s)), m.1 ∉ names := by
            intro m hm
            obtain hOld | hThis := List.mem_append.mp hm
            · exact fun hMem => hFresh m hOld (List.mem_cons_of_mem _ hMem)
            · obtain ⟨s, -, rfl⟩ := List.mem_map.mp hThis
              exact hNew
          have hTail := ih hDistinct (Nat.succ.inj hLength) hOthers
          rw [List.append_assoc] at hTail
          rw [List.mapM_cons, hHead, given, hTail]
          rfl

/-- The values given under distinct names are found by those names. -/
theorem members?_given (format : Format) (hNames : names.Nodup)
    (hLength : values.length = names.length) :
    members? format names (.group (given names values)) = some values := by
  have hKnown : unknown names (given names values) = [] := by
    rw [unknown, List.filter_eq_nil_iff]
    intro m hm
    simp [fst_of_mem_given hm]
  have hFound : (names.mapM fun name => single? (givenAs name ([] ++ given names values))) =
      some values := mapM_single?_given hNames hLength nofun
  rw [members?, hKnown, membersAreHarmless, if_pos rfl]
  exact hFound

end Given

/-! ### What is found of a setting -/

/-- What a reader finds of a setting written in a format. -/
def seen : Format → Setting → Option Setting
  | .toml, s => (toToml? s).map ofToml
  | .json, s => some (ofJson (toJson s))

theorem ofTomlEntries_toTomlEntries (names : List String) (values : List Setting) :
    ofTomlEntries (toTomlEntries (names.zip values)) = given names (values.map (seen .toml)) := by
  induction names generalizing values with
  | nil => cases values <;> rfl
  | cons name names ih =>
      cases values with
      | nil => rfl
      | cons s values =>
          rw [List.zip_cons_cons, toTomlEntries, List.map_cons, given, ← ih, seen]
          cases toToml? s <;> rfl

theorem ofJsonMembers?_toJsonMembers (names : List String) (values : List Setting) :
    ofJsonMembers? (toJsonMembers (names.zip values)) =
      some (given names (values.map (seen .json))) := by
  induction names generalizing values with
  | nil => cases values <;> rfl
  | cons name names ih =>
      cases values with
      | nil => rfl
      | cons s values =>
          rw [List.zip_cons_cons, toJsonMembers, ofJsonMembers?, ih]
          rfl

/-- Of a group its members are found, each as far as it is found itself. -/
theorem seen_group (format : Format) (names : List String) (values : List Setting) :
    seen format (.group (names.zip values)) =
      some (.group (given names (values.map (seen format)))) := by
  cases format with
  | toml => rw [seen, toToml?, Option.map_some, ofToml, ofTomlEntries_toTomlEntries]
  | json =>
      rw [seen, toJson, ofJson, ofJsonMembers?_toJsonMembers]
      rfl

@[simp] theorem seen_bool (format : Format) (b : Bool) : seen format (.bool b) = some (.bool b) := by
  cases format <;> rfl

@[simp] theorem seen_text (format : Format) (s : String) : seen format (.text s) = some (.text s) := by
  cases format <;> rfl

theorem toTomlItems_texts (ss : List String) : toTomlItems (ss.map .text) = ss.map .text := by
  induction ss with
  | nil => rfl
  | cons s ss ih =>
      show .text s :: toTomlItems (ss.map .text) = _
      rw [ih, List.map_cons]

theorem ofTomlItems_texts (ss : List String) : ofTomlItems (ss.map .text) = ss.map .text := by
  induction ss with
  | nil => rfl
  | cons s ss ih =>
      show .text s :: ofTomlItems (ss.map .text) = _
      rw [ih, List.map_cons]

theorem ofJsonItems_texts (ss : List String) :
    ofJsonItems (toJsonItems (ss.map .text)) = ss.map .text := by
  induction ss with
  | nil => rfl
  | cons s ss ih =>
      show .text s :: ofJsonItems (toJsonItems (ss.map .text)) = _
      rw [ih, List.map_cons]

@[simp] theorem seen_texts (format : Format) (ss : List String) :
    seen format (.list (ss.map .text)) = some (.list (ss.map .text)) := by
  cases format with
  | toml => rw [seen, toToml?, Option.map_some, ofToml, toTomlItems_texts, ofTomlItems_texts]
  | json => rw [seen, toJson, ofJson, ofJsonItems_texts]

theorem ofNumeral_ofInt {n : Nat} (hWord : n < Nat.pow 2 64) :
    ofNumeral (.ofInt n) = .integer n := by
  have hSize : natOfDigits (Numeral.ofInt n).whole = n := natOfDigits_digits n
  have hPositive : ¬ (Numeral.ofInt n).negative := by
    simp [Numeral.ofInt]
  rw [ofNumeral, hSize, if_pos ⟨rfl, hWord, hPositive⟩]

theorem seen_natural (format : Format) {n : Nat} (hWord : n < Nat.pow 2 64) :
    seen format (.integer n) = some (.integer n) := by
  cases format with
  | toml => rfl
  | json => rw [seen, toJson, Json.int, ofJson, ofNumeral_ofInt hWord]

/-- The digits that are written for a double are read as the same double, in either format. -/
structure ReadsBack (x : Float) : Prop where
  toml : x.isFinite = true → Toml.scalar? (Toml.floatChars x) = some (.float x)
  json : ∀ n, Numeral.ofFloat? x = some n → Json.double? n = some x

theorem ofFloat?_eq_none_iff (x : Float) : Numeral.ofFloat? x = none ↔ x.isFinite = false := by
  have hFinite := Binary.isFinite_iff x
  rw [Numeral.ofFloat?]
  cases hValue : Binary.ofFloat x with
  | finite negative m q => simp [hFinite.mpr ⟨negative, m, q, hValue⟩]
  | infinite negative =>
      rw [hValue] at hFinite
      simpa using hFinite
  | nan =>
      rw [hValue] at hFinite
      simpa using hFinite

/-- In JSON a double that is no finite number is written as a null. -/
theorem seen_float {x : Float} (hDigits : ReadsBack x) (format : Format) :
    seen format (.float x) =
      some (if format = .json ∧ x.isFinite = false then .absent else .float x) := by
  cases format with
  | toml => rfl
  | json =>
      rw [seen, toJson, Json.float]
      cases hNumeral : Numeral.ofFloat? x with
      | none =>
          rw [if_pos ⟨rfl, (ofFloat?_eq_none_iff x).mp hNumeral⟩]
          rfl
      | some n =>
          have hFinite : ¬ x.isFinite = false := fun hName => by
            rw [(ofFloat?_eq_none_iff x).mpr hName] at hNumeral
            cases hNumeral
          have hPoint := (Numeral.proper_of_ofFloat? hNumeral).2
          have hRead : ofNumeral n = .float x := by
            simp [ofNumeral, hPoint, hDigits.json n hNumeral]
          rw [if_neg fun hBoth => hFinite hBoth.2, Json.option, ofJson, hRead]

/-! ### Values written properly -/

theorem isSome_toJsonMembers (members : List (String × Setting)) :
    ∀ m ∈ toJsonMembers members, m.1.isSome = true := by
  induction members with
  | nil => nofun
  | cons m members ih => exact List.forall_mem_cons.mpr ⟨rfl, ih⟩

mutual

/-- However a setting is made up, its JSON value is proper. -/
theorem proper_toJson : (s : Setting) → (toJson s).Proper
  | .absent => .null
  | .integer n => .number (Numeral.proper_ofInt n)
  | .float x => by
      rw [toJson, Json.float]
      cases hNumeral : Numeral.ofFloat? x with
      | none => exact .null
      | some n => exact .number (Numeral.proper_of_ofFloat? hNumeral).1
  | .bool b => .bool b
  | .text s => .text s
  | .list items => .array (proper_toJsonItems items)
  | .group members => .object (isSome_toJsonMembers members) (proper_toJsonMembers members)
  | .moment => .null
  | .unfit => .null
  | .huge => .null

theorem proper_toJsonItems : (ss : List Setting) → ∀ v ∈ toJsonItems ss, v.Proper
  | [] => nofun
  | s :: ss => List.forall_mem_cons.mpr ⟨proper_toJson s, proper_toJsonItems ss⟩

theorem proper_toJsonMembers :
    (members : List (String × Setting)) → ∀ m ∈ toJsonMembers members, m.2.Proper
  | [] => nofun
  | (_, s) :: ms => List.forall_mem_cons.mpr ⟨proper_toJson s, proper_toJsonMembers ms⟩

end

theorem settings?_toJson (s : Setting) :
    Format.json.settings? (Json.toPage (toJson s)) = seen .json s := by
  rw [Format.settings?, Json.parse?_toPage (proper_toJson s)]
  rfl

section TomlEntries

variable {members : List (String × Setting)}

theorem toTomlEntries_append (members more : List (String × Setting)) :
    toTomlEntries (members ++ more) = toTomlEntries members ++ toTomlEntries more := by
  induction members with
  | nil => rfl
  | cons m members ih =>
      obtain ⟨name, s⟩ := m
      rw [List.cons_append, toTomlEntries, toTomlEntries, ih, List.append_assoc]

theorem mem_toTomlEntries {e : String × Toml} (hMem : e ∈ toTomlEntries members) :
    ∃ m ∈ members, m.1 = e.1 ∧ toToml? m.2 = some e.2 := by
  induction members with
  | nil => cases hMem
  | cons m members ih =>
      obtain ⟨name, s⟩ := m
      obtain hHead | hTail := List.mem_append.mp hMem
      · obtain ⟨v, hv, rfl⟩ := List.mem_map.mp hHead
        exact ⟨_, List.mem_cons_self .., rfl, Option.mem_toList.mp hv⟩
      · obtain ⟨m, hm, hSame⟩ := ih hTail
        exact ⟨m, List.mem_cons_of_mem _ hm, hSame⟩

theorem names_toTomlEntries (members : List (String × Setting)) :
    ((toTomlEntries members).map Prod.fst).Sublist (members.map Prod.fst) := by
  induction members with
  | nil => exact .slnil
  | cons m members ih =>
      obtain ⟨name, s⟩ := m
      rw [toTomlEntries]
      cases toToml? s with
      | none => exact ih.cons name
      | some v => exact ih.cons_cons name

/-- A setting that stands on a line of its own in TOML, if it is written there at all. -/
def IsPlain (s : Setting) : Prop := ∀ v, toToml? s = some v → Toml.Proper Toml.maxDepth v

theorem isPlain_absent : IsPlain .absent := nofun

theorem isPlain_natural {n : Nat} (hRange : n < Nat.pow 2 128) : IsPlain (.integer n) := by
  rintro v ⟨⟩
  exact .natural hRange

theorem isPlain_bool (b : Bool) : IsPlain (.bool b) := by
  rintro v ⟨⟩
  exact .bool b

theorem isPlain_text (s : String) : IsPlain (.text s) := by
  rintro v ⟨⟩
  exact .text s

theorem isPlain_texts (ss : List String) : IsPlain (.list (ss.map .text)) := by
  rintro v ⟨⟩
  rw [toTomlItems_texts]
  apply Toml.Proper.array
  intro v hv
  obtain ⟨s, -, rfl⟩ := List.mem_map.mp hv
  exact .text s

/-- A double that is no finite number is written by its name. -/
theorem isPlain_float {x : Float} (hDigits : ReadsBack x) : IsPlain (.float x) := by
  rintro v ⟨⟩
  cases hFinite : x.isFinite with
  | true => exact .float (hDigits.toml hFinite)
  | false => exact .float (Toml.scalar?_floatChars_of_not_finite hFinite)

variable {names : List String} {values : List Setting}

theorem names_zip_toTomlEntries (hLength : names.length ≤ values.length) :
    ((toTomlEntries (names.zip values)).map Prod.fst).Sublist names := by
  have hNames := names_toTomlEntries (names.zip values)
  rwa [List.map_fst_zip hLength] at hNames

/-- Plain settings under good names stand on lines of their own. -/
theorem isGroup_toTomlEntries (hKeys : ∀ name ∈ names, Toml.IsKey name) (hNames : names.Nodup)
    (hLength : names.length ≤ values.length) (hPlain : ∀ s ∈ values, IsPlain s) :
    Toml.IsGroup (toTomlEntries (names.zip values)) where
  keys := fun e he => by
    obtain ⟨m, hm, hName, -⟩ := mem_toTomlEntries he
    exact hName ▸ hKeys m.1 (List.of_mem_zip hm).1
  proper := fun e he => by
    obtain ⟨m, hm, -, hValue⟩ := mem_toTomlEntries he
    exact hPlain m.2 (List.of_mem_zip hm).2 e.2 hValue
  distinct := (names_zip_toTomlEntries hLength).nodup hNames

/-- Settings on lines, and below them tables of settings, are found again from their page. -/
theorem settings?_toToml {lines : List (String × Toml)} {tables : List (String × List (String × Toml))}
    (hEntries : toTomlEntries members = lines ++ tables.map fun t => (t.1, .table t.2))
    (hLines : Toml.IsGroup lines) (hTables : ∀ t ∈ tables, Toml.IsKey t.1 ∧ Toml.IsGroup t.2)
    (hNames : (lines.map Prod.fst ++ tables.map Prod.fst).Nodup) :
    Format.toml.settings? (Toml.toPage (toTomlEntries members)) = seen .toml (.group members) := by
  have hParsed := Toml.parse?_toPage hLines hTables hNames
  rw [← hEntries] at hParsed
  rw [Format.settings?, hParsed, seen, toToml?, Option.map_some, Option.map_some, ofToml]

end TomlEntries

end Setting
end BulkLoad
