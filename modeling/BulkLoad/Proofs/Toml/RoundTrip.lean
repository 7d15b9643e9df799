import BulkLoad.Proofs.Toml.Values

/-!
A TOML page read back: its lines in order, and then its tables, each under a header of its own.

Under one header every line adds to one table. `IsPlace` says where that table stands among all that
was read, so that lines are read alike at the top and under a header.
-/
namespace BulkLoad.Toml

open Node (Entries)

/-- A name that stands in a key without quotes. -/
structure IsKey (name : String) : Prop where
  ne_nil : name.toList ≠ []
  bare : ∀ c ∈ name.toList, isBareKey c = true

theorem isKey_of_all {names : List String}
    (hAll : (names.all fun name => !name.toList.isEmpty && name.toList.all isBareKey) = true) :
    ∀ name ∈ names, IsKey name := by
  intro name hMem
  have hName := List.all_eq_true.mp hAll name hMem
  rw [Bool.and_eq_true, List.all_eq_true] at hName
  exact ⟨by simpa using hName.1, hName.2⟩

/-- Entries that stand on lines of their own, one below the other. -/
structure IsGroup (entries : List (String × Toml)) : Prop where
  keys : ∀ e ∈ entries, IsKey e.1
  proper : ∀ e ∈ entries, Proper maxDepth e.2
  distinct : (entries.map Prod.fst).Nodup

theorem IsGroup.tail {e : String × Toml} {entries : List (String × Toml)}
    (hGroup : IsGroup (e :: entries)) : IsGroup entries where
  keys := (List.forall_mem_cons.mp hGroup.keys).2
  proper := (List.forall_mem_cons.mp hGroup.proper).2
  distinct := (List.nodup_cons.mp hGroup.distinct).2

/-- What the lines of some entries add to a table. -/
def valueEntries (entries : List (String × Toml)) : Entries :=
  entries.map fun e => (e.1, .value e.2)

/-- What a header and the lines below it add. -/
def tableEntries (tables : List (String × List (String × Toml))) : Entries :=
  tables.map fun t => (t.1, .table .header (valueEntries t.2))

/-! ### Entries of a table -/

section Entries

variable {name : String} {front : Entries} {node old : Node}

theorem lookup_eq_none {entries : Entries} (hFresh : name ∉ entries.map Prod.fst) :
    Node.lookup name entries = none := by
  rw [Node.lookup, Option.map_eq_none_iff, List.find?_eq_none]
  intro e he hName
  exact hFresh (List.mem_map.mpr ⟨e, he, by simpa using hName⟩)

theorem lookup_append_singleton (hFresh : name ∉ front.map Prod.fst) :
    Node.lookup name (front ++ [(name, node)]) = some node := by
  have hFront := lookup_eq_none hFresh
  rw [Node.lookup, Option.map_eq_none_iff] at hFront
  rw [Node.lookup, List.find?_append, hFront]
  simp

theorem replace_append_singleton (hFresh : name ∉ front.map Prod.fst) :
    Node.replace name node (front ++ [(name, old)]) = front ++ [(name, node)] := by
  have hFront : Node.replace name node front = front := by
    refine (List.map_congr_left fun e he => if_neg fun hName => ?_).trans (List.map_id front)
    exact hFresh (List.mem_map.mpr ⟨e, he, by simpa using hName⟩)
  rw [Node.replace, List.map_append]
  show Node.replace name node front ++ _ = _
  rw [hFront]
  simp

theorem entriesToToml_append (front more : Entries) :
    Node.entriesToToml (front ++ more) = Node.entriesToToml front ++ Node.entriesToToml more := by
  induction front with
  | nil => rfl
  | cons e front ih => rw [List.cons_append, Node.entriesToToml, Node.entriesToToml, ih, List.cons_append]

theorem entriesToToml_valueEntries (entries : List (String × Toml)) :
    Node.entriesToToml (valueEntries entries) = entries := by
  induction entries with
  | nil => rfl
  | cons e entries ih =>
      show (e.1, Node.toToml (.value e.2)) :: Node.entriesToToml (valueEntries entries) = _
      rw [ih, Node.toToml]

theorem entriesToToml_tableEntries (tables : List (String × List (String × Toml))) :
    Node.entriesToToml (tableEntries tables) = tables.map fun t => (t.1, .table t.2) := by
  induction tables with
  | nil => rfl
  | cons t tables ih =>
      show (t.1, Node.toToml (.table .header (valueEntries t.2))) ::
        Node.entriesToToml (tableEntries tables) = _
      rw [ih, Node.toToml, entriesToToml_valueEntries, List.map_cons]

/-- A change under the header is one of the entries at that place. -/
def IsPlace (header : List String) (place : Entries → Entries) : Prop :=
  ∀ change entries, Node.descend? change header (place entries) = (change entries).map place

theorem isPlace_root : IsPlace [] id := by
  intro change entries
  rw [Node.descend?, Option.map_id]
  rfl

theorem isPlace_header (hFresh : name ∉ front.map Prod.fst) :
    IsPlace [name] fun inner => front ++ [(name, .table .header inner)] := by
  intro change entries
  rw [Node.descend?, lookup_append_singleton hFresh]
  show (Node.descend? change [] entries).map (fun inner => Node.replace name _ _) = _
  simp only [replace_append_singleton hFresh, Node.descend?]

end Entries

/-! ### Statements -/

namespace IsKey

variable {name : String} {ts : List Token}

theorem isWord (hKey : IsKey name) : IsWord name.toList :=
  ⟨hKey.ne_nil, fun c hc => not_isSpecial (hKey.bare c hc) rfl⟩

theorem key?_eq (hKey : IsKey name) (hEnd : ∀ more, dropBlank ts ≠ .dot :: more) :
    key? (.word name.toList :: ts) = some ([], name, dropBlank ts) := by
  have hName : name? (.word name.toList) = some name := by
    rw [name?, if_pos (List.all_eq_true.mpr hKey.bare), String.ofList_toList]
  have hRead : keyOnto? [] (.word name.toList :: ts) = some ([name], dropBlank ts) := by
    rw [keyOnto?, hName]
    simp only
  rw [key?, hRead]
  rfl

end IsKey

section Statements

variable {name : String} {header : List String} {root inner : Entries} {place : Entries → Entries}
variable {v : Toml} {us ts : List Token}

/-- A key and its value are entered at the place of the header. -/
theorem statement?_entry (hPlace : IsPlace header place) (hKey : IsKey name)
    (hFresh : name ∉ inner.map Prod.fst) (hValue : value? [] us = some (v, ts)) :
    Document.statement? ⟨place inner, header⟩ (.word name.toList :: .blank [' '] :: .equals ::
      .blank [' '] :: us) = some (⟨place (inner ++ [(name, .value v)]), header⟩, ts) := by
  have hKeyRead : key? (.word name.toList :: .blank [' '] :: .equals :: .blank [' '] :: us) =
      some ([], name, .equals :: .blank [' '] :: us) := hKey.key?_eq (by simp [dropBlank])
  have hBlank : value? [] (.blank [' '] :: us) = some (v, ts) := by rw [value?, hValue]
  have hEnter : Document.enter? ⟨place inner, header⟩ v [] name =
      some ⟨place (inner ++ [(name, .value v)]), header⟩ := by
    rw [Document.enter?, hPlace, Node.set?, lookup_eq_none hFresh]
    rfl
  rw [Document.statement?, hKeyRead]
  · show (value? [] _).bind _ = _
    rw [hBlank]
    show (Document.enter? _ _ _ _).bind _ = _
    rw [hEnter]
    rfl
  all_goals simp

/-- A header begins a table of its name. -/
theorem statement?_header (hKey : IsKey name) (hFresh : name ∉ root.map Prod.fst) :
    Document.statement? ⟨root, header⟩ (.openBracket :: .word name.toList :: .closeBracket :: ts) =
      some (⟨root ++ [(name, .table .header [])], [name]⟩, ts) := by
  have hKeyRead : key? (.word name.toList :: .closeBracket :: ts) =
      some ([], name, .closeBracket :: ts) := hKey.key?_eq (by simp [dropBlank])
  have hNamed : Document.name? ⟨root, header⟩ [] name =
      some ⟨root ++ [(name, .table .header [])], [name]⟩ := by
    rw [Document.name?, Node.descend?, Node.name?, lookup_eq_none hFresh]
    rfl
  rw [Document.statement?]
  · simp only [dropBlank, hKeyRead, hNamed, Option.map_some]
  all_goals simp

end Statements

/-- Reading the characters, one document becomes the other. -/
def Becomes (d : Document) (cs : List Char) (d' : Document) : Prop :=
  ∃ ts, Yields cs ts ∧ ∀ fuel, ts.length ≤ fuel → d.read? fuel ts = some d'

namespace Becomes

variable {d : Document} {rest : List Char} {name : String} {header : List String} {root : Entries}
variable {place : Entries → Entries} {entries : List (String × Toml)}

theorem nil (d : Document) : Becomes d [] d :=
  ⟨[], .nil, fun _ _ => by rw [Document.read?]⟩

/-- A line adds its entry to the table of its header. -/
theorem line {inner : Entries} {v : Toml} (hPlace : IsPlace header place) (hKey : IsKey name)
    (hProper : Proper maxDepth v) (hFresh : name ∉ inner.map Prod.fst)
    (hRest : Becomes ⟨place (inner ++ [(name, .value v)]), header⟩ rest d) :
    Becomes ⟨place inner, header⟩ (line (name, v) ++ rest) d := by
  obtain ⟨ts, hYields, hRead⟩ := hRest
  obtain ⟨us, hReads⟩ := reads_of_proper hProper (.line hYields)
  have hChars : Toml.line (name, v) ++ rest =
      name.toList ++ ([' '] ++ '=' :: ([' '] ++ (inline v ++ '\n' :: rest))) := by
    simp only [Toml.line, List.append_assoc]
    rfl
  have hLine : Yields (Toml.line (name, v) ++ rest)
      (.word name.toList :: .blank [' '] :: .equals :: .blank [' '] :: us) := by
    rw [hChars]
    exact .word hKey.isWord (.cons rfl) (.blank 0 (.cons rfl) (.mark (by decide) rfl
      (.blank 0 hReads.starts hReads.yields)))
  have hValue : value? [] us = some (v, .newline :: ts) := by
    rw [hReads.reads [] (by rw [List.length_nil, Nat.zero_add]), close?]
  have hLonger := hReads.longer
  refine ⟨_, hLine, fun fuel hFuel => ?_⟩
  simp only [List.length_cons] at hFuel hLonger
  obtain ⟨fuel, rfl⟩ := Nat.exists_eq_add_of_le' (Nat.le_trans (Nat.succ_pos _) hFuel)
  rw [Document.read?, statement?_entry hPlace hKey hFresh hValue]
  · exact hRead fuel (by omega)
  all_goals simp

/-- Lines below one another add their entries in order. -/
theorem lines {inner : Entries} (hPlace : IsPlace header place) (hGroup : IsGroup entries)
    (hNames : (inner.map Prod.fst ++ entries.map Prod.fst).Nodup)
    (hRest : Becomes ⟨place (inner ++ valueEntries entries), header⟩ rest d) :
    Becomes ⟨place inner, header⟩ (entries.flatMap Toml.line ++ rest) d := by
  -- the entries added so far stand before those to come, so the names stay apart
  induction entries generalizing inner with
  | nil =>
      rw [valueEntries, List.map_nil, List.append_nil] at hRest
      exact hRest
  | cons e entries ih =>
      have hHead : e ∈ e :: entries := List.mem_cons_self ..
      have hFresh : e.1 ∉ inner.map Prod.fst := by
        intro hMem
        exact (List.nodup_append.mp hNames).2.2 _ hMem _ (List.mem_cons_self ..) rfl
      rw [List.flatMap_cons, List.append_assoc]
      apply line hPlace (hGroup.keys e hHead) (hGroup.proper e hHead) hFresh
      apply ih hGroup.tail
      · rw [List.map_append, List.append_assoc]
        exact hNames
      · rw [List.append_assoc]
        exact hRest

/-- A header begins a table, which the lines below it fill. -/
theorem headed (hKey : IsKey name) (hGroup : IsGroup entries) (hFresh : name ∉ root.map Prod.fst)
    (hRest : Becomes ⟨root ++ [(name, .table .header (valueEntries entries))], [name]⟩ rest d) :
    Becomes ⟨root, header⟩ (Toml.headed name entries ++ rest) d := by
  have hLines : Becomes ⟨root ++ [(name, .table .header [])], [name]⟩
      (entries.flatMap Toml.line ++ rest) d :=
    @lines d rest [name] _ entries [] (isPlace_header hFresh) hGroup hGroup.distinct hRest
  obtain ⟨ts, hYields, hRead⟩ := hLines
  have hChars : Toml.headed name entries ++ rest = '\n' :: '[' :: (name.toList ++
      ']' :: '\n' :: (entries.flatMap Toml.line ++ rest)) := by
    simp only [Toml.headed, List.append_assoc, List.cons_append]
  have hHeader : Yields (Toml.headed name entries ++ rest) (.newline :: .openBracket ::
      .word name.toList :: .closeBracket :: .newline :: ts) := by
    rw [hChars]
    exact .mark (by decide) rfl (.mark (by decide) rfl (.word hKey.isWord (.cons rfl)
      (.mark (by decide) rfl (.mark (by decide) rfl hYields))))
  refine ⟨_, hHeader, fun fuel hFuel => ?_⟩
  simp only [List.length_cons] at hFuel
  obtain ⟨fuel, rfl⟩ := Nat.exists_eq_add_of_le' (Nat.le_of_add_left_le hFuel : 2 ≤ fuel)
  rw [Document.read?, Document.read?, statement?_header hKey hFresh]
  · exact hRead fuel (by omega)
  all_goals simp

/-- Each table comes under its own header. -/
theorem tables {tables : List (String × List (String × Toml))}
    (hTables : ∀ t ∈ tables, IsKey t.1 ∧ IsGroup t.2)
    (hNames : (root.map Prod.fst ++ tables.map Prod.fst).Nodup) :
    ∃ header', Becomes ⟨root, header⟩ (tables.flatMap fun t => Toml.headed t.1 t.2)
      ⟨root ++ tableEntries tables, header'⟩ := by
  induction tables generalizing root header with
  | nil =>
      refine ⟨header, ?_⟩
      rw [tableEntries, List.map_nil, List.append_nil]
      exact nil _
  | cons t tables ih =>
      obtain ⟨⟨hKey, hGroup⟩, hOthers⟩ := List.forall_mem_cons.mp hTables
      have hFresh : t.1 ∉ root.map Prod.fst := by
        intro hMem
        exact (List.nodup_append.mp hNames).2.2 _ hMem _ (List.mem_cons_self ..) rfl
      let next : Entries := root ++ [(t.1, .table .header (valueEntries t.2))]
      have hOtherNames : (next.map Prod.fst ++ tables.map Prod.fst).Nodup := by
        rw [List.map_append, List.append_assoc]
        exact hNames
      have hRest : ∃ header', Becomes ⟨next, [t.1]⟩ (tables.flatMap fun t => Toml.headed t.1 t.2)
          ⟨next ++ tableEntries tables, header'⟩ := ih hOthers hOtherNames
      obtain ⟨header', hRest⟩ := hRest
      rw [List.append_assoc] at hRest
      exact ⟨header', headed hKey hGroup hFresh hRest⟩

end Becomes

/-! ### The page -/

variable {plain : List (String × Toml)} {tables : List (String × List (String × Toml))}

theorem pageChars_append (hPlain : IsGroup plain) :
    pageChars (plain ++ tables.map fun t => (t.1, .table t.2)) =
      plain.flatMap line ++ tables.flatMap fun t => headed t.1 t.2 := by
  rw [pageChars, List.flatMap_append, List.flatMap_map]
  congr 1
  induction plain with
  | nil => rfl
  | cons e plain ih =>
      have hProper := hPlain.proper e (List.mem_cons_self ..)
      rw [List.flatMap_cons, List.flatMap_cons, ih hPlain.tail]
      congr 1
      obtain ⟨name, v⟩ := e
      cases hProper <;> rfl

theorem dropMark_of_stopsAt {cs : List Char} (hStop : StopsAt (· = '\uFEFF') cs) :
    dropMark cs = cs := by
  cases cs with
  | nil => rfl
  | cons c cs =>
      have hOther : c ≠ '\uFEFF' := of_decide_eq_false (hStop c rfl)
      rw [dropMark]
      exact fun _ hHead => hOther (List.cons.inj hHead).1

/-- No page begins with a byte order mark. -/
theorem dropMark_page (hPlain : IsGroup plain) :
    dropMark (plain.flatMap line ++ tables.flatMap fun t => headed t.1 t.2) =
      plain.flatMap line ++ tables.flatMap fun t => headed t.1 t.2 := by
  apply dropMark_of_stopsAt
  match plain, tables with
  | [], [] => exact .nil
  | [], t :: tables => exact .cons (by decide)
  | e :: plain, tables =>
      have hKey := hPlain.keys e (List.mem_cons_self ..)
      obtain ⟨c, more, hName⟩ := List.exists_cons_of_ne_nil hKey.ne_nil
      have hBare := hKey.bare c (hName ▸ List.mem_cons_self ..)
      simp only [List.flatMap_cons, line, hName, List.cons_append]
      apply StopsAt.cons
      apply decide_eq_false
      rintro rfl
      exact absurd hBare (by decide)

/-- Lines and tables that bear different names are read back from their page. -/
theorem parse?_toPage (hPlain : IsGroup plain) (hTables : ∀ t ∈ tables, IsKey t.1 ∧ IsGroup t.2)
    (hNames : (plain.map Prod.fst ++ tables.map Prod.fst).Nodup) :
    parse? (toPage (plain ++ tables.map fun t => (t.1, .table t.2))) =
      some (plain ++ tables.map fun t => (t.1, .table t.2)) := by
  have hFront : (valueEntries plain).map Prod.fst = plain.map Prod.fst := by
    rw [valueEntries, List.map_map]
    rfl
  obtain ⟨header, hBelow⟩ := @Becomes.tables [] (valueEntries plain) tables hTables
    (hFront ▸ hNames)
  have hPlainNames : (([] : Entries).map Prod.fst ++ plain.map Prod.fst).Nodup := hPlain.distinct
  obtain ⟨ts, hYields, hRead⟩ := Becomes.lines isPlace_root hPlain hPlainNames hBelow
  rw [parse?, toPage, String.toList_ofList, pageChars_append hPlain, dropMark_page hPlain]
  show (Token.readAll? [] _ _).bind _ = _
  rw [hYields [] _ (Nat.le_refl _)]
  show (Document.read? ⟨id [], []⟩ ts.length ts).bind _ = _
  rw [hRead ts.length (Nat.le_refl _)]
  show some (Node.entriesToToml (valueEntries plain ++ tableEntries tables)) = _
  rw [entriesToToml_append, entriesToToml_valueEntries, entriesToToml_tableEntries]

end BulkLoad.Toml
