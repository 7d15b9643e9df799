import BulkLoad.Proofs.Json.Tokens

/-!
A JSON value read back from its page: its tokens become the value again, whatever is open around it.
-/
namespace BulkLoad.Json

variable {frames : List Frame} {v : Json} {ts : List Token}

/-- The tokens of a value are read as that value. -/
def Read (v : Json) : Prop := ∀ frames ts, value? frames (tokens v ++ ts) = close? frames v ts

theorem exists_tokens_eq (v : Json) : ∃ t us, tokens v = t :: us ∧ t ≠ .closeArray := by
  cases v with
  | null => exact ⟨_, _, rfl, nofun⟩
  | bool b => exact ⟨_, _, rfl, nofun⟩
  | number n => exact ⟨_, _, rfl, nofun⟩
  | text s => exact ⟨_, _, rfl, nofun⟩
  | array items => exact ⟨_, _, rfl, nofun⟩
  | object members => exact ⟨_, _, rfl, nofun⟩

theorem exists_itemTokens_eq (v : Json) (items : List Json) :
    ∃ t us, itemTokens (v :: items) = t :: us ∧ t ≠ .closeArray := by
  obtain ⟨t, us, hTokens, hOther⟩ := exists_tokens_eq v
  cases items with
  | nil => exact ⟨t, us, hTokens, hOther⟩
  | cons w items =>
      refine ⟨t, us ++ .comma :: itemTokens (w :: items), ?_, hOther⟩
      show tokens v ++ .comma :: itemTokens (w :: items) = _
      rw [hTokens, List.cons_append]

theorem value?_itemTokens {items : List Json} (hItem : Read v) (hItems : ∀ w ∈ items, Read w)
    (before : List Json) :
    value? (.items before :: frames) (itemTokens (v :: items) ++ .closeArray :: ts) =
      close? frames (.array (before.reverse ++ v :: items)) ts := by
  induction items generalizing v before with
  | nil =>
      rw [itemTokens, hItem, close?, List.reverse_cons]
  | cons w items ih =>
      obtain ⟨hNext, hOthers⟩ := List.forall_mem_cons.mp hItems
      have hTokens : itemTokens (v :: w :: items) ++ .closeArray :: ts =
          tokens v ++ .comma :: (itemTokens (w :: items) ++ .closeArray :: ts) := by
        show tokens v ++ .comma :: itemTokens (w :: items) ++ .closeArray :: ts = _
        rw [List.append_assoc, List.cons_append]
      rw [hTokens, hItem, close?, ih hNext hOthers, List.reverse_cons, List.append_assoc]
      rfl

/-- The tokens of the members behind the name and the colon of the first. -/
theorem value?_memberTokens {members : List (Option String × Json)} {name : Option String}
    (hMember : Read v) (hMembers : ∀ m ∈ members, Read m.2)
    (before : List (Option String × Json)) :
    ∃ us, memberTokens ((name, v) :: members) = .text name :: .colon :: us ∧
      value? (.members before name :: frames) (us ++ .closeObject :: ts) =
        close? frames (.object (before.reverse ++ (name, v) :: members)) ts := by
  induction members generalizing v name before with
  | nil =>
      refine ⟨tokens v, rfl, ?_⟩
      rw [hMember, close?, List.reverse_cons]
  | cons m members ih =>
      obtain ⟨next, w⟩ := m
      obtain ⟨hNext, hOthers⟩ := List.forall_mem_cons.mp hMembers
      obtain ⟨us, hTokens, hRead⟩ := @ih w next hNext hOthers ((name, v) :: before)
      refine ⟨tokens v ++ .comma :: memberTokens ((next, w) :: members), rfl, ?_⟩
      rw [hTokens, List.append_assoc, List.cons_append, List.cons_append, List.cons_append, hMember,
        close?, hRead, List.reverse_cons, List.append_assoc]
      rfl

theorem read_of_proper (hProper : Proper v) : Read v := by
  induction hProper with
  | null =>
      intro frames ts
      rw [tokens, List.cons_append, value?, List.nil_append]
  | bool b =>
      intro frames ts
      rw [tokens, List.cons_append, value?, List.nil_append]
  | number hNumeral =>
      intro frames ts
      rw [tokens, List.cons_append, value?, List.nil_append]
  | text s =>
      intro frames ts
      rw [tokens, List.cons_append, value?, List.nil_append]
  | @array items hItems ih =>
      intro frames ts
      cases items with
      | nil =>
          show value? frames (.openArray :: .closeArray :: ts) = _
          rw [value?]
      | cons v items =>
          obtain ⟨hFirst, hOthers⟩ := List.forall_mem_cons.mp ih
          obtain ⟨t, us, hTokens, hOther⟩ := exists_itemTokens_eq v items
          have hItemsRead : value? (.items [] :: frames) (itemTokens (v :: items) ++ .closeArray :: ts) =
              close? frames (.array (v :: items)) ts := value?_itemTokens hFirst hOthers []
          have hOpened : value? frames (.openArray :: (itemTokens (v :: items) ++ .closeArray :: ts)) =
              value? (.items [] :: frames) (itemTokens (v :: items) ++ .closeArray :: ts) := by
            rw [value?]
            intro more hMore
            rw [hTokens, List.cons_append] at hMore
            exact hOther (List.cons.inj hMore).1
          rw [tokens, List.append_assoc, List.cons_append, List.cons_append, List.nil_append, hOpened,
            hItemsRead]
  | @object members hNames hMembers ih =>
      intro frames ts
      cases members with
      | nil =>
          show value? frames (.openObject :: .closeObject :: ts) = _
          rw [value?]
      | cons m members =>
          obtain ⟨name, v⟩ := m
          obtain ⟨hFirst, hOthers⟩ := List.forall_mem_cons.mp ih
          obtain ⟨us, hTokens, hMembersRead⟩ :=
            @value?_memberTokens frames v ts members name hFirst hOthers []
          rw [tokens, hTokens]
          simp only [List.cons_append, List.append_assoc, List.nil_append]
          rw [value?, hMembersRead]
          rfl

theorem ofChars?_pretty (hProper : Proper v) : ofChars? (pretty 0 v) = some v := by
  have hYields := printed_of_proper hProper 0 .nil Yields.nil
  rw [List.append_nil, List.append_nil] at hYields
  have hRead := read_of_proper hProper [] []
  rw [List.append_nil] at hRead
  rw [ofChars?, hYields [] _ (Nat.le_refl _)]
  show value? [] (tokens v) = some v
  rw [hRead, close?]

/-- A proper value is read back from its page. -/
theorem parse?_toPage (hProper : Proper v) : parse? (toPage v) = some v := by
  rw [parse?, toPage, String.toList_ofList]
  exact ofChars?_pretty hProper

end BulkLoad.Json
