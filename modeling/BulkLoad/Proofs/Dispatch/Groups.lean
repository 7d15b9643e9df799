import Mathlib.Data.List.Basic

/-!
A list cut into groups of one size, the last of which may be smaller.
-/
namespace BulkLoad

/-- The number of groups of a size that so many items fill, the last one perhaps in part. -/
def groupCount (size count : Nat) : Nat := (count + size - 1) / size

/-- Consecutive groups of a size: group `i` begins at item `i * size`. -/
def groupsOf {α : Type} (size : Nat) (items : List α) : List (List α) :=
  (List.range (groupCount size items.length)).map fun i => (items.drop (i * size)).take size

section

variable {α : Type} {size : Nat} {items : List α}

theorem groupCount_of_le {count : Nat} (hPos : 0 < count) (hShort : count ≤ size) :
    groupCount size count = 1 := by
  have hSize : 0 < size := Nat.lt_of_lt_of_le hPos hShort
  rw [groupCount, Nat.div_eq_iff hSize]
  omega

theorem groupCount_add (hSize : 0 < size) (count : Nat) :
    groupCount size (size + count) = groupCount size count + 1 := by
  have hAdd : size + count + size - 1 = count + size - 1 + size := by omega
  rw [groupCount, hAdd, Nat.add_div_right _ hSize, groupCount]

@[simp] theorem length_groupsOf (size : Nat) (items : List α) :
    (groupsOf size items).length = groupCount size items.length := by
  simp [groupsOf]

theorem groupsOf_nil (hSize : 0 < size) : groupsOf size ([] : List α) = [] := by
  have hNone : groupCount size 0 = 0 := Nat.div_eq_of_lt (by omega)
  simp [groupsOf, hNone]

/-- What does not fill one group is a group by itself. -/
theorem groupsOf_of_le (hItems : items ≠ []) (hShort : items.length ≤ size) :
    groupsOf size items = [items] := by
  have hOne := groupCount_of_le (List.length_pos_iff.mpr hItems) hShort
  simp [groupsOf, hOne, List.take_of_length_le hShort]

/-- A full group stands first, whatever follows it. -/
theorem groupsOf_append {first : List α} (hSize : 0 < size) (hFull : first.length = size)
    (rest : List α) : groupsOf size (first ++ rest) = first :: groupsOf size rest := by
  rw [groupsOf, List.length_append, hFull, groupCount_add hSize, List.range_succ_eq_map,
    List.map_cons, List.map_map]
  congr 1
  · simp [← hFull]
  · apply List.map_congr_left
    intro i _
    have hSkip : (i + 1) * size = first.length + i * size := by
      rw [hFull, Nat.succ_mul, Nat.add_comm]
    rw [Function.comp_apply, Nat.succ_eq_add_one, hSkip, List.drop_length_add_append]

/-- Every list is empty, one group, or a full group and a shorter list. -/
theorem groups_induction (hSize : 0 < size) {motive : List α → Prop} (nil : motive [])
    (last : ∀ items, items ≠ [] → items.length ≤ size → motive items)
    (full : ∀ first rest, first.length = size → rest ≠ [] → motive rest → motive (first ++ rest))
    (items : List α) : motive items := by
  induction hLength : items.length using Nat.strongRecOn generalizing items with
  | ind length ih =>
      subst hLength
      by_cases hItems : items = []
      · exact hItems ▸ nil
      · rcases Nat.lt_or_ge size items.length with hLong | hShort
        · have hRest : items.drop size ≠ [] := by simpa using hLong
          have hFirst : (items.take size).length = size := by simp; omega
          have hLess : (items.drop size).length < items.length := by simp; omega
          rw [← List.take_append_drop size items]
          exact full _ _ hFirst hRest (ih _ hLess _ rfl)
        · exact last items hItems hShort

theorem flatten_groupsOf (hSize : 0 < size) (items : List α) :
    (groupsOf size items).flatten = items := by
  induction items using groups_induction hSize with
  | nil => simp [groupsOf_nil hSize]
  | last items hItems hShort => simp [groupsOf_of_le hItems hShort]
  | full first rest hFull hRest ih => simp [groupsOf_append hSize hFull, ih]

theorem of_mem_groupsOf (hSize : 0 < size) {items group : List α}
    (hGroup : group ∈ groupsOf size items) : group ≠ [] ∧ group.length ≤ size := by
  induction items using groups_induction hSize with
  | nil => simp [groupsOf_nil hSize] at hGroup
  | last items hItems hShort =>
      rw [groupsOf_of_le hItems hShort, List.mem_singleton] at hGroup
      exact hGroup ▸ ⟨hItems, hShort⟩
  | full first rest hFull hRest ih =>
      rw [groupsOf_append hSize hFull, List.mem_cons] at hGroup
      rcases hGroup with rfl | hLater
      · exact ⟨List.length_pos_iff.mp (hFull ▸ hSize), Nat.le_of_eq hFull⟩
      · exact ih hLater

/-- All groups but the last are full. -/
theorem length_of_mem_dropLast_groupsOf (hSize : 0 < size) {items group : List α}
    (hGroup : group ∈ (groupsOf size items).dropLast) : group.length = size := by
  induction items using groups_induction hSize with
  | nil => simp [groupsOf_nil hSize] at hGroup
  | last items hItems hShort => simp [groupsOf_of_le hItems hShort] at hGroup
  | full first rest hFull hRest ih =>
      have hMore : groupsOf size rest ≠ [] := by
        intro hNone
        have hFlat := flatten_groupsOf hSize rest
        rw [hNone] at hFlat
        exact hRest hFlat.symm
      rw [groupsOf_append hSize hFull, List.dropLast_cons_of_ne_nil hMore, List.mem_cons] at hGroup
      rcases hGroup with rfl | hLater
      · exact hFull
      · exact ih hLater

end

end BulkLoad
