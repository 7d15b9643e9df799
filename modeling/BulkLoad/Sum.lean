/-!
Sums of naturals over lists.
-/
namespace BulkLoad

/-- The sum of a quantity over a list. -/
def sumOf {α : Type} (f : α → Nat) : List α → Nat
  | [] => 0
  | a :: as => f a + sumOf f as

@[simp] theorem sumOf_nil {α : Type} (f : α → Nat) : sumOf f [] = 0 := rfl

@[simp] theorem sumOf_cons {α : Type} (f : α → Nat) (a : α) (as : List α) :
    sumOf f (a :: as) = f a + sumOf f as := rfl

@[simp] theorem sumOf_append {α : Type} (f : α → Nat) (as bs : List α) :
    sumOf f (as ++ bs) = sumOf f as + sumOf f bs := by
  induction as with
  | nil => simp
  | cons a as ih => simp [ih, Nat.add_assoc]

theorem sumOf_const {α : Type} (amount : Nat) (as : List α) :
    sumOf (fun _ => amount) as = as.length * amount := by
  induction as with
  | nil => simp
  | cons a as ih => rw [sumOf_cons, ih, List.length_cons, Nat.succ_mul, Nat.add_comm]

@[simp] theorem sumOf_zero {α : Type} (as : List α) : sumOf (fun _ => 0) as = 0 := by
  rw [sumOf_const, Nat.mul_zero]

theorem sumOf_map {α β : Type} (f : β → Nat) (g : α → β) (as : List α) :
    sumOf f (as.map g) = sumOf (fun a => f (g a)) as := by
  induction as with
  | nil => rfl
  | cons a as ih => simp [ih]

theorem sumOf_replicate {α : Type} (f : α → Nat) (count : Nat) (a : α) :
    sumOf f (List.replicate count a) = count * f a := by
  induction count with
  | zero => simp
  | succ count ih =>
      rw [List.replicate_succ, sumOf_cons, ih, Nat.succ_mul, Nat.add_comm]

/-- A sum changes by as much as one of its items. -/
theorem sumOf_set_add {α : Type} (f : α → Nat) {as : List α} {i : Nat} {a : α} (b : α)
    (hGet : as[i]? = some a) : sumOf f (as.set i b) + f a = sumOf f as + f b := by
  induction as generalizing i with
  | nil => simp at hGet
  | cons c as ih =>
      cases i with
      | zero =>
          obtain rfl : c = a := by simpa using hGet
          simp; omega
      | succ i =>
          have hRest := ih (i := i) (by simpa using hGet)
          simp; omega

theorem sumOf_congr {α : Type} {f g : α → Nat} {as : List α} (hSame : ∀ a ∈ as, f a = g a) :
    sumOf f as = sumOf g as := by
  induction as with
  | nil => rfl
  | cons a as ih =>
      rw [sumOf_cons, sumOf_cons, hSame a List.mem_cons_self,
        ih fun b hb => hSame b (List.mem_cons_of_mem a hb)]

@[simp] theorem sumOf_one {α : Type} (as : List α) : sumOf (fun _ => 1) as = as.length := by
  rw [sumOf_const, Nat.mul_one]

theorem sumOf_add {α : Type} (f g : α → Nat) (as : List α) :
    sumOf (fun a => f a + g a) as = sumOf f as + sumOf g as := by
  induction as with
  | nil => rfl
  | cons a as ih => simp [ih]; omega

theorem sumOf_flatMap {α β : Type} (f : β → Nat) (g : α → List β) (as : List α) :
    sumOf f (as.flatMap g) = sumOf (fun a => sumOf f (g a)) as := by
  induction as with
  | nil => rfl
  | cons a as ih => simp [ih]

/-- A sum over one place of a range. -/
theorem sumOf_range_ite {n i : Nat} (hIndex : i < n) (amount : Nat) :
    sumOf (fun j => if i = j then amount else 0) (List.range n) = amount := by
  induction n with
  | zero => exact absurd hIndex (Nat.not_lt_zero i)
  | succ n ih =>
      rw [List.range_succ, sumOf_append, sumOf_cons, sumOf_nil]
      rcases Nat.lt_succ_iff_lt_or_eq.mp hIndex with hBefore | rfl
      · simp [ih hBefore, Nat.ne_of_lt hBefore]
      · have hNone : sumOf (fun j => if i = j then amount else 0) (List.range i) =
            sumOf (fun _ => 0) (List.range i) := by
          apply sumOf_congr
          intro j hj
          rw [if_neg (Nat.ne_of_gt (List.mem_range.mp hj))]
        simp [hNone]

/-- A sum is the sum of the sums over the items of each kind. -/
theorem sumOf_kinds {α : Type} (f : α → Nat) (kind : α → Nat) {as : List α} {n : Nat}
    (hKind : ∀ a ∈ as, kind a < n) :
    sumOf (fun i => sumOf f (as.filter fun a => kind a = i)) (List.range n) = sumOf f as := by
  induction as with
  | nil => simp
  | cons a as ih =>
      have hSplit : (fun i => sumOf f ((a :: as).filter fun a => kind a = i)) = fun i =>
          (if kind a = i then f a else 0) + sumOf f (as.filter fun a => kind a = i) := by
        funext i
        by_cases hHere : kind a = i
        · simp [hHere]
        · simp [hHere]
      have hRest := ih fun b hb => hKind b (List.mem_cons_of_mem a hb)
      rw [hSplit, sumOf_add, sumOf_range_ite (hKind a List.mem_cons_self), hRest, sumOf_cons]

theorem sumOf_le {α : Type} {f g : α → Nat} {as : List α} (hLess : ∀ a ∈ as, f a ≤ g a) :
    sumOf f as ≤ sumOf g as := by
  induction as with
  | nil => exact Nat.le_refl 0
  | cons a as ih =>
      have hRest := ih fun b hb => hLess b (List.mem_cons_of_mem a hb)
      exact Nat.add_le_add (hLess a List.mem_cons_self) hRest

theorem le_sumOf {α : Type} (f : α → Nat) {as : List α} {a : α} (hMem : a ∈ as) :
    f a ≤ sumOf f as := by
  obtain ⟨before, after, rfl⟩ := List.append_of_mem hMem
  rw [sumOf_append, sumOf_cons]
  omega

theorem sumOf_eq_count {α : Type} [BEq α] (a : α) (as : List α) :
    sumOf (fun b => if b == a then 1 else 0) as = as.count a := by
  induction as with
  | nil => rfl
  | cons b as ih => rw [sumOf_cons, ih, List.count_cons, Nat.add_comm]

/-- The items of all kinds are the items. -/
theorem flatMap_kinds_perm {α : Type} [BEq α] [LawfulBEq α] (kind : α → Nat) {as : List α} {n : Nat}
    (hKind : ∀ a ∈ as, kind a < n) :
    ((List.range n).flatMap fun i => as.filter fun a => kind a = i).Perm as := by
  rw [List.perm_iff_count]
  intro a
  rw [← sumOf_eq_count, sumOf_flatMap, sumOf_kinds _ kind hKind, sumOf_eq_count]

end BulkLoad
