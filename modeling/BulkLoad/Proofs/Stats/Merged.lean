import Mathlib.Algebra.BigOperators.Group.List.Basic
import Mathlib.Algebra.Order.Ring.Rat
import Mathlib.Data.List.Induction
import Mathlib.Order.Bounds.Defs
import Mathlib.Tactic.FieldSimp
import Mathlib.Tactic.Ring
import BulkLoad.Run.Summary

/-!
Accumulators over exact fractions.

What an accumulator holds is what can be told of all its values at once, so two accumulators merge
to the one that has seen the values of both, and neither the shares nor their order make a
difference. The second moment is the only part that takes an argument: the deviations from two means
and those from the mean of both differ by the distance of the two means.
-/
namespace BulkLoad

namespace Measure

/-- Fractions are counted with without rounding. -/
instance : Measure ℚ where
  ofNat n := n
  least a b := min a b
  greatest a b := max a b

theorem ofNat_rat (n : Nat) : (ofNat n : ℚ) = n := rfl

section Extremes

variable {xs ys : List ℚ}

/-- The least of two lists is the lesser of the least of each. -/
theorem min?_append (hLeft : xs ≠ []) (hRight : ys ≠ []) :
    (xs ++ ys).min?.getD 0 = least (xs.min?.getD 0) (ys.min?.getD 0) := by
  obtain ⟨x, xs, rfl⟩ := List.exists_cons_of_ne_nil hLeft
  obtain ⟨y, ys, rfl⟩ := List.exists_cons_of_ne_nil hRight
  simp only [List.cons_append, List.min?_cons', List.foldl_append, List.foldl_cons,
    List.foldl_assoc, Option.getD_some]
  rfl

theorem max?_append (hLeft : xs ≠ []) (hRight : ys ≠ []) :
    (xs ++ ys).max?.getD 0 = greatest (xs.max?.getD 0) (ys.max?.getD 0) := by
  obtain ⟨x, xs, rfl⟩ := List.exists_cons_of_ne_nil hLeft
  obtain ⟨y, ys, rfl⟩ := List.exists_cons_of_ne_nil hRight
  simp only [List.cons_append, List.max?_cons', List.foldl_append, List.foldl_cons,
    List.foldl_assoc, Option.getD_some]
  rfl

end Extremes

end Measure

namespace Running

open BulkLoad.Measure

/-- The squared deviations from a value, summed up. -/
def deviations (xs : List ℚ) (centre : ℚ) : ℚ := (xs.map fun x => (x - centre) ^ 2).sum

def meanOf (xs : List ℚ) : ℚ := xs.sum / xs.length

/-- What is told of values when all of them are at hand. Without any, all is zero. -/
def told (xs : List ℚ) : Running ℚ where
  count := xs.length
  mean := meanOf xs
  m2 := deviations xs (meanOf xs)
  min := xs.min?.getD 0
  max := xs.max?.getD 0

theorem told_nil : told [] = empty := by
  simp only [told, empty, meanOf, deviations, ofNat_rat, List.length_nil, List.sum_nil,
    List.map_nil, List.min?_nil, List.max?_nil, Option.getD_none, Nat.cast_zero, div_zero]

theorem deviations_append (xs ys : List ℚ) (centre : ℚ) :
    deviations (xs ++ ys) centre = deviations xs centre + deviations ys centre := by
  simp only [deviations, List.map_append, List.sum_append]

/-- Deviations from another value, by those from zero. -/
theorem deviations_eq (xs : List ℚ) (centre : ℚ) :
    deviations xs centre = deviations xs 0 - 2 * centre * xs.sum + xs.length * centre ^ 2 := by
  induction xs with
  | nil => simp [deviations]
  | cons x rest hRest =>
      simp only [deviations, List.map_cons, List.sum_cons, List.length_cons, Nat.cast_add,
        Nat.cast_one] at hRest ⊢
      rw [hRest]
      ring

theorem cast_length_pos {xs : List ℚ} (hSome : xs ≠ []) : 0 < (xs.length : ℚ) :=
  Nat.cast_pos.mpr (List.length_pos_iff.mpr hSome)

/-- Deviations from the mean are the least there are; those from another value add its distance. -/
theorem deviations_eq_add {xs : List ℚ} (hSome : xs ≠ []) (centre : ℚ) :
    deviations xs centre =
      deviations xs (meanOf xs) + xs.length * (meanOf xs - centre) ^ 2 := by
  have hLength : (xs.length : ℚ) ≠ 0 := (cast_length_pos hSome).ne'
  have hSum : xs.sum = xs.length * meanOf xs := (mul_div_cancel₀ xs.sum hLength).symm
  rw [deviations_eq xs centre, deviations_eq xs (meanOf xs), hSum]
  ring

section Both

variable {xs ys : List ℚ}

theorem meanOf_append (hLeft : xs ≠ []) (hRight : ys ≠ []) :
    meanOf (xs ++ ys) =
      meanOf xs + (meanOf ys - meanOf xs) * ys.length / ((xs.length + ys.length : Nat) : ℚ) := by
  have hXs := cast_length_pos hLeft
  have hYs := cast_length_pos hRight
  have hBoth : (xs.length + ys.length : ℚ) ≠ 0 := (add_pos hXs hYs).ne'
  simp only [meanOf, List.sum_append, List.length_append, Nat.cast_add]
  field_simp
  ring

/-- The deviations of both, each from the mean of its own, and the distance of the two means. -/
theorem deviations_meanOf_append (hLeft : xs ≠ []) (hRight : ys ≠ []) :
    deviations (xs ++ ys) (meanOf (xs ++ ys)) =
      deviations xs (meanOf xs) + (deviations ys (meanOf ys) +
        (meanOf ys - meanOf xs) * (meanOf ys - meanOf xs) * (xs.length * ys.length) /
          ((xs.length + ys.length : Nat) : ℚ)) := by
  have hXs := cast_length_pos hLeft
  have hYs := cast_length_pos hRight
  have hBoth : (xs.length + ys.length : ℚ) ≠ 0 := (add_pos hXs hYs).ne'
  rw [deviations_append, deviations_eq_add hLeft, deviations_eq_add hRight,
    meanOf_append hLeft hRight, Nat.cast_add]
  field_simp
  ring

end Both

theorem merge_told (xs ys : List ℚ) : merge (told xs) (told ys) = told (xs ++ ys) := by
  by_cases hRight : ys = []
  · rw [hRight, List.append_nil]
    rfl
  have hYs : (told ys).count ≠ 0 := List.length_eq_zero_iff.not.mpr hRight
  by_cases hLeft : xs = []
  · rw [hLeft, List.nil_append, merge, if_neg hYs, if_pos (show (told []).count = 0 from rfl)]
  · have hXs : (told xs).count ≠ 0 := List.length_eq_zero_iff.not.mpr hLeft
    rw [merge, if_neg hYs, if_neg hXs]
    simp only [told, ofNat_rat, List.length_append, meanOf_append hLeft hRight,
      ← deviations_meanOf_append hLeft hRight, min?_append hLeft hRight, max?_append hLeft hRight]

theorem told_singleton (x : ℚ) : told [x] = ⟨1, x, 0, x, x⟩ := by
  simp [told, meanOf, deviations]

/-- One more value is a share of one. -/
theorem push_eq_merge (s : Running ℚ) (x : ℚ) : push s x = merge s (told [x]) := by
  rw [told_singleton, push, merge, if_neg Nat.one_ne_zero]
  split
  · rfl
  · have hCount : (s.count : ℚ) + 1 ≠ 0 := Nat.cast_add_one_ne_zero s.count
    simp only [ofNat_rat, Nat.cast_add, Nat.cast_one, Running.mk.injEq, true_and, and_true]
    constructor
    · rw [mul_one]
    · field_simp
      ring

theorem ofList_eq_told (xs : List ℚ) : ofList xs = told xs := by
  induction xs using List.reverseRecOn with
  | nil => exact told_nil.symm
  | append_singleton xs x hXs =>
      calc ofList (xs ++ [x])
        _ = push (ofList xs) x := List.foldl_append
        _ = merge (told xs) (told [x]) := by rw [hXs, push_eq_merge]
        _ = told (xs ++ [x]) := merge_told xs [x]

theorem foldl_merge_told (shares : List (List ℚ)) (seen : List ℚ) :
    (shares.map told).foldl merge (told seen) = told (seen ++ shares.flatten) := by
  induction shares generalizing seen with
  | nil => rw [List.flatten_nil, List.append_nil, List.map_nil, List.foldl_nil]
  | cons share rest hRest =>
      rw [List.map_cons, List.foldl_cons, merge_told, hRest, List.flatten_cons, List.append_assoc]

/-- However the values are shared out, all shares together are one pass over them. -/
theorem mergeAll_ofList (shares : List (List ℚ)) :
    mergeAll (shares.map ofList) = ofList shares.flatten := by
  have hShares : shares.map ofList = shares.map told :=
    List.map_congr_left fun xs _ => ofList_eq_told xs
  rw [hShares, mergeAll, ← told_nil, foldl_merge_told, List.nil_append, ofList_eq_told]

/-- The order of the values makes no difference. -/
theorem told_perm {xs ys : List ℚ} (hPerm : xs.Perm ys) : told xs = told ys := by
  have hMin : xs.min? = ys.min? := by
    apply Option.ext
    intro a
    simp only [List.min?_eq_some_iff, hPerm.mem_iff]
  have hMax : xs.max? = ys.max? := by
    apply Option.ext
    intro a
    simp only [List.max?_eq_some_iff, hPerm.mem_iff]
  simp only [told, meanOf, deviations, hPerm.length_eq, hPerm.sum_eq, (hPerm.map _).sum_eq, hMin,
    hMax]

theorem isLeast_told {xs : List ℚ} (hSome : xs ≠ []) : IsLeast {x | x ∈ xs} (told xs).min := by
  obtain ⟨a, hA⟩ := Option.ne_none_iff_exists'.mp (List.min?_eq_none_iff.not.mpr hSome)
  have hLeast := List.min?_eq_some_iff.mp hA
  simp only [told, hA, Option.getD_some]
  exact ⟨hLeast.1, fun b hB => hLeast.2 b hB⟩

theorem isGreatest_told {xs : List ℚ} (hSome : xs ≠ []) :
    IsGreatest {x | x ∈ xs} (told xs).max := by
  obtain ⟨a, hA⟩ := Option.ne_none_iff_exists'.mp (List.max?_eq_none_iff.not.mpr hSome)
  have hGreatest := List.max?_eq_some_iff.mp hA
  simp only [told, hA, Option.getD_some]
  exact ⟨hGreatest.1, fun b hB => hGreatest.2 b hB⟩

/-- With fractions in place of doubles, an accumulator that takes in another holds what one would
that has seen the values of both, in order, whether or not either has seen any. The mean is that of
the values, the second moment sums the squares of their deviations from it, and the extremes are
theirs. So the latencies of a load come out the same however they are shared out among the workers,
and in whatever order each has seen its own. -/
theorem merged_shares_are_one_pass :
    (∀ xs ys : List ℚ, merge (ofList xs) (ofList ys) = ofList (xs ++ ys)) ∧
    (∀ xs : List ℚ, let s := ofList xs
      s.count = xs.length ∧ s.mean = xs.sum / xs.length ∧
      s.m2 = (xs.map fun x => (x - s.mean) ^ 2).sum ∧
      (xs ≠ [] → IsLeast {x | x ∈ xs} s.min ∧ IsGreatest {x | x ∈ xs} s.max)) ∧
    (∀ shares shares' : List (List ℚ), shares.flatten.Perm shares'.flatten →
      mergeAll (shares.map ofList) = mergeAll (shares'.map ofList)) ∧
    (∀ s : LoadSummary, s.latency = mergeAll (s.workers.map WorkerReport.latency)) := by
  constructor
  · intro xs ys
    rw [ofList_eq_told, ofList_eq_told, ofList_eq_told, merge_told]
  constructor
  · intro xs s
    have hTold : s = told xs := ofList_eq_told xs
    rw [hTold]
    exact ⟨rfl, rfl, rfl, fun hSome => ⟨isLeast_told hSome, isGreatest_told hSome⟩⟩
  constructor
  · intro shares shares' hPerm
    rw [mergeAll_ofList, mergeAll_ofList, ofList_eq_told, ofList_eq_told, told_perm hPerm]
  · intro s
    rfl

/-- Three latencies of three workers, one of them without any, against the same three of one. -/
theorem merged_shares_are_one_pass_three :
    mergeAll ([[3, 1], [], [2]].map ofList) = mergeAll ([[(1 : ℚ), 2, 3]].map ofList) ∧
      IsLeast {x : ℚ | x ∈ [3, 1]} (ofList [3, 1]).min := by
  obtain ⟨-, hTold, hShares, -⟩ := merged_shares_are_one_pass
  have hPerm : [[3, 1], [], [2]].flatten.Perm [[(1 : ℚ), 2, 3]].flatten := by decide +kernel
  obtain ⟨-, -, -, hExtremes⟩ := hTold [3, 1]
  exact ⟨hShares _ _ hPerm, (hExtremes (by decide)).1⟩

end Running
end BulkLoad
