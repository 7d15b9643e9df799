import BulkLoad.Dispatch.Basic
import Mathlib.Data.List.Basic

/-!
Which points dispatch takes from a source, and which channel each of them goes to.
-/
namespace BulkLoad

namespace Indexer

variable {ι : Type} [Indexer ι]

/-- The channels picked for points that come one after another. -/
def picks (x : ι) : List Point → List Nat
  | [] => []
  | p :: points => (pick x p).1 :: picks (pick x p).2 points

/-- Those of the points that were routed to a channel, in order. -/
def routed (x : ι) (channel : Nat) (points : List Point) : List Point :=
  ((points.zip (picks x points)).filter fun routing => routing.2 = channel).map Prod.fst

@[simp] theorem routed_nil (x : ι) (channel : Nat) : routed x channel [] = [] := rfl

theorem routed_cons_self (x : ι) (p : Point) (points : List Point) :
    routed x (pick x p).1 (p :: points) = p :: routed (pick x p).2 (pick x p).1 points := by
  simp [routed, picks]

theorem routed_cons_of_ne {x : ι} {p : Point} {channel : Nat} (hOther : (pick x p).1 ≠ channel)
    (points : List Point) : routed x channel (p :: points) = routed (pick x p).2 channel points := by
  simp [routed, picks, hOther]

/-- An indexer that never changes gives each channel the points that it picks the channel for. -/
theorem routed_of_steady {x : ι} {place : Point → Nat} (hSteady : ∀ p, pick x p = (place p, x))
    (channel : Nat) (points : List Point) :
    routed x channel points = points.filter fun p => place p = channel := by
  induction points with
  | nil => rfl
  | cons p points ih =>
      by_cases hHere : place p = channel
      · have hPick : (pick x p).1 = channel := by rw [hSteady, hHere]
        have hRouted := routed_cons_self x p points
        rw [hPick, hSteady, ih] at hRouted
        rw [hRouted, List.filter_cons_of_pos (by simpa using hHere)]
      · have hPick : (pick x p).1 ≠ channel := by rwa [hSteady]
        rw [routed_cons_of_ne hPick, hSteady, ih, List.filter_cons_of_neg (by simpa using hHere)]

theorem length_picks (x : ι) (points : List Point) : (picks x points).length = points.length := by
  induction points generalizing x with
  | nil => rfl
  | cons p points ih => simp [picks, ih]

/-- Every point goes to one channel: the shares of the channels add up to the whole. -/
theorem sumOf_routed (weight : Point → Nat) {x : ι} {points : List Point} {channels : Nat}
    (hPicks : ∀ channel ∈ picks x points, channel < channels) :
    sumOf (fun channel => sumOf weight (routed x channel points)) (List.range channels) =
      sumOf weight points := by
  have hAll : ∀ routing ∈ points.zip (picks x points), routing.2 < channels :=
    fun routing hRouting => hPicks _ (List.of_mem_zip hRouting).2
  have hKinds := sumOf_kinds (fun routing : Point × Nat => weight routing.1) Prod.snd hAll
  have hPoints : (points.zip (picks x points)).map Prod.fst = points :=
    List.map_fst_zip (Nat.le_of_eq (length_picks x points).symm)
  rw [← sumOf_map weight Prod.fst, hPoints] at hKinds
  rw [← hKinds]
  apply sumOf_congr
  intro channel _
  rw [routed, sumOf_map]

end Indexer

namespace Source

/-- Whether a request for a point is answered, be it with the end. -/
def Item.Sound : Item → Prop
  | .failed _ => False
  | .crashed => False
  | _ => True

instance : DecidablePred Item.Sound
  | .point _ => isTrue trivial
  | .done => isTrue trivial
  | .failed _ => isFalse id
  | .crashed => isFalse id

/-- The points before the end of a source; an empty point is an end. -/
def leading : List Item → List Point
  | .point p :: items => if p.isEmpty then [] else p :: leading items
  | _ => []

def Stream.points (s : Stream) : List Point := leading s.items

end Source

namespace DispatchLimits

/-- The points that are still wanted when so many are taken. -/
def cut (limits : DispatchLimits) (taken : Nat) (points : List Point) : List Point :=
  match limits.limit with
  | none => points
  | some most => points.take (most - taken)

theorem cut_of_reached {limits : DispatchLimits} {taken : Nat} (hReached : limits.reached taken = true)
    (points : List Point) : limits.cut taken points = [] := by
  cases hLimit : limits.limit with
  | none => simp [reached, hLimit] at hReached
  | some most =>
      have hFull : most - taken = 0 := by simp [reached, hLimit] at hReached; omega
      simp [cut, hLimit, hFull]

theorem cut_cons {limits : DispatchLimits} {taken : Nat} (hOpen : limits.reached taken = false)
    (p : Point) (points : List Point) :
    limits.cut taken (p :: points) = p :: limits.cut (taken + 1) points := by
  cases hLimit : limits.limit with
  | none => simp [cut, hLimit]
  | some most =>
      have hLeft : most - taken = (most - (taken + 1)) + 1 := by
        simp [reached, hLimit] at hOpen; omega
      simp [cut, hLimit, hLeft]

@[simp] theorem cut_nil (limits : DispatchLimits) (taken : Nat) : limits.cut taken [] = [] := by
  unfold cut
  split <;> simp

theorem fullSize_pos (limits : DispatchLimits) : 0 < limits.fullSize :=
  Nat.lt_of_lt_of_le Nat.zero_lt_one (Nat.le_max_right ..)

end DispatchLimits
end BulkLoad
