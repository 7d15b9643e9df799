import BulkLoad.Batch.Factory
import BulkLoad.Proofs.Pool.History

/-!
Where the values of a pool are.

A value is known by the number under which the factory built it. Resetting it and writing to it leave
the number, and the pool does not see it, so a history with numbers goes like the one without. In
every history each value that was built is idle once, held once or discarded, whatever is idle has
been reset, and what comes out is what was put back first.
-/
namespace BulkLoad

/-- A value with the number under which it was built, if it is from the factory. -/
structure Marked (α : Type) where
  serial : Option Nat
  value : α

namespace Marked

variable {α : Type}

def write (f : α → α) (m : Marked α) : Marked α := { m with value := f m.value }

instance [Reusable α] : Reusable (Marked α) where
  make n := { serial := some n, value := Reusable.make n }
  reset := write Reusable.reset

/-- The numbers of those values that are from the factory. -/
def serials (ms : List (Marked α)) : List Nat := ms.filterMap serial

@[simp] theorem serials_append (ms ns : List (Marked α)) :
    serials (ms ++ ns) = serials ms ++ serials ns :=
  List.filterMap_append

@[simp] theorem serials_singleton (m : Marked α) : serials [m] = m.serial.toList := by
  rcases m with ⟨_ | n, a⟩ <;> rfl

end Marked

namespace Pool

variable {α : Type}

/-- The pool of the values without their numbers. -/
def unmarked (p : Pool (Marked α)) : Pool α := { p with idle := p.idle.map Marked.value }

@[simp] theorem available_unmarked (p : Pool (Marked α)) :
    p.unmarked.available = p.available :=
  List.length_map Marked.value

variable [Reusable α]

@[simp] theorem unmarked_acquire (p : Pool (Marked α)) :
    p.unmarked.acquire = (p.acquire.1.value, p.acquire.2.unmarked) := by
  rcases p with ⟨capacity, _ | ⟨m, idle⟩, built⟩ <;> rfl

theorem unmarked_release (p : Pool (Marked α)) (m : Marked α) :
    (p.release m).unmarked = p.unmarked.release m.value := by
  simp only [release, unmarked, List.length_map]
  split
  · simp only [List.map_append]
    rfl
  · rfl

end Pool

namespace Hand

variable {α : Type}

/-- What holds a value, without its number. -/
def unmarked : Hand (Marked α) → Hand α
  | plain value => plain (value.map Marked.value)
  | guarded guard => guarded { value := guard.value.map Marked.value }

@[simp] theorem value?_unmarked (hand : Hand (Marked α)) :
    hand.unmarked.value? = hand.value?.map Marked.value := by
  cases hand <;> rfl

@[simp] theorem unmarked_write (f : α → α) (hand : Hand (Marked α)) :
    (hand.write (Marked.write f)).unmarked = hand.unmarked.write f := by
  cases hand with
  | plain value => cases value <;> rfl
  | guarded guard => rcases guard with ⟨_ | m⟩ <;> rfl

theorem putBack_unmarked [Reusable α] (hand : Hand (Marked α)) (p : Pool (Marked α)) :
    hand.unmarked.putBack p.unmarked =
      ((hand.putBack p).1.unmarked, (hand.putBack p).2.unmarked) := by
  rcases hand with (_ | m) | ⟨_ | m⟩
  · rfl
  · exact Prod.ext rfl (p.unmarked_release m).symm
  · rfl
  · exact Prod.ext rfl (p.unmarked_release m).symm

end Hand

namespace Pool

open Marked (serials)

variable {α : Type}

/-- The operation on values with numbers. A value that somebody comes with has none. -/
def Use.mark : Use α → Use (Marked α)
  | acquire => .acquire
  | guard => .guard
  | write hand f => .write hand (Marked.write f)
  | putBack hand => .putBack hand
  | bring a => .bring { serial := none, value := a }

/-- Writing leaves a value its number. -/
theorem Use.serial_write {use : Use α} {i : Nat} {f : Marked α → Marked α}
    (hUse : use.mark = .write i f) (m : Marked α) : (f m).serial = m.serial := by
  cases use with
  | write j g => cases hUse; rfl
  | _ => cases hUse

theorem Use.serial_bring {use : Use α} {m : Marked α} (hUse : use.mark = .bring m) :
    m.serial = none := by
  cases use with
  | bring a => cases hUse; rfl
  | _ => cases hUse

namespace History

/-- The same history without numbers. -/
def unmarked (h : History (Marked α)) : History α where
  pool := h.pool.unmarked
  hands := h.hands.map Hand.unmarked
  given := h.given.map Marked.value
  reused := h.reused.map Marked.value
  kept := h.kept.map Marked.value
  discarded := h.discarded.map Marked.value

theorem unmarked_give (h : History (Marked α)) (hand : Hand (Marked α))
    (pool : Pool (Marked α)) :
    (h.give hand pool).unmarked = h.unmarked.give hand.unmarked pool.unmarked := by
  have hList : (hand.value?.map Marked.value).toList = hand.value?.toList.map Marked.value := by
    cases hand.value? <;> rfl
  simp only [give, unmarked, Hand.value?_unmarked, hList, List.map_append, List.map_cons,
    List.map_nil, Pool.unmarked]
  split <;> simp

variable [Reusable α]

theorem unmarked_takeBack (h : History (Marked α)) (i : Nat) (hand : Hand (Marked α)) :
    (h.takeBack i hand).unmarked = h.unmarked.takeBack i hand.unmarked := by
  simp only [takeBack, unmarked, Hand.putBack_unmarked, available_unmarked, Hand.value?_unmarked]
  split
  · cases hand.value? <;> simp [List.map_set]; rfl
  · cases hand.value? <;> simp [List.map_set]

omit [Reusable α] in
theorem unmarked_getElem? (h : History (Marked α)) (i : Nat) :
    h.unmarked.hands[i]? = h.hands[i]?.map Hand.unmarked :=
  List.getElem?_map

/-- The pool does not see the numbers. -/
theorem unmarked_use (h : History (Marked α)) (use : Use α) :
    (h.use use.mark).unmarked = h.unmarked.use use := by
  cases use with
  | acquire =>
      simp only [History.use, Use.mark, unmarked_give]
      simp [unmarked, Hand.unmarked]
  | guard =>
      simp only [History.use, Use.mark, unmarked_give]
      simp [unmarked, Hand.unmarked, acquireGuard]
  | write i f =>
      simp only [History.use, Use.mark, unmarked_getElem?]
      cases h.hands[i]? with
      | none => rfl
      | some hand => simp [unmarked, List.map_set]
  | putBack i =>
      simp only [History.use, Use.mark, unmarked_getElem?]
      cases h.hands[i]? with
      | none => rfl
      | some hand => exact unmarked_takeBack h i hand
  | bring a => simp only [History.use, unmarked, Use.mark, List.map_append]; rfl

/-! ### Where the values are -/

/-- The numbers of all values from the factory, place by place. -/
def places (h : History (Marked α)) : List Nat :=
  serials h.pool.idle ++ serials h.held ++ serials h.discarded

/-- Where the values are that were built, and in which state. -/
structure Custody (IsReset : α → Prop) (requested : Nat) (h : History (Marked α)) : Prop where
  capacity : h.pool.capacity = max requested 1
  bound : h.pool.available ≤ h.pool.capacity
  idle : ∀ m ∈ h.pool.idle, IsReset m.value
  given : ∀ m ∈ h.given, IsReset m.value
  /-- What has been put back comes out in that order. -/
  order : h.reused ++ h.pool.idle = h.kept
  /-- Each value is in one place. -/
  places : h.places.Perm (List.range h.pool.built)

omit [Reusable α] in
theorem held_append (hands : List (Hand (Marked α))) (hand : Hand (Marked α)) :
    (hands ++ [hand]).filterMap Hand.value? = hands.filterMap Hand.value? ++ hand.value?.toList := by
  cases hValue : hand.value? <;> simp [hValue]

omit [Reusable α] in
/-- One hand in the middle of the others. -/
theorem held_set {h : History (Marked α)} {i : Nat} {hand : Hand (Marked α)}
    (hHand : h.hands[i]? = some hand) (left : Hand (Marked α)) :
    ∃ before after : List (Marked α),
      h.held = before ++ hand.value?.toList ++ after ∧
        (h.hands.set i left).filterMap Hand.value? = before ++ left.value?.toList ++ after := by
  obtain ⟨hLt, hGet⟩ := List.getElem?_eq_some_iff.mp hHand
  obtain ⟨before, after, hHands, -, hSet⟩ := @List.exists_of_set _ i left h.hands hLt
  refine ⟨before.filterMap Hand.value?, after.filterMap Hand.value?, ?_, ?_⟩
  · rw [held, hHands, hGet, List.filterMap_append, List.filterMap_cons]
    cases hand.value? <;> simp
  · rw [hSet, List.filterMap_append, List.filterMap_cons]
    cases left.value? <;> simp

variable {IsReset : α → Prop} {requested : Nat} {h next : History (Marked α)}

/-- A value that moves is in another place, and only a new one adds a number. -/
theorem places_of_move {use : Use α} (hMove : Move h use.mark next)
    (hPlaces : h.places.Perm (List.range h.pool.built)) :
    next.places.Perm (List.range next.pool.built) := by
  generalize hMark : use.mark = marked at hMove
  cases hMove with
  | @reuse marked hand m idle hUse hFirst hValue =>
      refine List.Perm.trans ?_ hPlaces
      have hIdle : h.pool.idle = [m] ++ idle := hFirst
      simp only [places, held, held_append, hIdle, hValue, Option.toList_some,
        Marked.serials_append, List.append_assoc]
      exact ((List.perm_append_comm_assoc _ _ _).append_left _).trans
        (List.perm_append_comm_assoc _ _ _)
  | @build marked hand hUse hEmpty hValue =>
      have hNew : serials [(Reusable.make h.pool.built : Marked α)] = [h.pool.built] := rfl
      rw [List.range_succ]
      refine List.Perm.trans ?_ (hPlaces.append_right [h.pool.built])
      simp only [places, held, held_append, hValue, Option.toList_some, Marked.serials_append, hNew,
        List.append_assoc]
      exact (List.perm_append_comm.append_left _).append_left _
  | @write i hand f hHand =>
      obtain ⟨before, after, hHeld, hSet⟩ := held_set hHand (hand.write f)
      simp only [places, hHeld, Marked.serials_append] at hPlaces
      simp only [places, held, hSet, Marked.serials_append, Hand.value?_write]
      cases hValue : hand.value? with
      | none => simpa [hValue] using hPlaces
      | some m => simpa [hValue, Use.serial_write hMark m] using hPlaces
  | unwritten i f => exact hPlaces
  | @keep i hand left m hHand hValue hLeft hRoom =>
      obtain ⟨before, after, hHeld, hSet⟩ := held_set hHand left
      refine List.Perm.trans ?_ hPlaces
      have hBack : serials [Reusable.reset m] = serials [m] := rfl
      rw [places, held, hSet, places, hHeld]
      simp only [hBack, hValue, hLeft, Option.toList_some, Option.toList_none, List.append_nil,
        Marked.serials_append, List.append_assoc]
      exact (List.perm_append_comm_assoc _ _ _).append_left _
  | @discard i hand left m hHand hValue hLeft hFull =>
      obtain ⟨before, after, hHeld, hSet⟩ := held_set hHand left
      refine List.Perm.trans ?_ hPlaces
      rw [places, held, hSet, places, hHeld]
      simp only [hValue, hLeft, Option.toList_some, Option.toList_none, List.append_nil,
        Marked.serials_append, List.append_assoc]
      refine List.Perm.append_left _ (List.Perm.append_left _ ?_)
      rw [← List.append_assoc]
      exact List.perm_append_comm
  | nothing i => exact hPlaces
  | bring m =>
      simpa [places, held, serials, Hand.value?, Use.serial_bring hMark] using hPlaces

theorem Custody.step (hMake : ∀ n, IsReset (Reusable.make n))
    (hReset : ∀ a, IsReset (Reusable.reset a)) (hCustody : Custody IsReset requested h)
    (use : Use α) : Custody IsReset requested (h.use use.mark) := by
  have hMove := move_use h use.mark
  have hPlaces := places_of_move hMove hCustody.places
  generalize h.use use.mark = next at hMove hPlaces
  obtain ⟨hCapacity, hBound, hIdle, hGiven, hOrder, -⟩ := hCustody
  generalize use.mark = marked at hMove
  cases hMove with
  | @reuse marked hand m idle hUse hFirst hValue =>
      rw [available, hFirst] at hBound
      rw [hFirst] at hIdle hOrder
      obtain ⟨hFirstReset, hRest⟩ := List.forall_mem_cons.mp hIdle
      refine ⟨hCapacity, Nat.le_of_succ_le hBound, hRest, ?_, ?_, hPlaces⟩
      · exact List.forall_mem_append.mpr ⟨hGiven, List.forall_mem_singleton.mpr hFirstReset⟩
      · simpa using hOrder
  | @build marked hand hUse hEmpty hValue =>
      have hNew : IsReset (Reusable.make h.pool.built : Marked α).value := hMake h.pool.built
      refine ⟨hCapacity, hBound, hIdle, ?_, hOrder, hPlaces⟩
      exact List.forall_mem_append.mpr ⟨hGiven, List.forall_mem_singleton.mpr hNew⟩
  | @keep i hand left m hHand hValue hLeft hRoom =>
      have hBack : IsReset (Reusable.reset m : Marked α).value := hReset m.value
      refine ⟨hCapacity, ?_, ?_, hGiven, ?_, hPlaces⟩
      · rw [available, List.length_append]
        exact hRoom
      · exact List.forall_mem_append.mpr ⟨hIdle, List.forall_mem_singleton.mpr hBack⟩
      · rw [← hOrder, List.append_assoc]
  | _ => exact ⟨hCapacity, hBound, hIdle, hGiven, hOrder, hPlaces⟩

theorem Custody.run (hMake : ∀ n, IsReset (Reusable.make n))
    (hReset : ∀ a, IsReset (Reusable.reset a)) (hCustody : Custody IsReset requested h)
    (uses : List (Use α)) : Custody IsReset requested ((uses.map Use.mark).foldl History.use h) := by
  induction uses generalizing h with
  | nil => exact hCustody
  | cons use uses ih => exact ih (hCustody.step hMake hReset use)

omit [Reusable α] in
/-- A new pool has nothing. -/
theorem Custody.start (IsReset : α → Prop) (requested : Nat) :
    Custody IsReset requested { pool := .ofCapacity requested } :=
  ⟨rfl, Nat.zero_le _, by simp [ofCapacity], by simp, rfl, .refl _⟩

/-- Whatever is done with a pool and with the values that it hands out: a value is in its reset state
when it is handed out, each one that the factory built is in one place, what is idle comes out in the
order in which it was put back, and no more is idle than the pool has room for. The factory is called
only when nothing is idle, and a value is discarded only when it comes back to a full pool. It is all
the same whether values are held under guards. -/
theorem custody_of_uses (hMake : ∀ n, IsReset (Reusable.make n))
    (hReset : ∀ a, IsReset (Reusable.reset a)) (requested : Nat) (uses : List (Use α)) :
    let h := after requested uses
    let marked := after requested (uses.map Use.mark)
    marked.unmarked = h ∧ marked.Custody IsReset requested ∧
      (∀ use,
        ((h.use use).pool.built ≠ h.pool.built →
          (h.use use).pool.built = h.pool.built + 1 ∧ h.pool.available = 0 ∧
            (use = .acquire ∨ use = .guard)) ∧
        ((h.use use).discarded ≠ h.discarded →
          ∃ i hand a, use = .putBack i ∧ h.hands[i]? = some hand ∧ hand.value? = some a ∧
            (h.use use).discarded = h.discarded ++ [a] ∧ h.pool.available = h.pool.capacity)) ∧
      h.unguarded = after requested (uses.map Use.unguarded) := by
  intro h marked
  have hCustody : marked.Custody IsReset requested :=
    (Custody.start IsReset requested).run hMake hReset uses
  have hSame : marked.unmarked = h := by
    simp only [marked, h, after, List.foldl_map]
    exact (List.foldl_hom unmarked fun h use => (unmarked_use h use).symm).symm
  have hBound : h.pool.available ≤ h.pool.capacity := by
    rw [← hSame]
    exact Nat.le_trans (Nat.le_of_eq (available_unmarked _)) hCustody.bound
  refine ⟨hSame, hCustody, fun use => ?_, ?_⟩
  · have hMove := move_use h use
    exact ⟨hMove.built, hMove.discarded hBound⟩
  · simp only [h, after, List.foldl_map]
    exact (List.foldl_hom unguarded fun h use => (unguarded_use h use).symm).symm

/-- A batch and a guarded one come back to a pool for one; the first is kept and goes out again. -/
def twoBatches : List (Use LineBatch) :=
  [.acquire, .write 0 fun b => { b with newestFirst := [[0x61]], points := 1 }, .guard, .putBack 0,
    .putBack 1, .acquire]

theorem custody_of_uses_twoBatches :
    let marked := after 0 (twoBatches.map Use.mark)
    (∀ n, (Reusable.make n : LineBatch) = .empty) ∧ (∀ b : LineBatch, Reusable.reset b = .empty) ∧
      marked.Custody (· = .empty) 0 ∧ serials marked.given = [0, 1, 0] ∧
      serials marked.discarded = [1] :=
  ⟨fun _ => rfl, fun _ => rfl,
    (custody_of_uses (fun _ => rfl) (fun _ => rfl) 0 twoBatches).2.1, rfl, rfl⟩

end History
end Pool
end BulkLoad
