import BulkLoad.Pool

/-!
What is done with a pool and with the values that it hands out.

An operation reaches the queue of idle values at most once, so what several threads do is one
history, in the order in which they get there. A history keeps books of the values that it sees
leave the pool and come back.
-/
namespace BulkLoad

/-- What somebody holds a value in: a variable, empty once the value is put back, or a guard. -/
inductive Hand (α : Type) where
  | plain (value : Option α)
  | guarded (guard : Pooled α)

namespace Hand

variable {α β : Type}

def value? : Hand α → Option α
  | plain value => value
  | guarded guard => guard.value

def write (f : α → α) : Hand α → Hand α
  | plain value => plain (value.map f)
  | guarded guard => guarded (guard.write f)

/-- What is left when the holder is done: a value is released, a guard is dropped. -/
def putBack [Reusable α] (p : Pool α) : Hand α → Hand α × Pool α
  | plain (some a) => (plain none, p.release a)
  | plain none => (plain none, p)
  | guarded guard => (guarded (guard.drop p).1, (guard.drop p).2)

/-- The same value without its guard. -/
def unguarded (hand : Hand α) : Hand α := plain hand.value?

@[simp] theorem value?_write (f : α → α) (hand : Hand α) :
    (hand.write f).value? = hand.value?.map f := by
  cases hand <;> rfl

@[simp] theorem value?_unguarded (hand : Hand α) : hand.unguarded.value? = hand.value? := rfl

@[simp] theorem unguarded_write (f : α → α) (hand : Hand α) :
    (hand.write f).unguarded = hand.unguarded.write f := by
  cases hand <;> rfl

/-- However a value is held, it goes back into the pool by a release. -/
theorem putBack_of_value [Reusable α] {hand : Hand α} {a : α} (hValue : hand.value? = some a)
    (p : Pool α) : (hand.putBack p).1.value? = none ∧ (hand.putBack p).2 = p.release a := by
  cases hand with
  | plain value =>
      obtain rfl : value = some a := hValue
      exact ⟨rfl, rfl⟩
  | guarded guard =>
      have hGuard : guard.value = some a := hValue
      simp [putBack, Pooled.drop, hGuard, value?]

theorem putBack_of_none [Reusable α] {hand : Hand α} (hValue : hand.value? = none) (p : Pool α) :
    hand.putBack p = (hand, p) := by
  cases hand with
  | plain value =>
      obtain rfl : value = none := hValue
      rfl
  | guarded guard =>
      have hGuard : guard.value = none := hValue
      simp [putBack, Pooled.drop, hGuard]

/-- Dropping a guard is releasing its value. -/
theorem putBack_unguarded [Reusable α] (hand : Hand α) (p : Pool α) :
    hand.unguarded.putBack p = ((hand.putBack p).1.unguarded, (hand.putBack p).2) := by
  cases hValue : hand.value? with
  | none =>
      rw [putBack_of_none hValue, putBack_of_none ((value?_unguarded hand).trans hValue)]
  | some a =>
      obtain ⟨hLeft, hPool⟩ := putBack_of_value hValue p
      simp only [unguarded, hValue, hLeft, hPool]
      rfl

end Hand

namespace Pool

/-- One operation on a pool, or on one of the values held; hands are numbered as they come. -/
inductive Use (α : Type) where
  | acquire
  | guard
  | write (hand : Nat) (f : α → α)
  /-- The holder is done: a value is released, a guard is dropped. -/
  | putBack (hand : Nat)
  /-- Somebody comes with a value of their own, which is not from the pool. -/
  | bring (a : α)

/-- A value taken plainly in place of one under a guard. -/
def Use.unguarded {α : Type} : Use α → Use α
  | guard => acquire
  | use => use

/-- A pool, those who hold values, and the values that have gone through. -/
structure History (α : Type) where
  pool : Pool α
  hands : List (Hand α) := []
  /-- Handed out, as they were then. -/
  given : List α := []
  /-- Handed out, and not new. -/
  reused : List α := []
  /-- Put back into the pool, as they are there. -/
  kept : List α := []
  /-- Put back without effect, as they were held. -/
  discarded : List α := []

namespace History

variable {α : Type} [Reusable α] {h : History α}

/-- The values in the hands of others. -/
def held (h : History α) : List α := h.hands.filterMap Hand.value?

/-- The pool gave a value. It is a new one if the factory was called. -/
def give (h : History α) (hand : Hand α) (pool : Pool α) : History α :=
  { h with
    pool
    hands := h.hands ++ [hand]
    given := h.given ++ hand.value?.toList
    reused :=
      if pool.built = h.pool.built then h.reused ++ hand.value?.toList else h.reused }

/-- A holder is done. The value is in the pool if that has grown. -/
def takeBack (h : History α) (i : Nat) (hand : Hand α) : History α :=
  let (left, pool) := hand.putBack h.pool
  let back := { h with pool, hands := h.hands.set i left }
  if h.pool.available < pool.available then
    { back with kept := h.kept ++ (hand.value?.map Reusable.reset).toList }
  else { back with discarded := h.discarded ++ hand.value?.toList }

def use (h : History α) : Use α → History α
  | .acquire => h.give (.plain (some h.pool.acquire.1)) h.pool.acquire.2
  | .guard => h.give (.guarded h.pool.acquireGuard.1) h.pool.acquireGuard.2
  | .write i f =>
    match h.hands[i]? with
    | some hand => { h with hands := h.hands.set i (hand.write f) }
    | none => h
  | .putBack i =>
    match h.hands[i]? with
    | some hand => h.takeBack i hand
    | none => h
  | .bring a => { h with hands := h.hands ++ [.plain (some a)] }

/-- What has become of a new pool. -/
def after (requested : Nat) (uses : List (Use α)) : History α :=
  uses.foldl use { pool := .ofCapacity requested }

/-- What a use can do. -/
inductive Move (h : History α) : Use α → History α → Prop
  | reuse {use : Use α} {hand : Hand α} {a : α} {idle : List α}
      (hUse : use = .acquire ∨ use = .guard) (hIdle : h.pool.idle = a :: idle)
      (hValue : hand.value? = some a) :
      Move h use { h with pool := { h.pool with idle }, hands := h.hands ++ [hand],
                          given := h.given ++ [a], reused := h.reused ++ [a] }
  | build {use : Use α} {hand : Hand α}
      (hUse : use = .acquire ∨ use = .guard) (hIdle : h.pool.idle = [])
      (hValue : hand.value? = some (Reusable.make h.pool.built)) :
      Move h use { h with pool := { h.pool with built := h.pool.built + 1 },
                          hands := h.hands ++ [hand],
                          given := h.given ++ [Reusable.make h.pool.built] }
  | write {i : Nat} {hand : Hand α} (f : α → α) (hHand : h.hands[i]? = some hand) :
      Move h (.write i f) { h with hands := h.hands.set i (hand.write f) }
  /-- There is no such hand. -/
  | unwritten (i : Nat) (f : α → α) : Move h (.write i f) h
  | keep {i : Nat} {hand left : Hand α} {a : α} (hHand : h.hands[i]? = some hand)
      (hValue : hand.value? = some a) (hLeft : left.value? = none)
      (hRoom : h.pool.available < h.pool.capacity) :
      Move h (.putBack i) { h with pool := { h.pool with idle := h.pool.idle ++ [Reusable.reset a] },
                                   hands := h.hands.set i left,
                                   kept := h.kept ++ [Reusable.reset a] }
  | discard {i : Nat} {hand left : Hand α} {a : α} (hHand : h.hands[i]? = some hand)
      (hValue : hand.value? = some a) (hLeft : left.value? = none)
      (hFull : h.pool.capacity ≤ h.pool.available) :
      Move h (.putBack i) { h with hands := h.hands.set i left, discarded := h.discarded ++ [a] }
  /-- There is no such hand, or it is empty. -/
  | nothing (i : Nat) : Move h (.putBack i) h
  | bring (a : α) : Move h (.bring a) { h with hands := h.hands ++ [.plain (some a)] }

theorem move_give {use : Use α} {hand : Hand α} (hUse : use = .acquire ∨ use = .guard)
    (hValue : hand.value? = some h.pool.acquire.1) : Move h use (h.give hand h.pool.acquire.2) := by
  cases hIdle : h.pool.idle with
  | nil =>
      simp only [acquire, hIdle] at hValue
      have hGive := Move.build hUse hIdle hValue
      simpa [give, acquire, hIdle, hValue] using hGive
  | cons a idle =>
      simp only [acquire, hIdle] at hValue
      have hGive := Move.reuse hUse hIdle hValue
      simpa [give, acquire, hIdle, hValue] using hGive

theorem move_takeBack {i : Nat} {hand : Hand α} (hHand : h.hands[i]? = some hand) :
    Move h (.putBack i) (h.takeBack i hand) := by
  cases hValue : hand.value? with
  | none =>
      have hSame : h.hands.set i hand = h.hands := by
        obtain ⟨hLt, hGet⟩ := List.getElem?_eq_some_iff.mp hHand
        rw [← hGet, List.set_getElem_self]
      simpa [takeBack, Hand.putBack_of_none hValue, hSame, hValue] using Move.nothing i
  | some a =>
      obtain ⟨hLeft, hPool⟩ := Hand.putBack_of_value hValue h.pool
      by_cases hRoom : h.pool.available < h.pool.capacity
      · have hGrown : h.pool.available < (h.pool.release a).available := by
          simp only [available] at hRoom ⊢
          simp [release, hRoom]
        have hKeep := Move.keep hHand hValue hLeft hRoom
        have hRelease : h.pool.release a = { h.pool with idle := h.pool.idle ++ [Reusable.reset a] } :=
          if_pos hRoom
        simpa [takeBack, hPool, hGrown, hValue, ← hRelease] using hKeep
      · have hRelease : h.pool.release a = h.pool := if_neg hRoom
        have hDiscard := Move.discard hHand hValue hLeft (Nat.le_of_not_lt hRoom)
        simpa [takeBack, hPool, hRelease, hValue] using hDiscard

theorem move_use (h : History α) (use : Use α) : Move h use (h.use use) := by
  cases use with
  | acquire => exact move_give (.inl rfl) rfl
  | guard => exact move_give (.inr rfl) rfl
  | write i f =>
      simp only [History.use]
      split
      · rename_i hand hHand
        exact .write f hHand
      · exact .unwritten i f
  | putBack i =>
      simp only [History.use]
      split
      · rename_i hand hHand
        exact move_takeBack hHand
      · exact .nothing i
  | bring a => exact .bring a

/-- The factory is called only when nothing is idle. -/
theorem Move.built {use : Use α} {next : History α} (hMove : Move h use next)
    (hBuilt : next.pool.built ≠ h.pool.built) :
    next.pool.built = h.pool.built + 1 ∧ h.pool.available = 0 ∧ (use = .acquire ∨ use = .guard) := by
  cases hMove with
  | build hUse hIdle hValue => exact ⟨rfl, by simp [available, hIdle], hUse⟩
  | _ => exact absurd rfl hBuilt

/-- A value is discarded only when it is put back into a full pool. -/
theorem Move.discarded {use : Use α} {next : History α} (hMove : Move h use next)
    (hBound : h.pool.available ≤ h.pool.capacity) (hDiscarded : next.discarded ≠ h.discarded) :
    ∃ i hand a, use = .putBack i ∧ h.hands[i]? = some hand ∧ hand.value? = some a ∧
      next.discarded = h.discarded ++ [a] ∧ h.pool.available = h.pool.capacity := by
  cases hMove with
  | discard hHand hValue hLeft hFull =>
      exact ⟨_, _, _, rfl, hHand, hValue, rfl, Nat.le_antisymm hBound hFull⟩
  | _ => exact absurd rfl hDiscarded

/-! ### Guards -/

/-- The same history without guards. -/
def unguarded (h : History α) : History α := { h with hands := h.hands.map Hand.unguarded }

omit [Reusable α] in
theorem unguarded_give (h : History α) (hand : Hand α) (pool : Pool α) :
    (h.give hand pool).unguarded = h.unguarded.give hand.unguarded pool := by
  simp only [give, unguarded, Hand.value?_unguarded, List.map_append, List.map_cons, List.map_nil]
  rfl

theorem unguarded_takeBack (h : History α) (i : Nat) (hand : Hand α) :
    (h.takeBack i hand).unguarded = h.unguarded.takeBack i hand.unguarded := by
  simp only [takeBack, unguarded, Hand.putBack_unguarded, Hand.value?_unguarded]
  split <;> simp [List.map_set]

omit [Reusable α] in
theorem unguarded_getElem? (h : History α) (i : Nat) :
    h.unguarded.hands[i]? = h.hands[i]?.map Hand.unguarded :=
  List.getElem?_map

/-- Guards change nothing but what a value is held in. -/
theorem unguarded_use (h : History α) (use : Use α) :
    (h.use use).unguarded = h.unguarded.use use.unguarded := by
  cases use with
  | acquire => exact unguarded_give h _ _
  | guard => exact unguarded_give h _ _
  | write i f =>
      simp only [History.use, Use.unguarded, unguarded_getElem?]
      cases h.hands[i]? with
      | none => rfl
      | some hand => simp [unguarded, List.map_set]
  | putBack i =>
      simp only [History.use, Use.unguarded, unguarded_getElem?]
      cases h.hands[i]? with
      | none => rfl
      | some hand => exact unguarded_takeBack h i hand
  | bring a => simp only [History.use, unguarded, Use.unguarded, List.map_append]; rfl

end History
end Pool
end BulkLoad
