/-!
A pool of reusable values.

Values come out in the order in which they were put back, and a new one is built only when none is
idle. A value is reset when it is put back; one that finds the pool full is discarded.
-/
namespace BulkLoad

/-- How values of a kind are built and cleared; `make n` is the value built after n others. -/
class Reusable (α : Type) where
  make : Nat → α
  reset : α → α

structure Pool (α : Type) where
  capacity : Nat
  idle : List α := []
  built : Nat := 0

namespace Pool

variable {α : Type} [Reusable α]

/-- A pool holds at least one value. -/
def ofCapacity (requested : Nat) : Pool α := { capacity := max requested 1 }

def available (p : Pool α) : Nat := p.idle.length

/-- The value that has been idle longest, or a new one. -/
def acquire (p : Pool α) : α × Pool α :=
  match p.idle with
  | a :: idle => (a, { p with idle })
  | [] => (Reusable.make p.built, { p with built := p.built + 1 })

def release (p : Pool α) (a : α) : Pool α :=
  if p.idle.length < p.capacity then { p with idle := p.idle ++ [Reusable.reset a] } else p

/-- A pool in words. -/
def text (p : Pool α) : String :=
  "Pool \x7b available: " ++ toString p.available ++ ", capacity: " ++ toString p.capacity ++
    " \x7d"

def releaseAll (p : Pool α) (values : List α) : Pool α := values.foldl release p

end Pool

/-- A value under a guard, which puts it back when it is dropped. Only dropping takes the value. -/
structure Pooled (α : Type) where
  value : Option α

namespace Pooled

variable {α : Type} [Reusable α]

def write (f : α → α) (g : Pooled α) : Pooled α := { value := g.value.map f }

/-- What is left of the guard, and the pool with its value. -/
def drop (g : Pooled α) (p : Pool α) : Pooled α × Pool α :=
  match g.value with
  | some a => ({ value := none }, p.release a)
  | none => (g, p)

end Pooled

namespace Pool

variable {α : Type} [Reusable α]

/-- Like `acquire`, under a guard. -/
def acquireGuard (p : Pool α) : Pooled α × Pool α :=
  let (a, p) := p.acquire
  ({ value := some a }, p)

@[simp] theorem capacity_acquire (p : Pool α) : p.acquire.2.capacity = p.capacity := by
  unfold acquire; split <;> rfl

@[simp] theorem capacity_release (p : Pool α) (a : α) : (p.release a).capacity = p.capacity := by
  unfold release; split <;> rfl

end Pool
end BulkLoad
