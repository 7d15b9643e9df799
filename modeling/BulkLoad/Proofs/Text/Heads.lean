import Mathlib.Data.List.TakeDrop

/-!
What follows a run of characters of one kind: nothing, or a character of another kind.
-/
namespace BulkLoad

/-- No character of the kind stands at the head. -/
def StopsAt (kind : Char → Bool) (cs : List Char) : Prop := ∀ c ∈ cs.head?, kind c = false

namespace StopsAt

variable {kind : Char → Bool} {run rest : List Char} {c : Char}

theorem nil : StopsAt kind [] := nofun

theorem cons (hOther : kind c = false) : StopsAt kind (c :: rest) := by
  intro d hd
  obtain rfl := Option.mem_some.mp hd
  exact hOther

theorem imp {other : Char → Bool} (hStop : StopsAt kind rest)
    (hKind : ∀ c, kind c = false → other c = false) : StopsAt other rest :=
  fun c hc => hKind c (hStop c hc)

theorem takeWhile_append (hStop : StopsAt kind rest) (hRun : ∀ c ∈ run, kind c = true) :
    (run ++ rest).takeWhile kind = run := by
  induction run with
  | nil =>
      cases rest with
      | nil => rfl
      | cons c rest => simp [hStop c rfl]
  | cons c run ih =>
      obtain ⟨hHead, hTail⟩ := List.forall_mem_cons.mp hRun
      rw [List.cons_append, List.takeWhile_cons_of_pos hHead, ih hTail]

theorem dropWhile_append (hStop : StopsAt kind rest) (hRun : ∀ c ∈ run, kind c = true) :
    (run ++ rest).dropWhile kind = rest := by
  induction run with
  | nil =>
      cases rest with
      | nil => rfl
      | cons c rest => simp [hStop c rfl]
  | cons c run ih =>
      obtain ⟨hHead, hTail⟩ := List.forall_mem_cons.mp hRun
      rw [List.cons_append, List.dropWhile_cons_of_pos hHead, ih hTail]

theorem span_append (hStop : StopsAt kind rest) (hRun : ∀ c ∈ run, kind c = true) :
    (run ++ rest).span kind = (run, rest) := by
  rw [List.span_eq_takeWhile_dropWhile, hStop.takeWhile_append hRun, hStop.dropWhile_append hRun]

end StopsAt
end BulkLoad
