import BulkLoad.Batch.Basic
import Mathlib.Data.List.Basic

/-!
Which lines a batch accepts, and the batch that holds given lines.

A line is accepted if it has three sections, that is two spaces; the number of its rows is read off
the section in the middle.
-/
namespace BulkLoad

namespace Point

theorem splitOn_ne_nil (separator : UInt8) (s : Bytes) : splitOn separator s ≠ [] := by
  cases s with
  | nil => simp [splitOn]
  | cons b s =>
      simp only [splitOn, List.foldr_cons]
      split
      · simp
      · split <;> simp

theorem splitOn_cons_self (separator : UInt8) (s : Bytes) :
    splitOn separator (separator :: s) = [] :: splitOn separator s := by
  simp [splitOn]

theorem splitOn_cons_of_ne {separator b : UInt8} (hOther : b ≠ separator) {s part : Bytes}
    {more : List Bytes} (hTail : splitOn separator s = part :: more) :
    splitOn separator (b :: s) = (b :: part) :: more := by
  simp only [splitOn, List.foldr_cons, if_neg hOther] at hTail ⊢
  rw [hTail]

/-- The first part ends at the first separator, and the others are the parts of what follows. -/
theorem splitOn_eq (separator : UInt8) (s : Bytes) :
    splitOn separator s = s.takeWhile (· ≠ separator) ::
      match s.dropWhile (· ≠ separator) with
      | [] => []
      | _ :: rest => splitOn separator rest := by
  induction s with
  | nil => rfl
  | cons b s ih =>
      by_cases hSame : b = separator
      · subst hSame
        simp [splitOn_cons_self]
      · rw [splitOn_cons_of_ne hSame ih]
        simp [hSame]

theorem length_splitOn (separator : UInt8) (s : Bytes) :
    (splitOn separator s).length = s.count separator + 1 := by
  induction s with
  | nil => rfl
  | cons b s ih =>
      by_cases hSame : b = separator
      · subst hSame
        simp [splitOn_cons_self, ih]
      · obtain ⟨part, more, hTail⟩ := List.exists_cons_of_ne_nil (splitOn_ne_nil separator s)
        rw [hTail] at ih
        rw [splitOn_cons_of_ne hSame hTail, List.count_cons_of_ne hSame, ← ih]
        rfl

/-- Whether a batch takes a line. -/
def Accepted (line : Point) : Prop := ∃ count, rows line = .ok count

/-- The rows of an accepted line. -/
def rowCount (line : Point) : Nat :=
  match rows line with
  | .ok count => count
  | .error _ => 0

theorem Accepted.rows_eq {line : Point} (hAccepted : line.Accepted) :
    rows line = .ok line.rowCount := by
  obtain ⟨count, hRows⟩ := hAccepted
  simp [rowCount, hRows]

/-- What stands between the first space and the second. -/
def fields (line : Point) : Bytes :=
  ((line.dropWhile (· ≠ space)).drop 1).takeWhile (· ≠ space)

theorem accepted_iff (line : Point) : line.Accepted ↔ line.count space = 2 := by
  have hLength := length_splitOn space line
  unfold Accepted rows sections
  constructor
  · rintro ⟨count, hRows⟩
    split at hRows
    · rename_i hSections
      rw [hSections] at hLength
      simpa using hLength.symm
    · cases hRows
  · intro hSpaces
    rw [hSpaces] at hLength
    obtain ⟨series, fields, time, hSections⟩ := List.length_eq_three.mp hLength
    exact ⟨_, by rw [hSections]⟩

instance (line : Point) : Decidable line.Accepted :=
  decidable_of_iff _ (accepted_iff line).symm

/-- A line with two spaces has one row more than there are commas between them. -/
theorem rowCount_eq {line : Point} (hAccepted : line.Accepted) :
    line.rowCount = 1 + line.fields.count comma := by
  have hRows := hAccepted.rows_eq
  unfold rows sections at hRows
  split at hRows
  · rename_i series middle time hSections
    rw [splitOn_eq] at hSections
    cases hDrop : line.dropWhile (· ≠ space) with
    | nil =>
        rw [hDrop] at hSections
        cases hSections
    | cons b rest =>
        rw [hDrop] at hSections
        have hRest : splitOn space rest = [middle, time] := (List.cons.inj hSections).2
        rw [splitOn_eq] at hRest
        obtain ⟨hMiddle, -⟩ := List.cons.inj hRest
        have hFields : line.fields = middle := by
          rw [fields, hDrop, List.drop_one, List.tail_cons, hMiddle]
        rw [length_splitOn] at hRows
        injection hRows with hRows
        rw [← hRows, hFields, Nat.add_comm]
  · cases hRows

end Point

namespace LineBatch

/-- The batch that was given these lines. -/
def ofLines (lines : List Point) : LineBatch :=
  ⟨lines.reverse, lines.length, sumOf Point.rowCount lines⟩

@[simp] theorem ofLines_nil : ofLines [] = empty := rfl

@[simp] theorem lines_ofLines (lines : List Point) : (ofLines lines).lines = lines := by
  simp [ofLines, LineBatch.lines]

@[simp] theorem points_ofLines (lines : List Point) : (ofLines lines).points = lines.length := rfl

@[simp] theorem rows_ofLines (lines : List Point) :
    (ofLines lines).rows = sumOf Point.rowCount lines := rfl

theorem isEmpty_ofLines (lines : List Point) : (ofLines lines).isEmpty = lines.isEmpty := by
  cases lines with
  | nil => rfl
  | cons line lines => simp [isEmpty]

theorem append_ofLines {lines : List Point} {line : Point} (hAccepted : line.Accepted) :
    (ofLines lines).append line = .ok (ofLines (lines ++ [line])) := by
  simp [append, hAccepted.rows_eq, ofLines]

end LineBatch
end BulkLoad
