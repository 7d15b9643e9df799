import BulkLoad.Write.World
import Mathlib.Data.Nat.Find

/-!
The answers that a write may get, as an endless sequence, and the request that settles it.

A write is settled by the first success, or by the first refusal that completes a row of as many
refusals as there are attempts. An overload breaks a row and settles nothing.
-/
namespace BulkLoad

namespace Reply.Verdict

def isRefusal : Verdict → Bool
  | .refused _ => true
  | _ => false

end Reply.Verdict

/-- One answer for every request that a write may come to make. -/
abbrev Answers := Nat → Exchange

namespace Answers

variable (r : Answers) {attempts n : Nat}

def verdict (i : Nat) : Reply.Verdict := (r i).reply.verdict

/-- The overloads among the first `n` answers. -/
def overloads (n : Nat) : Nat := (List.range n).countP fun i => r.verdict i = .overloaded

/-- The first of the overloads among the first `n` answers. -/
def firstOverload? (n : Nat) : Option Nat :=
  (List.range n).find? fun i => r.verdict i = .overloaded

/-- The refusals among the first `n` answers. -/
def refusals (n : Nat) : Nat := (List.range n).countP fun i => (r.verdict i).isRefusal

/-- The first `n` answers end in so many refusals, with nothing between them. -/
def EndsRefused (count n : Nat) : Prop :=
  count ≤ n ∧ ∀ i, n ≤ i + count → i < n → (r.verdict i).isRefusal = true

/-- After `n` answers nothing is left to ask: the last one is a success, or the attempts are used up
by a row of refusals. -/
def Settles (attempts n : Nat) : Prop :=
  0 < n ∧ (r.verdict (n - 1) = .written ∨ r.EndsRefused attempts n)

/-- The number of requests at which a write is settled. -/
def SettlesFirst (attempts n : Nat) : Prop :=
  r.Settles attempts n ∧ ∀ k < n, ¬r.Settles attempts k

/-- The write is still going on after each of the first `n` answers. -/
def Open (attempts n : Nat) : Prop := ∀ k ≤ n, ¬r.Settles attempts k

/-- How many refusals the first `n` answers end in. -/
def streak : Nat → Nat
  | 0 => 0
  | n + 1 => if (r.verdict n).isRefusal then streak n + 1 else 0

variable {r}

theorem streak_succ_of_refused (hRefused : (r.verdict n).isRefusal = true) :
    r.streak (n + 1) = r.streak n + 1 := by
  simp [streak, hRefused]

theorem streak_succ_of_not_refused (hOther : (r.verdict n).isRefusal = false) :
    r.streak (n + 1) = 0 := by
  simp [streak, hOther]

theorem streak_add_of_refused {count : Nat}
    (hRefused : ∀ i, n ≤ i → (r.verdict i).isRefusal = true) :
    r.streak (n + count) = r.streak n + count := by
  induction count with
  | zero => rfl
  | succ count ih =>
      rw [← Nat.add_assoc, streak_succ_of_refused (hRefused _ (Nat.le_add_right ..)), ih,
        Nat.add_assoc]

theorem overloads_succ (n : Nat) :
    r.overloads (n + 1) = r.overloads n + if r.verdict n = .overloaded then 1 else 0 := by
  simp [overloads, List.range_succ, List.countP_append, List.countP_cons]

theorem firstOverload?_succ (n : Nat) : r.firstOverload? (n + 1) =
    (r.firstOverload? n).or (if r.verdict n = .overloaded then some n else none) := by
  by_cases hOverloaded : r.verdict n = .overloaded
  · simp [firstOverload?, List.range_succ, List.find?_append, hOverloaded]
  · simp [firstOverload?, List.range_succ, List.find?_append, hOverloaded]

theorem firstOverload?_eq_none_iff : r.firstOverload? n = none ↔ r.overloads n = 0 := by
  simp [firstOverload?, overloads, List.find?_eq_none, List.countP_eq_zero]

theorem streak_congr {s : Answers} (hSame : ∀ i < n, s.verdict i = r.verdict i) :
    s.streak n = r.streak n := by
  induction n with
  | zero => rfl
  | succ n ih =>
      rw [streak, streak, hSame n (Nat.lt_succ_self n),
        ih fun i hi => hSame i (Nat.lt_succ_of_lt hi)]

theorem refusals_succ (n : Nat) :
    r.refusals (n + 1) = r.refusals n + if (r.verdict n).isRefusal then 1 else 0 := by
  simp [refusals, List.range_succ, List.countP_append, List.countP_cons]

/-- The streak is the longest row of refusals at the end, so it knows all shorter ones. -/
theorem endsRefused_iff (count n : Nat) : r.EndsRefused count n ↔ count ≤ r.streak n := by
  induction n generalizing count with
  | zero => simp [EndsRefused, streak]
  | succ n ih =>
      cases hLast : (r.verdict n).isRefusal with
      | false =>
          rw [streak_succ_of_not_refused hLast]
          constructor
          · rintro ⟨-, hRow⟩
            by_contra hCount
            have hRefused := hRow n (by omega) (by omega)
            rw [hLast] at hRefused
            cases hRefused
          · intro hCount
            exact ⟨by omega, fun i hFrom hTo => by omega⟩
      | true =>
          rw [streak_succ_of_refused hLast]
          cases count with
          | zero => simp [EndsRefused]; omega
          | succ count =>
              rw [Nat.add_le_add_iff_right, ← ih]
              constructor
              · rintro ⟨hLe, hRow⟩
                exact ⟨by omega, fun i hFrom hTo => hRow i (by omega) (by omega)⟩
              · rintro ⟨hLe, hRow⟩
                refine ⟨by omega, fun i hFrom hTo => ?_⟩
                rcases Nat.lt_succ_iff_lt_or_eq.mp hTo with hBefore | rfl
                · exact hRow i (by omega) hBefore
                · exact hLast

theorem settles_iff (n : Nat) : r.Settles attempts n ↔
    0 < n ∧ (r.verdict (n - 1) = .written ∨ attempts ≤ r.streak n) := by
  rw [Settles, endsRefused_iff]

instance : Decidable (r.Settles attempts n) := decidable_of_iff _ (settles_iff n).symm

instance : Decidable (r.SettlesFirst attempts n) :=
  inferInstanceAs (Decidable (_ ∧ ∀ k < n, ¬r.Settles attempts k))

theorem Open.mono {k : Nat} (hOpen : r.Open attempts n) (hLe : k ≤ n) : r.Open attempts k :=
  fun i hi => hOpen i (Nat.le_trans hi hLe)

theorem open_zero : r.Open attempts 0 := by
  intro k hk hSettles
  have hPos := hSettles.1
  omega

theorem open_succ_iff :
    r.Open attempts (n + 1) ↔ r.Open attempts n ∧ ¬r.Settles attempts (n + 1) := by
  constructor
  · intro hOpen
    exact ⟨hOpen.mono (Nat.le_succ n), hOpen _ (Nat.le_refl _)⟩
  · rintro ⟨hOpen, hNext⟩ k hk
    rcases Nat.le_succ_iff.mp hk with hBefore | rfl
    · exact hOpen k hBefore
    · exact hNext

/-- An answer settles a write by what it is and by the row it completes. -/
theorem settles_succ_iff :
    r.Settles attempts (n + 1) ↔ r.verdict n = .written ∨ attempts ≤ r.streak (n + 1) := by
  rw [settles_iff]
  simp

/-- As long as a write is open an attempt is left. -/
theorem Open.streak_lt (hOpen : r.Open attempts n) (hAttempts : 1 ≤ attempts) :
    r.streak n < attempts := by
  cases n with
  | zero => exact hAttempts
  | succ n =>
      have hNext := hOpen _ (Nat.le_refl _)
      rw [settles_succ_iff] at hNext
      omega

/-- Overloads alone never settle a write. -/
theorem Open.of_overloaded_from (hOpen : r.Open attempts n) (hAttempts : 1 ≤ attempts)
    (hOverloaded : ∀ i, n ≤ i → r.verdict i = .overloaded) (k : Nat) : r.Open attempts k := by
  induction k with
  | zero => exact open_zero
  | succ k ih =>
      rcases Nat.lt_or_ge k n with hBefore | hFrom
      · exact hOpen.mono hBefore
      · have hVerdict := hOverloaded k hFrom
        have hZero := streak_succ_of_not_refused (r := r) (n := k) (by rw [hVerdict]; rfl)
        rw [open_succ_iff, settles_succ_iff, hVerdict, hZero]
        exact ⟨ih, by simp; omega⟩

/-- Only the answers that were asked for settle a write, and only by what they say. -/
theorem Settles.congr {s : Answers} (hSettles : r.Settles attempts n)
    (hSame : ∀ i < n, s.verdict i = r.verdict i) : s.Settles attempts n := by
  obtain ⟨hPos, hWritten | ⟨hLe, hRow⟩⟩ := hSettles
  · exact ⟨hPos, .inl ((hSame _ (by omega)).trans hWritten)⟩
  · refine ⟨hPos, .inr ⟨hLe, fun i hFrom hTo => ?_⟩⟩
    rw [hSame i hTo]
    exact hRow i hFrom hTo

theorem SettlesFirst.congr {s : Answers} (hFirst : r.SettlesFirst attempts n)
    (hSame : ∀ i < n, s.verdict i = r.verdict i) : s.SettlesFirst attempts n := by
  refine ⟨hFirst.1.congr hSame, fun k hk hSettles => hFirst.2 k hk (hSettles.congr ?_)⟩
  intro i hi
  exact (hSame i (Nat.lt_trans hi hk)).symm

theorem SettlesFirst.open_of_succ (hFirst : r.SettlesFirst attempts (n + 1)) :
    r.Open attempts n :=
  fun k hk => hFirst.2 k (Nat.lt_succ_of_le hk)

/-- A write that is settled at all is settled a first time, and no later. -/
theorem Settles.exists_first (hSettles : r.Settles attempts n) :
    ∃ k ≤ n, r.SettlesFirst attempts k := by
  classical
  have hExists : ∃ k, r.Settles attempts k := ⟨n, hSettles⟩
  exact ⟨Nat.find hExists, Nat.find_min' hExists hSettles, Nat.find_spec hExists,
    fun k hk => Nat.find_min hExists hk⟩

theorem exists_first_of_not_open (hClosed : ¬r.Open attempts n) :
    ∃ k ≤ n, r.SettlesFirst attempts k := by
  simp only [Open, not_forall, not_not] at hClosed
  obtain ⟨k, hk, hSettles⟩ := hClosed
  obtain ⟨first, hLe, hFirst⟩ := hSettles.exists_first
  exact ⟨first, Nat.le_trans hLe hk, hFirst⟩

/-- An open write pays for its answers: each overload takes one row of refusals with it, and the row
that is going on is not complete. -/
theorem Open.le_overloads_mul_add_streak (hOpen : r.Open attempts n) (hAttempts : 1 ≤ attempts)
    (hReplies : ∀ i, (r i).reply.verdict ≠ .crashed) :
    n ≤ r.overloads n * attempts + r.streak n := by
  induction n with
  | zero => simp
  | succ n ih =>
      rw [open_succ_iff, settles_succ_iff] at hOpen
      obtain ⟨hOpen, hNext⟩ := hOpen
      have hBefore := ih hOpen
      have hStreak := hOpen.streak_lt hAttempts
      cases hVerdict : r.verdict n with
      | written => exact absurd (Or.inl hVerdict) hNext
      | crashed => exact absurd hVerdict (hReplies n)
      | overloaded =>
          have hZero := streak_succ_of_not_refused (r := r) (n := n) (by rw [hVerdict]; rfl)
          have hMore : r.overloads (n + 1) = r.overloads n + 1 := by simp [overloads_succ, hVerdict]
          rw [hMore, hZero, Nat.add_mul]
          omega
      | refused message =>
          have hOne := streak_succ_of_refused (r := r) (n := n) (by rw [hVerdict]; rfl)
          have hSame : r.overloads (n + 1) = r.overloads n := by simp [overloads_succ, hVerdict]
          rw [hSame, hOne]
          omega

/-- Against finitely many overloads a write is settled, after at most one full row of refusals more
than there are overloads. -/
theorem exists_first_of_overloads_le {bound : Nat} (hAttempts : 1 ≤ attempts)
    (hReplies : ∀ i, (r i).reply.verdict ≠ .crashed) (hOverloads : ∀ n, r.overloads n ≤ bound) :
    ∃ n ≤ (bound + 1) * attempts, r.SettlesFirst attempts n := by
  apply exists_first_of_not_open
  intro hOpen
  have hPaid := hOpen.le_overloads_mul_add_streak hAttempts hReplies
  have hStreak := hOpen.streak_lt hAttempts
  have hMul := Nat.mul_le_mul_right attempts (hOverloads ((bound + 1) * attempts))
  rw [Nat.add_mul] at hPaid hStreak hMul
  omega

end Answers

namespace World

/-- The answer to the request of that index: one of those listed, or the one that repeats. -/
def answer (w : World) (d : Destination) : Answers := fun i => w.answers[i]?.getD (w.fallback d)

theorem map_answer_range (w : World) (d : Destination) (count : Nat) :
    (List.range (w.answers.length + count)).map (w.answer d) =
      w.answers ++ List.replicate count (w.fallback d) := by
  apply List.ext_getElem?
  intro i
  rcases Nat.lt_or_ge i w.answers.length with hListed | hRepeated
  · simp [answer, hListed, Nat.lt_add_right]
  · rcases Nat.lt_or_ge i (w.answers.length + count) with hIn | hOut
    · have hOffset : i - w.answers.length < count := by omega
      rw [List.getElem?_append_right hRepeated, List.getElem?_replicate_of_lt hOffset]
      simp [answer, hRepeated, hIn]
    · have hOffset : count ≤ i - w.answers.length := by omega
      rw [List.getElem?_append_right hRepeated]
      simp [hOut, hOffset]

theorem answer_of_length_le (w : World) (d : Destination) {i : Nat} (hFrom : w.answers.length ≤ i) :
    w.answer d i = w.fallback d := by
  simp [answer, hFrom]

end World
end BulkLoad
