import BulkLoad.Proofs.Decimal.Digits
import BulkLoad.Proofs.Decimal.Doubles
import BulkLoad.Proofs.Text.Heads
import BulkLoad.Toml.Printer
import BulkLoad.Toml.Scalar
import BulkLoad.Toml.Token

/-!
Numbers and truth values of TOML, read back from the words that write them.

The digits of a natural are taken for no date and no time, and a double always shows that it is one:
what is infinite or no number by its name, every other by a point.
-/
namespace BulkLoad.Toml

open Decimal

/-- Digits and nothing else, and at least one. -/
structure IsDigits (cs : List Char) : Prop where
  ne_nil : cs ≠ []
  digits : ∀ c ∈ cs, isDigit c = true

theorem isDigits_digits (n : Nat) : IsDigits (digits n) :=
  ⟨digits_ne_nil n, fun _ hc => isDigit_of_mem_digits hc⟩

variable {cs : List Char}

theorem expect?_of_digits {c : Char} (hOther : isDigit c = false)
    (hDigits : ∀ d ∈ cs, isDigit d = true) : expect? c cs = none := by
  cases cs with
  | nil => rfl
  | cons d cs =>
      rw [expect?, if_neg]
      rintro rfl
      rw [hDigits d (List.mem_cons_self ..)] at hOther
      cases hOther

theorem fixedDigits?_bind {α : Type} (count : Nat) (cs : List Char)
    (next : Nat × List Char → Option α) (hNext : ∀ n, next (n, cs.drop count) = none) :
    (fixedDigits? count cs).bind next = none := by
  unfold fixedDigits?
  simp only
  split
  · exact hNext _
  · rfl

/-- Digits alone are no date and no time. -/
theorem isMoment_of_digits (hDigits : ∀ c ∈ cs, isDigit c = true) : isMoment cs = false := by
  have hDrop : ∀ count, ∀ c ∈ cs.drop count, isDigit c = true := fun count c hc =>
    hDigits c (List.mem_of_mem_drop hc)
  have hDate : date? cs = none := by
    apply fixedDigits?_bind
    intro year
    have hNone : expect? '-' (cs.drop 4) = none := expect?_of_digits (by decide) (hDrop 4)
    simp only [hNone]
    rfl
  have hTime : time? cs = none := by
    have hHour : hourMinute? cs = none := by
      apply fixedDigits?_bind
      intro hour
      have hNone : expect? ':' (cs.drop 2) = none := expect?_of_digits (by decide) (hDrop 2)
      simp only [hNone]
      rfl
    rw [time?, hHour, Option.bind_none]
  rw [isMoment, hDate, hTime]
  rfl

theorem ungroup?_of_digits (hDigits : IsDigits cs) : ungroup? isDigit cs = some cs := by
  obtain ⟨hNonempty, hAll⟩ := hDigits
  induction cs with
  | nil => exact absurd rfl hNonempty
  | cons c cs ih =>
      obtain ⟨hHead, hTail⟩ := List.forall_mem_cons.mp hAll
      cases cs with
      | nil => rw [ungroup?, if_pos hHead]
      | cons d cs =>
          have hMark : d ≠ '_' := by
            rintro rfl
            exact absurd (hTail _ (List.mem_cons_self ..)) (by decide)
          rw [ungroup?, if_pos hHead, ih (List.cons_ne_nil _ _) hTail]
          · rfl
          · exact fun _ _ hHead _ => hMark hHead

theorem head_of_digits {c : Char} (hDigits : ∀ d ∈ c :: cs, isDigit d = true) {d : Char}
    (hOther : isDigit d = false) : c ≠ d := by
  rintro rfl
  rw [hDigits c (List.mem_cons_self ..)] at hOther
  cases hOther

theorem signed_of_digits (hDigits : ∀ c ∈ cs, isDigit c = true) : signed cs = (false, cs) := by
  unfold signed
  split
  · exact absurd rfl (head_of_digits hDigits (by decide))
  · exact absurd rfl (head_of_digits hDigits (by decide))
  · rfl

theorem anyInteger?_of_digits (hDigits : ∀ c ∈ cs, isDigit c = true) :
    anyInteger? cs = decimalInteger? cs := by
  unfold anyInteger?
  split
  all_goals first
    | rfl
    | exact absurd rfl (head_of_digits (List.forall_mem_cons.mp hDigits).2 (by decide))

theorem whole?_digits (n : Nat) : whole? (digits n) = some (digits n) := by
  rw [whole?, ungroup?_of_digits (isDigits_digits n)]
  split
  · rename_i hZeros
    cases digits_of_head_zero (Option.some.inj hZeros)
  · rfl

theorem integer?_digits {n : Nat} (hRange : n < Nat.pow 2 128) :
    integer? (digits n) = some (.integer n) := by
  have hDigits := (isDigits_digits n).digits
  have hValue : anyInteger? (digits n) = some (n : Int) := by
    rw [anyInteger?_of_digits hDigits, decimalInteger?, signed_of_digits hDigits]
    simp only [whole?_digits]
    show some (Int.ofNat (natOfDigits (digits n))) = _
    rw [natOfDigits_digits]
    rfl
  have hLow : -(Nat.pow 2 127 : Int) ≤ n :=
    Int.le_trans (Int.neg_nonpos_of_nonneg (Int.natCast_nonneg _)) (Int.natCast_nonneg n)
  have hHigh : (n : Int) < (Nat.pow 2 128 : Nat) := Int.ofNat_lt.mpr hRange
  have hHeld : isInRange n = true := by
    rw [isInRange, Bool.and_eq_true, decide_eq_true_iff, decide_eq_true_iff]
    exact ⟨hLow, hHigh⟩
  rw [integer?, hValue, Option.map_some, if_pos hHeld]

/-- A natural is read as the integer that it is. -/
theorem scalar?_digits {n : Nat} (hRange : n < Nat.pow 2 128) :
    scalar? (digits n) = some (.integer n) := by
  have hDigits := isDigits_digits n
  have hWord : ∀ c cs, isDigit c = false → digits n ≠ c :: cs := by
    rintro c cs hOther hWord
    rw [hDigits.digits c (by simp [hWord])] at hOther
    cases hOther
  have hTrue : digits n ≠ "true".toList := hWord 't' _ (by decide)
  have hFalse : digits n ≠ "false".toList := hWord 'f' _ (by decide)
  rw [scalar?, if_neg hTrue, if_neg hFalse, isMoment_of_digits hDigits.digits, integer?_digits hRange]
  rfl

/-! ### Doubles -/

/-- What is infinite or no number is read by its name. -/
theorem scalar?_floatChars_of_not_finite {x : Float} (hName : x.isFinite = false) :
    scalar? (floatChars x) = some (.float x) := by
  cases hValue : Binary.ofFloat x with
  | nan =>
      have hSame : x = 0.0 / 0.0 :=
        Binary.eq_of_isNaN ((Binary.isNaN_iff x).mpr hValue) (by decide +kernel)
      rw [floatChars, hValue, hSame]
      rfl
  | infinite negative =>
      cases negative with
      | false =>
          have hSame : x = 1.0 / 0.0 := Binary.eq_of_infinite hValue (by decide +kernel)
          rw [floatChars, hValue, hSame]
          rfl
      | true =>
          have hSame : x = -(1.0 / 0.0) := Binary.eq_of_infinite hValue (by decide +kernel)
          rw [floatChars, hValue, hSame]
          rfl
  | finite negative m q =>
      have hFinite := (Binary.isFinite_iff x).mpr ⟨negative, m, q, hValue⟩
      rw [hFinite] at hName
      cases hName

/-- Characters that make up one unquoted word. -/
structure IsWord (cs : List Char) : Prop where
  ne_nil : cs ≠ []
  plain : ∀ c ∈ cs, Token.isSpecial c = false

theorem isWord_of_all (hAll : (!cs.isEmpty && cs.all fun c => !Token.isSpecial c) = true) :
    IsWord cs := by
  rw [Bool.and_eq_true, List.all_eq_true] at hAll
  exact ⟨by simpa using hAll.1, fun c hc => by simpa using hAll.2 c hc⟩

/-- Every character that means something outside a text. -/
def specials : List Char :=
  [' ', '\t', '\n', '\r', '#', '=', ',', '[', ']', '\x7b', '\x7d', '.', '"', '\'']

theorem not_isSpecial {kind : Char → Bool} {c : Char} (hKind : kind c = true)
    (hNone : specials.any kind = false) : Token.isSpecial c = false := by
  rw [Bool.eq_false_iff]
  intro hSpecial
  apply List.any_eq_false.mp hNone c ?_ hKind
  simpa only [specials, List.mem_cons, List.not_mem_nil, or_false, Token.isSpecial, Token.isLayout,
    Token.isLineSpace, Bool.or_eq_true, decide_eq_true_iff, or_assoc] using hSpecial

theorem isWord_of_digits (hDigits : IsDigits cs) : IsWord cs :=
  ⟨hDigits.ne_nil, fun c hc => not_isSpecial (hDigits.digits c hc) rfl⟩

/-- A sign in front of digits. -/
theorem isWord_sign_append (negative : Bool) (hDigits : IsDigits cs) :
    IsWord (sign negative ++ cs) := by
  obtain ⟨hNonempty, hPlain⟩ := isWord_of_digits hDigits
  refine ⟨by simp [hNonempty], List.forall_mem_append.mpr ⟨?_, hPlain⟩⟩
  cases negative with
  | true =>
      intro c hc
      rw [List.mem_singleton.mp hc]
      rfl
  | false => nofun

theorem isDigits_append_zeros (hDigits : IsDigits cs) (count : Nat) :
    IsDigits (cs ++ List.replicate count '0') := by
  refine ⟨by simp [hDigits.ne_nil], List.forall_mem_append.mpr ⟨hDigits.digits, fun c hc => ?_⟩⟩
  rw [List.eq_of_mem_replicate hc]
  rfl

theorem isDigits_zeros_append (count : Nat) (hDigits : IsDigits cs) :
    IsDigits (List.replicate count '0' ++ cs) := by
  refine ⟨by simp [hDigits.ne_nil], List.forall_mem_append.mpr ⟨fun c hc => ?_, hDigits.digits⟩⟩
  rw [List.eq_of_mem_replicate hc]
  rfl

theorem not_mem_of_isWord {c : Char} (hWord : IsWord cs) (hSpecial : Token.isSpecial c = true) :
    c ∉ cs := by
  intro hMem
  rw [hWord.plain c hMem] at hSpecial
  cases hSpecial

/-- A double is written as one word, or as two with a point between them. -/
theorem floatChars_cases (x : Float) :
    IsWord (floatChars x) ∨ ∃ whole fraction,
      floatChars x = whole ++ '.' :: fraction ∧ IsWord whole ∧ IsWord fraction := by
  cases hValue : Binary.ofFloat x with
  | nan =>
      have hName : IsWord "nan".toList := isWord_of_all rfl
      rw [floatChars, hValue]
      exact .inl hName
  | infinite negative =>
      have hName : ∀ negative, IsWord (sign negative ++ "inf".toList) := by
        rintro (_ | _) <;> exact isWord_of_all rfl
      rw [floatChars, hValue]
      exact .inl (hName negative)
  | finite negative m q =>
      right
      have hPlain : (plain x).toList = sign negative ++ (shortest m q).positional := by
        rw [plain, hValue, String.toList_ofList]
      simp only [floatChars, hValue, hPlain]
      by_cases hNatural : 0 ≤ (shortest m q).exponent
      · -- an integer has no point yet
        have hWord := isWord_sign_append negative
          (isDigits_append_zeros (isDigits_digits (shortest m q).significand)
            (shortest m q).exponent.toNat)
        have hPoint : (sign negative ++ (shortest m q).positional).contains '.' = false := by
          rw [Scaled.positional, if_pos hNatural, List.contains_eq_mem, decide_eq_false_iff_not]
          exact not_mem_of_isWord hWord rfl
        rw [hPoint, Scaled.positional, if_pos hNatural]
        exact ⟨_, ['0'], rfl, hWord, isWord_of_all rfl⟩
      · have hPlaces : (-(shortest m q).exponent).toNat ≠ 0 := by omega
        have hPoint : (sign negative ++ (shortest m q).positional).contains '.' = true := by
          rw [Scaled.positional, if_neg hNatural, pointed, if_neg hPlaces]
          simp
        rw [if_pos hPoint, Scaled.positional, if_neg hNatural, pointed, if_neg hPlaces]
        simp only [List.append_assoc, List.cons_append]
        rw [← List.append_assoc]
        exact ⟨_, _, rfl, isWord_sign_append negative (isDigits_digits _),
          isWord_of_digits (isDigits_zeros_append _ (isDigits_digits _))⟩

end BulkLoad.Toml
