import BulkLoad.Decimal.Numeral
import BulkLoad.Proofs.Decimal.Digits
import BulkLoad.Proofs.Text.Heads

/-!
Numerals read back.

A numeral that is written properly, without leading zeros, is read as it was written, whatever
follows it that could not belong to a number. The numerals of integers and doubles are proper.
-/
namespace BulkLoad.Decimal.Numeral

/-- Digits with no zero too many in front. -/
structure Proper (n : Numeral) : Prop where
  whole_ne_nil : n.whole ≠ []
  whole_digits : ∀ c ∈ n.whole, isDigit c = true
  leading : ∀ ds, n.whole = '0' :: ds → ds = []
  fraction_digits : ∀ c ∈ n.fraction, isDigit c = true

/-- Whether a character could go on with a number. -/
def goesOn (c : Char) : Bool := isDigit c || c = '.' || c = 'e' || c = 'E'

theorem not_goesOn {c : Char} (hEnd : goesOn c = false) :
    isDigit c = false ∧ c ≠ '.' ∧ c ≠ 'e' ∧ c ≠ 'E' := by
  simpa [goesOn, and_assoc] using hEnd

variable {n : Numeral} {rest : List Char}

theorem spanDigits_append {ds : List Char} (hDigits : ∀ c ∈ ds, isDigit c = true)
    (hEnd : StopsAt isDigit rest) : spanDigits (ds ++ rest) = (ds, rest) :=
  hEnd.span_append hDigits

theorem power?_of_stop (hEnd : StopsAt goesOn rest) : power? rest = some (none, rest) := by
  cases rest with
  | nil => rfl
  | cons c rest =>
      obtain ⟨-, -, hLower, hUpper⟩ := not_goesOn (hEnd c rfl)
      rw [power?, if_neg (by simp [hLower, hUpper])]

/-- A power of ten is read with its sign. -/
theorem power?_powerChars (hEnd : StopsAt goesOn rest) (power : Option Int) :
    power? (powerChars power ++ rest) = some (power, rest) := by
  cases power with
  | none => exact power?_of_stop hEnd
  | some p =>
      have hStop : StopsAt isDigit rest := hEnd.imp fun c hc => (not_goesOn hc).1
      have hDigits : spanDigits (digits p.natAbs ++ rest) = (digits p.natAbs, rest) :=
        spanDigits_append (fun c hc => isDigit_of_mem_digits hc) hStop
      have hValue := natOfDigits_digits p.natAbs
      obtain ⟨d, ds, hNonempty⟩ := List.exists_cons_of_ne_nil (digits_ne_nil p.natAbs)
      by_cases hNegative : p < 0
      · simp only [powerChars, hNegative, if_true, List.cons_append, power?, true_or, powerSign, hDigits]
        rw [hNonempty] at hValue ⊢
        simp only [hValue]
        congr
        omega
      · simp only [powerChars, hNegative, if_false, List.cons_append, power?, true_or, if_true, powerSign,
          hDigits]
        rw [hNonempty] at hValue ⊢
        simp only [hValue]
        congr
        simp
        omega

theorem fraction?_fractionChars {fraction : List Char} (hDigits : ∀ c ∈ fraction, isDigit c = true)
    (hEnd : StopsAt isDigit rest) (hPoint : StopsAt (· = '.') rest) :
    fraction? (fractionChars fraction ++ rest) = some (fraction, rest) := by
  cases fraction with
  | nil =>
      cases rest with
      | nil => rfl
      | cons c rest =>
          have hOther : c ≠ '.' := by simpa using hPoint c rfl
          unfold fractionChars fraction?
          split
          · rename_i hHead
            exact absurd (List.cons.inj hHead).1 hOther
          · rfl
  | cons d ds =>
      have hSpan := spanDigits_append hDigits hEnd
      show fraction? ('.' :: (d :: ds ++ rest)) = _
      rw [fraction?, hSpan]

theorem stopsAt_powerChars (hEnd : StopsAt goesOn rest) (power : Option Int) :
    StopsAt isDigit (powerChars power ++ rest) ∧ StopsAt (· = '.') (powerChars power ++ rest) := by
  cases power with
  | none =>
      refine ⟨hEnd.imp fun c hc => (not_goesOn hc).1, hEnd.imp fun c hc => ?_⟩
      simpa using (not_goesOn hc).2.1
  | some p => exact ⟨.cons rfl, .cons rfl⟩

theorem stopsAt_fractionChars (fraction : List Char) (hEnd : StopsAt isDigit rest) :
    StopsAt isDigit (fractionChars fraction ++ rest) := by
  cases fraction with
  | nil => exact hEnd
  | cons d ds => exact .cons rfl

theorem whole?_append {whole : List Char} (hNonempty : whole ≠ [])
    (hDigits : ∀ c ∈ whole, isDigit c = true) (hLeading : ∀ ds, whole = '0' :: ds → ds = [])
    (hEnd : StopsAt isDigit rest) : whole? (whole ++ rest) = some (whole, rest) := by
  have hSpan := spanDigits_append hDigits hEnd
  obtain ⟨d, ds, rfl⟩ := List.exists_cons_of_ne_nil hNonempty
  unfold whole?
  split
  · rename_i hHead
    obtain ⟨rfl, hTail⟩ := List.cons.inj hHead
    obtain rfl := hLeading ds rfl
    rw [← hTail]
    rfl
  · rw [hSpan]

/-- A proper numeral is read as it is written. -/
theorem read?_unsigned (hProper : n.Proper) (hEnd : StopsAt goesOn rest) :
    read? n.negative (n.unsigned ++ rest) = some (n, rest) := by
  obtain ⟨hStop, hPoint⟩ := stopsAt_powerChars hEnd n.power
  have hWhole := whole?_append hProper.whole_ne_nil hProper.whole_digits hProper.leading
    (stopsAt_fractionChars n.fraction hStop)
  have hFraction := fraction?_fractionChars hProper.fraction_digits hStop hPoint
  have hPower := power?_powerChars hEnd n.power
  rw [unsigned, List.append_assoc, List.append_assoc, read?, hWhole]
  simp only [Option.bind_eq_bind, Option.bind_some, hFraction, hPower]
  rfl

/-! ### The numerals of integers and doubles -/

theorem proper_ofInt (i : Int) : (ofInt i).Proper where
  whole_ne_nil := digits_ne_nil _
  whole_digits := fun _ hc => isDigit_of_mem_digits hc
  leading := fun _ hDigits => digits_of_head_zero hDigits
  fraction_digits := nofun

theorem take_digits_proper {n count : Nat} (hCount : 0 < count) :
    (digits n).take count ≠ [] ∧ (∀ c ∈ (digits n).take count, isDigit c = true) ∧
      (∀ ds, (digits n).take count = '0' :: ds → ds = []) := by
  obtain ⟨d, ds, hDigits⟩ := List.exists_cons_of_ne_nil (digits_ne_nil n)
  obtain ⟨count, rfl⟩ := Nat.exists_eq_add_of_lt hCount
  refine ⟨?_, fun c hc => isDigit_of_mem_digits (List.mem_of_mem_take hc), fun rest hRest => ?_⟩
  · simp [hDigits]
  · rw [hDigits, Nat.zero_add, List.take_succ_cons] at hRest
    obtain ⟨rfl, rfl⟩ := List.cons.inj hRest
    rw [digits_of_head_zero hDigits, List.take_nil]

/-- Zero has one digit; every other decimal has none too many. -/
theorem proper_ofShortest (negative : Bool) {s : Scaled}
    (hSound : 0 < s.significand ∨ s.exponent = 0) : (ofShortest negative s).Proper := by
  have hDigits : ∀ c ∈ digits s.significand, isDigit c = true := fun c hc => isDigit_of_mem_digits hc
  have hZeros : ∀ count, ∀ c ∈ List.replicate count '0', isDigit c = true := by
    intro count c hc
    rw [List.eq_of_mem_replicate hc]
    rfl
  simp only [ofShortest]
  split
  · refine ⟨by simp [digits_ne_nil], List.forall_mem_append.mpr ⟨hDigits, hZeros _⟩, ?_, by simp [isDigit]⟩
    intro ds hWhole
    rcases hSound with hPos | hUnit
    · obtain ⟨d, front, hFront⟩ := List.exists_cons_of_ne_nil (digits_ne_nil s.significand)
      rw [hFront, List.cons_append] at hWhole
      obtain ⟨rfl, -⟩ := List.cons.inj hWhole
      exact absurd hFront (head_digits_ne_zero hPos front)
    · rw [hUnit, Int.toNat_zero, List.replicate_zero, List.append_nil] at hWhole
      exact digits_of_head_zero hWhole
  · split
    · rename_i hTop
      obtain ⟨hNonempty, hWhole, hLeading⟩ := take_digits_proper (n := s.significand)
        (Int.pos_iff_toNat_pos.mp hTop.1)
      exact ⟨hNonempty, hWhole, hLeading, fun c hc => hDigits c (List.mem_of_mem_drop hc)⟩
    · split
      · exact ⟨List.cons_ne_nil _ _, by simp [isDigit], fun ds hWhole => (List.cons.inj hWhole).2.symm,
          List.forall_mem_append.mpr ⟨hZeros _, hDigits⟩⟩
      · obtain ⟨hNonempty, hWhole, hLeading⟩ := take_digits_proper (n := s.significand) Nat.one_pos
        exact ⟨hNonempty, hWhole, hLeading, fun c hc => hDigits c (List.mem_of_mem_drop hc)⟩

theorem not_isInteger_ofShortest (negative : Bool) (s : Scaled) :
    (ofShortest negative s).isInteger = false := by
  have hDigits := digits_ne_nil s.significand
  simp only [ofShortest]
  split
  · rfl
  · rename_i hFraction
    split
    · -- fewer digits stand in front of the point than there are
      rename_i hTop
      have hDrop : (digits s.significand).drop
          (s.exponent + (digits s.significand).length).toNat ≠ [] := by
        rw [Ne, List.drop_eq_nil_iff]
        omega
      simp [isInteger, hDrop]
    · split
      · simp [isInteger, hDigits]
      · simp [isInteger]

theorem proper_of_ofFloat? {x : Float} (hNumeral : ofFloat? x = some n) :
    n.Proper ∧ n.isInteger = false := by
  unfold ofFloat? at hNumeral
  split at hNumeral
  · rename_i negative m q hValue
    obtain rfl := Option.some.inj hNumeral
    refine ⟨proper_ofShortest negative ?_, not_isInteger_ofShortest ..⟩
    rcases Nat.eq_zero_or_pos m with rfl | hPos
    · exact .inr rfl
    · exact .inl (significand_shortest_pos hPos q)
  · cases hNumeral

end BulkLoad.Decimal.Numeral
