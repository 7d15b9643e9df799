import Mathlib.Data.List.Infix
import BulkLoad.Write.Reply

/-!
Where the phrases of an overload may stand.

The search finds a phrase wherever it stands in a body, and nothing that is put around a body hides
it. Of the two halves that tell of a read timeout together, the second ends in a phrase that tells
of an overload alone.
-/
namespace BulkLoad
namespace Reply

theorem holds_iff (part whole : Bytes) : holds part whole = true ↔ part <:+: whole := by
  induction whole with
  | nil => simp only [holds, List.isEmpty_iff, List.infix_nil]
  | cons b rest hRest =>
      rw [List.infix_cons_iff, ← hRest, ← List.isPrefixOf_iff_prefix, holds]
      split
      · rename_i hHere
        simp only [hHere, true_or]
      · rename_i hLater
        simp only [hLater, false_or, Bool.false_eq_true]

/-- A part stands in a whole where the whole can be split around it. -/
theorem holds_iff_split (part whole : Bytes) :
    holds part whole = true ↔ ∃ before after, whole = before ++ part ++ after := by
  rw [holds_iff]
  constructor
  · rintro ⟨before, after, hSplit⟩
    exact ⟨before, after, hSplit.symm⟩
  · rintro ⟨before, after, hSplit⟩
    exact ⟨before, after, hSplit.symm⟩

/-- What stands in a part of a whole stands in the whole. -/
theorem holds_of_infix {part inner outer : Bytes} (hInner : inner <:+: outer)
    (hHolds : holds part inner = true) : holds part outer = true := by
  rw [holds_iff] at hHolds ⊢
  exact hHolds.trans hInner

theorem timeout_mem_overloadPhrases : Utf8.encode "timeout" ∈ overloadPhrases := by decide

theorem timeout_infix_readTimeout : Utf8.encode "timeout" <:+: readTimeoutPhrases.2 := by
  apply List.IsSuffix.isInfix
  exact ⟨Utf8.encode "i/o ", by decide⟩

/-- The second half of a read timeout is enough for an overload. -/
theorem any_holds_of_readTimeout {body : Bytes} (hHalf : holds readTimeoutPhrases.2 body = true) :
    holds (Utf8.encode "timeout") body = true := by
  rw [holds_iff] at hHalf ⊢
  exact timeout_infix_readTimeout.trans hHalf

theorem isOverload_eq_any (body : Bytes) :
    isOverload body = overloadPhrases.any fun phrase => holds phrase body := by
  rw [isOverload, Bool.or_eq_left_iff_imp]
  intro hHalves
  rw [Bool.and_eq_true] at hHalves
  rw [List.any_eq_true]
  exact ⟨_, timeout_mem_overloadPhrases, any_holds_of_readTimeout hHalves.2⟩

theorem isOverload_iff (body : Bytes) :
    isOverload body = true ↔ ∃ phrase ∈ overloadPhrases, holds phrase body = true := by
  rw [isOverload_eq_any, List.any_eq_true]

theorem isOverload_of_infix {inner outer : Bytes} (hInner : inner <:+: outer)
    (hOverload : isOverload inner = true) : isOverload outer = true := by
  rw [isOverload_iff] at hOverload ⊢
  obtain ⟨phrase, hPhrase, hHolds⟩ := hOverload
  exact ⟨phrase, hPhrase, holds_of_infix hInner hHolds⟩

theorem classify_eq_overload_iff (status : Nat) (body : Bytes) :
    classify status body = .overload ↔ status = overloadStatus ∧ isOverload body = true := by
  have hApart : overloadStatus ≠ successStatus := by decide
  rw [classify]
  split
  · rename_i hSuccess
    simp only [hSuccess, hApart.symm, false_and, reduceCtorEq]
  · split
    · rename_i hOverload
      simp only [hOverload, and_self]
    · rename_i hOther
      simp only [hOther, reduceCtorEq]

/-- A body tells of an overload just when it can be split around one of the phrases. The rule of two
halves adds no body to these, since its second half brings a phrase along. So whatever is put before
and behind a body, an overload in it is still told of; and an answer means an overload just when it
has the status for that and such a body. -/
theorem overload_is_phrase_search (body : Bytes) :
    (isOverload body = true ↔
      ∃ phrase ∈ overloadPhrases, ∃ before after, body = before ++ phrase ++ after) ∧
    (holds readTimeoutPhrases.1 body = true → holds readTimeoutPhrases.2 body = true →
      holds (Utf8.encode "timeout") body = true) ∧
    (isOverload body = overloadPhrases.any fun phrase => holds phrase body) ∧
    (∀ before after, isOverload body = true → isOverload (before ++ body ++ after) = true) ∧
    (∀ status, classify status body = .overload ↔ status = 500 ∧ isOverload body = true) := by
  have hWrapped : ∀ before after, body <:+: before ++ body ++ after :=
    fun before after => ⟨before, after, rfl⟩
  constructor
  · simp only [isOverload_iff, holds_iff_split]
  constructor
  · intro _ hHalf
    exact any_holds_of_readTimeout hHalf
  constructor
  · exact isOverload_eq_any body
  constructor
  · intro before after
    exact isOverload_of_infix (hWrapped before after)
  · intro status
    exact classify_eq_overload_iff status body

/-- A read timeout is told of inside a message as well. -/
theorem overload_is_phrase_search_wrapped :
    let body := Utf8.encode "write failed: read message type: read tcp: i/o timeout"
    let before := Utf8.encode "error: "
    let after := Utf8.encode ", retry later"
    isOverload body = true ∧ isOverload (before ++ body ++ after) = true ∧
      classify 500 (before ++ body ++ after) = .overload := by
  intro body before after
  obtain ⟨-, -, -, hWrapped, -⟩ := overload_is_phrase_search body
  obtain ⟨-, -, -, -, hClassify⟩ := overload_is_phrase_search (before ++ body ++ after)
  have hInner : isOverload body = true := by decide +kernel
  have hOuter := hWrapped before after hInner
  exact ⟨hInner, hOuter, (hClassify 500).mpr ⟨rfl, hOuter⟩⟩

end Reply
end BulkLoad
