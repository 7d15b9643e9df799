import BulkLoad.Proofs.Toml.Quoted
import BulkLoad.Proofs.Toml.Scalars
import BulkLoad.Toml.Reader

/-!
The tokens of what is written in TOML: marks, spaces, words and texts in quotes.
-/
namespace BulkLoad.Toml

/-- Whatever was read before, the characters give the tokens, and are read to their end. -/
def Yields (cs : List Char) (ts : List Token) : Prop :=
  ∀ read fuel, cs.length ≤ fuel → Token.readAll? read fuel cs = some (read.reverse ++ ts)

variable {c : Char} {cs w rest : List Char} {t : Token} {ts : List Token}

/-- No space stands in front of a word. -/
theorem IsWord.starts (hWord : IsWord w) (rest : List Char) :
    StopsAt Token.isLineSpace (w ++ rest) := by
  obtain ⟨hNonempty, hPlain⟩ := hWord
  obtain ⟨c, w, rfl⟩ := List.exists_cons_of_ne_nil hNonempty
  have hHead := hPlain c (List.mem_cons_self ..)
  exact .cons (by simp_all [Token.isSpecial, Token.isLayout])

theorem next?_word (hWord : IsWord w) (hEnd : StopsAt (fun c => !Token.isSpecial c) rest) :
    Token.next? (w ++ rest) = some (.word w, rest) := by
  have hStarts := hWord.starts rest
  obtain ⟨hNonempty, hPlain⟩ := hWord
  obtain ⟨c, w, rfl⟩ := List.exists_cons_of_ne_nil hNonempty
  have hHead := hPlain c (List.mem_cons_self ..)
  have hTaken : (c :: w ++ rest).takeWhile (fun c => !Token.isSpecial c) = c :: w :=
    hEnd.takeWhile_append fun d hd => by rw [hPlain d hd]; rfl
  have hSpace : Token.isLineSpace c = false := hStarts c rfl
  rw [List.cons_append] at hTaken ⊢
  rw [Token.next?]
  · rw [hTaken]
    simp [hSpace]
  all_goals
    intros
    simp_all [Token.isSpecial, Token.isLayout]

theorem next?_blank (count : Nat) (hEnd : StopsAt Token.isLineSpace rest) :
    Token.next? (List.replicate (count + 1) ' ' ++ rest) =
      some (.blank (List.replicate (count + 1) ' '), rest) := by
  have hSpaces : ∀ c ∈ List.replicate (count + 1) ' ', Token.isLineSpace c = true := by
    intro c hc
    rw [List.eq_of_mem_replicate hc]
    rfl
  have hTaken := hEnd.takeWhile_append hSpaces
  rw [List.replicate_succ, List.cons_append] at hTaken ⊢
  rw [Token.next?]
  · rw [hTaken]
    simp
  all_goals simp

theorem exists_quote_eq (cs : List Char) :
    ∃ mark more, quote cs = mark :: more ∧ isQuote mark = true := by
  unfold quote
  simp only
  split
  · exact ⟨_, _, rfl, rfl⟩
  split
  · exact ⟨_, _, rfl, rfl⟩
  split
  · exact ⟨_, _, rfl, rfl⟩
  split
  · exact ⟨_, _, rfl, rfl⟩
  split
  · exact ⟨_, _, rfl, rfl⟩
  · exact ⟨_, _, rfl, rfl⟩

namespace Yields

theorem nil : Yields [] [] := by
  intro read fuel _
  rw [Token.readAll?, List.append_nil]

theorem token (hComment : c ≠ '#') (hToken : Token.next? (c :: cs) = some (t, rest))
    (hShort : rest.length ≤ cs.length) (hRest : Yields rest ts) : Yields (c :: cs) (t :: ts) := by
  intro read fuel hFuel
  obtain ⟨fuel, rfl⟩ := Nat.exists_eq_add_of_le' (Nat.le_trans (Nat.succ_pos _) hFuel)
  rw [Token.readAll?]
  · rw [hToken]
    simp only
    rw [hRest (t :: read) fuel (Nat.le_trans hShort (Nat.le_of_succ_le_succ hFuel)),
      List.reverse_cons, List.append_assoc]
    rfl
  · nofun
  · exact fun _ hHead => absurd (List.cons.inj hHead).1 hComment

/-- A token of one character. -/
theorem mark (hComment : c ≠ '#') (hToken : Token.next? (c :: rest) = some (t, rest))
    (hRest : Yields rest ts) : Yields (c :: rest) (t :: ts) :=
  token hComment hToken (Nat.le_refl _) hRest

theorem word (hWord : IsWord w) (hEnd : StopsAt (fun c => !Token.isSpecial c) rest)
    (hRest : Yields rest ts) : Yields (w ++ rest) (.word w :: ts) := by
  have hToken := next?_word hWord hEnd
  obtain ⟨hNonempty, hPlain⟩ := hWord
  obtain ⟨c, w, rfl⟩ := List.exists_cons_of_ne_nil hNonempty
  have hComment : c ≠ '#' := by
    rintro rfl
    exact absurd (hPlain _ (List.mem_cons_self ..)) (by decide)
  exact token hComment hToken (by simp) hRest

theorem blank (count : Nat) (hEnd : StopsAt Token.isLineSpace rest) (hRest : Yields rest ts) :
    Yields (List.replicate (count + 1) ' ' ++ rest)
      (.blank (List.replicate (count + 1) ' ') :: ts) :=
  token (by decide) (next?_blank count hEnd) (by simp) hRest

/-- A text in quotes is one token, of one kind or the other. -/
theorem quoted (cs : List Char) (hEnd : StopsAt isQuote rest) (hRest : Yields rest ts) :
    ∃ t, (t = .text (String.ofList cs) ∨ t = .page (String.ofList cs)) ∧
      Yields (quote cs ++ rest) (t :: ts) := by
  obtain ⟨t, hKind, hToken⟩ := next?_quote cs hEnd
  obtain ⟨mark, more, hQuote, hMark⟩ := exists_quote_eq cs
  have hComment : mark ≠ '#' := by
    rintro rfl
    cases hMark
  rw [hQuote] at hToken ⊢
  exact ⟨t, hKind, token hComment hToken (by simp) hRest⟩

end Yields
end BulkLoad.Toml
