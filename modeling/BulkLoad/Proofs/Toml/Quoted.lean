import BulkLoad.Proofs.Text.Heads
import BulkLoad.Toml.Printer
import BulkLoad.Toml.Token

/-!
Texts in quotes, read back.

However a text is put in quotes, each of its characters is written as it is or after a backslash,
and marks stand in a row only where they cannot end the text.
-/
namespace BulkLoad.Toml

open Token (isControl isLayout isLineSpace)

/-- What stands behind a backslash for a character. -/
structure IsEscape (written : List Char) (c : Char) : Prop where
  reads : ∀ rest, Token.escape? (written ++ rest) = some (c, rest)
  starts : ∃ letter more, written = letter :: more ∧ isLayout letter = false

/-- What stands inside quotes for a text. At most `limit` marks stand in a row, of which `run` stand
in front already; a backslash goes with what is written behind it. -/
inductive Written (mark : Char) (limit : Nat) (plain : Char → Prop)
    (escapes : List Char → Char → Prop) : Nat → List Char → List Char → Prop where
  | nil {run : Nat} : Written mark limit plain escapes run [] []
  | mark {run : Nat} {inside cs : List Char} (hRun : run < limit)
      (hRest : Written mark limit plain escapes (run + 1) inside cs) :
      Written mark limit plain escapes run (mark :: inside) (mark :: cs)
  | plain {run : Nat} {c : Char} {inside cs : List Char} (hOther : c ≠ mark) (hPlain : plain c)
      (hRest : Written mark limit plain escapes 0 inside cs) :
      Written mark limit plain escapes run (c :: inside) (c :: cs)
  | escaped {run : Nat} {written : List Char} {c : Char} {inside cs : List Char}
      (hEscape : escapes written c) (hRest : Written mark limit plain escapes 0 inside cs) :
      Written mark limit plain escapes run ('\\' :: (written ++ inside)) (c :: cs)

namespace Written

variable {mark : Char} {limit : Nat} {plain : Char → Prop} {escapes : List Char → Char → Prop}
variable {run : Nat} {inside cs rest : List Char}

theorem le_longestRun (c : Char) (run : Nat) (cs : List Char) : run ≤ longestRun c run cs := by
  induction cs generalizing run with
  | nil => exact Nat.le_refl run
  | cons d ds ih =>
      rw [longestRun]
      split
      · exact Nat.le_trans (Nat.le_succ run) (ih (run + 1))
      · exact Nat.le_max_left ..

/-- A text whose characters may all stay as they are. -/
theorem ofPlain (hPlain : ∀ c ∈ cs, c ≠ mark → plain c) (hRun : longestRun mark run cs ≤ limit) :
    Written mark limit plain escapes run cs cs := by
  induction cs generalizing run with
  | nil => exact .nil
  | cons c cs ih =>
      obtain ⟨hHead, hTail⟩ := List.forall_mem_cons.mp hPlain
      rw [longestRun] at hRun
      split at hRun
      · rename_i hMark
        subst hMark
        exact .mark (Nat.lt_of_lt_of_le (Nat.lt_succ_self run) (Nat.le_trans (le_longestRun ..) hRun))
          (ih hTail hRun)
      · rename_i hOther
        exact .plain hOther (hHead hOther) (ih hTail (Nat.le_trans (Nat.le_max_right ..) hRun))

/-- The marks at the head are the whole text, or too few to end it. -/
theorem marks_cases (hMark : mark ≠ '\\') (hInside : Written mark limit plain escapes run inside cs)
    (hRun : run ≤ limit) :
    (∃ count, inside = List.replicate count mark ∧ cs = List.replicate count mark ∧
      run + count ≤ limit) ∨
    ∀ tail, run + ((inside ++ tail).takeWhile (· = mark)).length ≤ limit := by
  induction hInside with
  | nil => exact .inl ⟨0, rfl, rfl, hRun⟩
  | mark hLess hRest ih =>
      rcases ih hLess with ⟨count, rfl, rfl, hCount⟩ | hFew
      · exact .inl ⟨count + 1, rfl, rfl, by omega⟩
      · right
        intro tail
        have hTail := hFew tail
        rw [List.cons_append, List.takeWhile_cons_of_pos (by simp), List.length_cons]
        omega
  | plain hOther hPlain hRest ih =>
      right
      intro tail
      rw [List.cons_append, List.takeWhile_cons_of_neg (by simpa using hOther)]
      exact hRun
  | escaped hEscape hRest ih =>
      right
      intro tail
      rw [List.cons_append, List.takeWhile_cons_of_neg (by simpa using hMark.symm)]
      exact hRun

/-- Three marks behind a text end it, and up to two in front of them belong to it. -/
theorem closing?_marks (hEnd : StopsAt (· = mark) rest) {count : Nat} (hCount : count ≤ 2)
    (out : List Char) :
    Token.closing? mark out (List.replicate count mark ++ (List.replicate 3 mark ++ rest)) =
      some (out.reverse ++ List.replicate count mark, rest) := by
  have hMarks : List.replicate count mark ++ (List.replicate 3 mark ++ rest) =
      List.replicate (count + 3) mark ++ rest := by
    rw [← List.append_assoc, List.replicate_append_replicate]
  have hAll : ∀ c ∈ List.replicate (count + 3) mark, decide (c = mark) = true := by
    intro c hc
    exact decide_eq_true (List.eq_of_mem_replicate hc)
  have hKept : min 2 (count + 3 - 3) = count := by omega
  have hSome : ¬ count + 3 < 3 := by omega
  simp only [Token.closing?]
  rw [hMarks, hEnd.takeWhile_append hAll, List.length_replicate, if_neg hSome, hKept,
    List.reverse_append, List.reverse_replicate,
    List.drop_left' (List.length_replicate ..)]

/-- Where a mark stands in a text, the text ends rightly or goes on. -/
theorem closing?_cases (hMark : mark ≠ '\\') (hEnd : StopsAt (· = mark) rest)
    (hInside : Written mark 2 plain escapes run inside cs) (hRun : run ≤ 2) (out : List Char) :
    Token.closing? mark out (inside ++ (List.replicate 3 mark ++ rest)) =
        some (out.reverse ++ cs, rest) ∨
      Token.closing? mark out (inside ++ (List.replicate 3 mark ++ rest)) = none := by
  rcases hInside.marks_cases hMark hRun with ⟨count, rfl, rfl, hCount⟩ | hFew
  · exact .inl (closing?_marks hEnd (by omega) out)
  · right
    have hTail := hFew (List.replicate 3 mark ++ rest)
    rw [Token.closing?]
    simp only
    rw [if_pos (by omega)]

/-- A reader that takes each character in one of the ways it can be written, and ends at a mark. -/
theorem read_line {read : List Char → List Char → Option (List Char × List Char)}
    (hMark : ∀ out cs, read out (mark :: cs) = some (out.reverse, cs))
    (hPlain : ∀ c, c ≠ mark → plain c → ∀ out cs, read out (c :: cs) = read (c :: out) cs)
    (hEscape : ∀ written c, escapes written c → ∀ out cs,
      read out ('\\' :: (written ++ cs)) = read (c :: out) cs)
    (hInside : Written mark 0 plain escapes run inside cs) (out : List Char) :
    read out (inside ++ mark :: rest) = some (out.reverse ++ cs, rest) := by
  induction hInside generalizing out with
  | nil => rw [List.nil_append, hMark, List.append_nil]
  | mark hLess => exact absurd hLess (Nat.not_lt_zero _)
  | @plain _ c inside cs hOther hKept hRest ih =>
      rw [List.cons_append, hPlain c hOther hKept, ih, List.reverse_cons, List.append_assoc]
      rfl
  | @escaped _ written c inside cs hWritten hRest ih =>
      rw [List.cons_append, List.append_assoc, hEscape written c hWritten, ih, List.reverse_cons,
        List.append_assoc]
      rfl

/-- A reader that ends at three marks, and else takes a mark like any other character. -/
theorem read_page {read : List Char → List Char → Option (List Char × List Char)}
    (hMark : ∀ out cs, read out (mark :: cs) =
      (Token.closing? mark out (mark :: cs)).or (read (mark :: out) cs))
    (hPlain : ∀ c, c ≠ mark → plain c → ∀ out cs, read out (c :: cs) = read (c :: out) cs)
    (hEscape : ∀ written c, escapes written c → ∀ out cs,
      read out ('\\' :: (written ++ cs)) = read (c :: out) cs)
    (hOther : mark ≠ '\\') (hEnd : StopsAt (· = mark) rest)
    (hInside : Written mark 2 plain escapes run inside cs) (hRun : run ≤ 2) (out : List Char) :
    read out (inside ++ (List.replicate 3 mark ++ rest)) = some (out.reverse ++ cs, rest) := by
  induction hInside generalizing out with
  | nil =>
      show read out (mark :: (List.replicate 2 mark ++ rest)) = _
      have hClosing := closing?_marks hEnd (Nat.zero_le 2) out
      rw [hMark]
      exact congrArg (Option.or · _) hClosing
  | @mark run inside cs hLess hRest ih =>
      rw [List.cons_append, hMark, ih (Nat.succ_le_of_lt hLess), List.reverse_cons, List.append_assoc]
      rcases closing?_cases hOther hEnd (.mark hLess hRest) hRun out with hEnds | hGoesOn
      · exact congrArg (Option.or · _) hEnds
      · exact congrArg (Option.or · _) hGoesOn
  | @plain _ c inside cs hDiffers hKept hRest ih =>
      rw [List.cons_append, hPlain c hDiffers hKept, ih (Nat.zero_le 2), List.reverse_cons,
        List.append_assoc]
      rfl
  | @escaped _ written c inside cs hWritten hRest ih =>
      rw [List.cons_append, List.append_assoc, hEscape written c hWritten, ih (Nat.zero_le 2),
        List.reverse_cons, List.append_assoc]
      rfl

end Written

/-! ### Reading to the closing quotes -/

variable {run : Nat} {inside cs rest : List Char}

theorem not_control {c : Char} (hPlain : isControl c = false) : c ≠ '\r' ∧ c ≠ '\n' := by
  constructor <;> rintro rfl <;> exact absurd hPlain (by decide)

def isBreak (c : Char) : Bool := c = '\n' || c = '\r'

theorem lineBreak?_of_stopsAt (hStop : StopsAt isBreak cs) : Token.lineBreak? cs = none := by
  unfold Token.lineBreak?
  split
  · exact absurd (hStop '\n' rfl) (by decide)
  · exact absurd (hStop '\r' rfl) (by decide)
  · rfl

theorem joinLines?_eq_none {written : List Char} {c : Char} (hEscape : IsEscape written c)
    (rest : List Char) : Token.joinLines? (written ++ rest) = none := by
  obtain ⟨letter, more, rfl, hLetter⟩ := hEscape.starts
  have hSpace : isLineSpace letter = false := by
    simp only [isLayout, Bool.or_eq_false_iff] at hLetter
    exact hLetter.1.1
  have hBreak : isBreak letter = false := by
    simp only [isLayout, Bool.or_eq_false_iff] at hLetter
    exact Bool.or_eq_false_iff.mpr ⟨hLetter.1.2, hLetter.2⟩
  have hEnds : Token.endsLine (letter :: (more ++ rest)) = false := by
    rw [Token.endsLine, List.dropWhile_cons_of_neg (by simpa using hSpace),
      lineBreak?_of_stopsAt (.cons hBreak)]
    rfl
  rw [List.cons_append, Token.joinLines?, hEnds]
  rfl

/-- Whether a character may stand in quotes as it is, on one line or on several. -/
def PlainIn (multiLine : Bool) (c : Char) : Prop :=
  (multiLine = true ∧ c = '\n') ∨ isControl c = false

theorem PlainIn.not_control {c : Char} (hPlain : PlainIn false c) : ¬ isControl c = true := by
  rcases hPlain with ⟨hFalse, -⟩ | hPlain
  · cases hFalse
  · exact Bool.eq_false_iff.mp hPlain

theorem basic?_written
    (hInside : Written '"' 0 (fun c => PlainIn false c ∧ c ≠ '\\') IsEscape run inside cs)
    (out : List Char) :
    Token.basic? out (inside ++ '"' :: rest) = some (out.reverse ++ cs, rest) := by
  apply Written.read_line ?_ ?_ ?_ hInside
  · intro out cs
    rw [Token.basic?]
  · rintro c hQuote ⟨hPlain, hBackslash⟩ out cs
    rw [Token.basic?]
    · rw [if_neg hPlain.not_control]
    · exact hQuote
    · exact hBackslash
  · intro written c hEscape out cs
    rw [Token.basic?, hEscape.reads]

theorem literal?_written
    (hInside : Written '\'' 0 (PlainIn false) (fun _ _ => False) run inside cs) (out : List Char) :
    Token.literal? out (inside ++ '\'' :: rest) = some (out.reverse ++ cs, rest) := by
  apply Written.read_line ?_ ?_ nofun hInside
  · intro out cs
    rw [Token.literal?]
  · intro c hQuote hPlain out cs
    rw [Token.literal?]
    · rw [if_neg hPlain.not_control]
    · exact hQuote

theorem basicPage?_written (hEnd : StopsAt (· = '"') rest)
    (hInside : Written '"' 2 (fun c => PlainIn true c ∧ c ≠ '\\') IsEscape run inside cs)
    (hRun : run ≤ 2) (out : List Char) :
    Token.basicPage? out (inside ++ (List.replicate 3 '"' ++ rest)) =
      some (out.reverse ++ cs, rest) := by
  apply Written.read_page ?_ ?_ ?_ (by decide) hEnd hInside hRun
  · intro out cs
    rw [Token.basicPage?]
    · rw [if_pos rfl]
      cases Token.closing? '"' out ('"' :: cs) <;> rfl
    all_goals simp
  · rintro c hQuote ⟨⟨-, rfl⟩ | hPlain, hBackslash⟩ out cs
    · rw [Token.basicPage?]
    · obtain ⟨hReturn, hBreak⟩ := not_control hPlain
      rw [Token.basicPage?]
      · rw [if_neg hQuote, if_neg (Bool.eq_false_iff.mp hPlain)]
      · exact fun _ hHead => absurd hHead hReturn
      · exact hBreak
      · exact hBackslash
  · intro written c hEscape out cs
    rw [Token.basicPage?, joinLines?_eq_none hEscape]
    simp only
    rw [hEscape.reads]

theorem literalPage?_written (hEnd : StopsAt (· = '\'') rest)
    (hInside : Written '\'' 2 (PlainIn true) (fun _ _ => False) run inside cs) (hRun : run ≤ 2)
    (out : List Char) :
    Token.literalPage? out (inside ++ (List.replicate 3 '\'' ++ rest)) =
      some (out.reverse ++ cs, rest) := by
  apply Written.read_page ?_ ?_ nofun (by decide) hEnd hInside hRun
  · intro out cs
    rw [Token.literalPage?]
    · rw [if_pos rfl]
      cases Token.closing? '\'' out ('\'' :: cs) <;> rfl
    all_goals simp
  · rintro c hQuote (⟨-, rfl⟩ | hPlain) out cs
    · rw [Token.literalPage?]
    · obtain ⟨hReturn, hBreak⟩ := not_control hPlain
      rw [Token.literalPage?]
      · rw [if_neg hQuote, if_neg (Bool.eq_false_iff.mp hPlain)]
      · exact fun _ hHead => absurd hHead hReturn
      · exact hBreak

/-! ### What is written in quotes -/

theorem isEscape_letter {letter c : Char} (hLetter : Token.escaped? letter = some c) :
    IsEscape [letter] c := by
  unfold Token.escaped? at hLetter
  split at hLetter
  all_goals cases hLetter
  all_goals exact ⟨fun rest => rfl, _, _, rfl, rfl⟩

theorem number?_fixed {n : Nat} (hSmall : n < 0x80) :
    Hex.number? (Hex.fixed Hex.upper 4 n) = some n := by
  revert n
  decide +kernel

theorem isEscape_number {c : Char} (hSmall : c.toNat < 0x80) :
    IsEscape ('u' :: Hex.fixed Hex.upper 4 c.toNat) c := by
  have hLength : (Hex.fixed Hex.upper 4 c.toNat).length = 4 := Hex.fixed_length ..
  have hValid : c.toNat.isValidChar := c.valid
  have hChar : Token.char? c.toNat = some c := by
    rw [Token.char?, if_pos hValid, Char.ofNat_toNat]
  refine ⟨fun rest => ?_, 'u', _, rfl, rfl⟩
  show Token.escape? ('u' :: (Hex.fixed Hex.upper 4 c.toNat ++ rest)) = _
  simp only [Token.escape?, Token.escapeWidth?]
  rw [List.take_left' hLength, if_pos hLength, number?_fixed hSmall, Option.bind_some, hChar,
    List.drop_left' hLength]

theorem isEscape_of_escape? {multiLine : Bool} {c : Char} {written : List Char}
    (hWritten : escape? multiLine c = some written) :
    ∃ rest, written = '\\' :: rest ∧ IsEscape rest c := by
  unfold escape? at hWritten
  iterate 3
    split at hWritten
    · subst_vars
      cases hWritten
      exact ⟨_, rfl, isEscape_letter rfl⟩
  split at hWritten
  · subst_vars
    cases multiLine with
    | false =>
        cases hWritten
        exact ⟨_, rfl, isEscape_letter rfl⟩
    | true => cases hWritten
  iterate 2
    split at hWritten
    · subst_vars
      cases hWritten
      exact ⟨_, rfl, isEscape_letter rfl⟩
  split at hWritten
  · rename_i hNeeds
    have hSmall : c.toNat < 0x80 := by
      simp only [needsEscape, Bool.or_eq_true, Bool.and_eq_true, decide_eq_true_iff] at hNeeds
      rcases hNeeds with ⟨⟨hControl, -⟩, -⟩ | rfl
      · exact Nat.lt_trans hControl (by decide)
      · decide
    cases hWritten
    exact ⟨_, rfl, isEscape_number hSmall⟩
  · cases hWritten

theorem isControl_of_needsEscape {c : Char} (hNeeds : needsEscape c = false) (hBreak : c ≠ '\n') :
    isControl c = false := by
  simp only [needsEscape, isControl, Bool.or_eq_false_iff] at hNeeds ⊢
  have hControl : (decide (c.toNat < 0x20) && decide (c ≠ '\t')) = false := by
    simpa [hBreak] using hNeeds.1
  exact ⟨hControl, hNeeds.2⟩

theorem plainIn_of_escape?_none {multiLine : Bool} {c : Char} (hNone : escape? multiLine c = none) :
    PlainIn multiLine c ∧ c ≠ '\\' := by
  have hBackslash : c ≠ '\\' := by
    rintro rfl
    cases hNone
  refine ⟨?_, hBackslash⟩
  by_cases hBreak : c = '\n'
  · subst hBreak
    cases multiLine with
    | false => cases hNone
    | true => exact .inl ⟨rfl, rfl⟩
  · right
    apply isControl_of_needsEscape ?_ hBreak
    rw [Bool.eq_false_iff]
    intro hNeeds
    unfold escape? at hNone
    simp only [hBreak, hNeeds, if_true, if_false] at hNone
    repeat (split at hNone; cases hNone)
    cases hNone

theorem escapeAll_written (multiLine : Bool) (run : Nat) (cs : List Char) :
    Written '"' (freeQuotes multiLine) (fun c => PlainIn multiLine c ∧ c ≠ '\\') IsEscape run
      (escapeAll multiLine run cs) cs := by
  induction cs generalizing run with
  | nil => exact .nil
  | cons c cs ih =>
      rw [escapeAll]
      split
      · rename_i hQuote
        subst hQuote
        split
        · rename_i hRun
          exact .mark hRun (ih (run + 1))
        · exact .escaped (isEscape_letter rfl) (ih 0)
      · rename_i hQuote
        split
        · rename_i written hWritten
          obtain ⟨rest, rfl, hEscape⟩ := isEscape_of_escape? hWritten
          exact .escaped hEscape (ih 0)
        · rename_i hNone
          exact .plain hQuote (plainIn_of_escape?_none hNone) (ih 0)

/-! ### The token of a text in quotes -/

def isQuote (c : Char) : Bool := c = '"' || c = '\''

/-- A text without marks in a row does not begin like a page. -/
theorem Written.not_page {mark : Char} {plain : Char → Prop} {escapes : List Char → Char → Prop}
    (hMark : mark ≠ '\\') (hInside : Written mark 0 plain escapes run inside cs)
    (hEnd : StopsAt (· = mark) rest) (more : List Char) :
    inside ++ mark :: rest ≠ mark :: mark :: more := by
  intro hPage
  cases hInside with
  | nil =>
      rw [List.nil_append, List.cons.injEq] at hPage
      rw [hPage.2] at hEnd
      exact absurd (hEnd mark rfl) (by simp)
  | mark hLess => exact absurd hLess (Nat.not_lt_zero _)
  | plain hOther => exact hOther (List.cons.inj hPage).1
  | escaped => exact hMark (List.cons.inj hPage).1.symm

theorem next?_basic
    (hInside : Written '"' 0 (fun c => PlainIn false c ∧ c ≠ '\\') IsEscape 0 inside cs)
    (hEnd : StopsAt isQuote rest) :
    Token.next? ('"' :: inside ++ ['"'] ++ rest) = some (.text (String.ofList cs), rest) := by
  have hStop : StopsAt (· = '"') rest := hEnd.imp fun c hc => by simp_all [isQuote]
  have hRead : Token.basic? [] (inside ++ '"' :: rest) = some (cs, rest) :=
    basic?_written hInside []
  simp only [List.cons_append, List.append_assoc, List.nil_append]
  rw [Token.next?]
  · rw [hRead]
    rfl
  · exact hInside.not_page (by decide) hStop

theorem next?_literal (hInside : Written '\'' 0 (PlainIn false) (fun _ _ => False) 0 inside cs)
    (hEnd : StopsAt isQuote rest) :
    Token.next? ('\'' :: inside ++ ['\''] ++ rest) = some (.text (String.ofList cs), rest) := by
  have hStop : StopsAt (· = '\'') rest := hEnd.imp fun c hc => by simp_all [isQuote]
  have hRead : Token.literal? [] (inside ++ '\'' :: rest) = some (cs, rest) :=
    literal?_written hInside []
  simp only [List.cons_append, List.append_assoc, List.nil_append]
  rw [Token.next?]
  · rw [hRead]
    rfl
  · exact hInside.not_page (by decide) hStop

/-- Only the line break that a page with several lines begins with is dropped. -/
theorem dropFirstBreak_page {multiLine : Bool} {cs : List Char}
    (hFirst : multiLine = false → StopsAt isBreak cs) :
    Token.dropFirstBreak ((if multiLine then ['\n'] else []) ++ cs) = cs := by
  cases multiLine with
  | true => rfl
  | false =>
      rw [Token.dropFirstBreak]
      simp [lineBreak?_of_stopsAt (hFirst rfl)]

theorem page_append (mark : Char) (multiLine : Bool) (inside rest : List Char) :
    page mark multiLine inside ++ rest = mark :: mark :: mark ::
      ((if multiLine then ['\n'] else []) ++ (inside ++ (List.replicate 3 mark ++ rest))) := by
  simp only [page, List.append_assoc]
  rfl

theorem next?_basicPage {multiLine : Bool}
    (hInside : Written '"' 2 (fun c => PlainIn true c ∧ c ≠ '\\') IsEscape 0 inside cs)
    (hFirst : multiLine = false → StopsAt isBreak (inside ++ (List.replicate 3 '"' ++ rest)))
    (hEnd : StopsAt isQuote rest) :
    Token.next? (page '"' multiLine inside ++ rest) = some (.page (String.ofList cs), rest) := by
  have hStop : StopsAt (· = '"') rest := hEnd.imp fun c hc => by simp_all [isQuote]
  have hRead := basicPage?_written hStop hInside (Nat.zero_le 2) []
  rw [page_append, Token.next?, dropFirstBreak_page hFirst, hRead]
  rfl

theorem next?_literalPage {multiLine : Bool}
    (hInside : Written '\'' 2 (PlainIn true) (fun _ _ => False) 0 inside cs)
    (hFirst : multiLine = false → StopsAt isBreak (inside ++ (List.replicate 3 '\'' ++ rest)))
    (hEnd : StopsAt isQuote rest) :
    Token.next? (page '\'' multiLine inside ++ rest) = some (.page (String.ofList cs), rest) := by
  have hStop : StopsAt (· = '\'') rest := hEnd.imp fun c hc => by simp_all [isQuote]
  have hRead := literalPage?_written hStop hInside (Nat.zero_le 2) []
  rw [page_append, Token.next?, dropFirstBreak_page hFirst, hRead]
  rfl

/-- A text without characters that need a backslash, by what may still stand in it. -/
theorem plainIn_of_all {multiLine : Bool} {cs : List Char} (hControls : cs.any needsEscape = false)
    (hLines : multiLine = false → cs.any (· = '\n') = false) : ∀ c ∈ cs, PlainIn multiLine c := by
  intro c hc
  have hNeeds : needsEscape c = false := Bool.eq_false_iff.mpr fun hNeeds => by
    rw [List.any_eq_true.mpr ⟨c, hc, hNeeds⟩] at hControls
    cases hControls
  by_cases hBreak : c = '\n'
  · cases multiLine with
    | true => exact .inl ⟨rfl, hBreak⟩
    | false =>
        rw [List.any_eq_true.mpr ⟨c, hc, decide_eq_true hBreak⟩] at hLines
        cases hLines rfl
  · exact .inr (isControl_of_needsEscape hNeeds hBreak)

theorem stopsAt_isBreak {mark : Char} (hMark : isBreak mark = false)
    (hPlain : ∀ c ∈ cs, PlainIn false c) (more : List Char) :
    StopsAt isBreak (cs ++ (List.replicate 3 mark ++ more)) := by
  cases cs with
  | nil => exact .cons hMark
  | cons c cs =>
      have hControl := Bool.eq_false_iff.mpr (hPlain c (List.mem_cons_self ..)).not_control
      obtain ⟨hReturn, hBreak⟩ := not_control hControl
      exact .cons (by simp [isBreak, hReturn, hBreak])

/-- However a text is put in quotes, it is one token, which holds the text. -/
theorem next?_quote (cs : List Char) (hEnd : StopsAt isQuote rest) :
    ∃ t, (t = .text (String.ofList cs) ∨ t = .page (String.ofList cs)) ∧
      Token.next? (quote cs ++ rest) = some (t, rest) := by
  have hNoBackslash : cs.any (· = '\\') = false → ∀ c ∈ cs, c ≠ '\\' := by
    simp
  unfold quote
  simp only
  split
  · rename_i hForm
    simp only [Bool.and_eq_true, Bool.not_eq_true', decide_eq_true_iff] at hForm
    obtain ⟨⟨⟨hControls, hBackslash⟩, hLines⟩, hMarks⟩ := hForm
    have hPlain : ∀ c ∈ cs, PlainIn false c := plainIn_of_all hControls fun _ => hLines
    refine ⟨_, .inl rfl, next?_basic (.ofPlain (fun c hc _ => ?_) (Nat.le_of_eq hMarks)) hEnd⟩
    exact ⟨hPlain c hc, hNoBackslash hBackslash c hc⟩
  split
  · rename_i hForm
    simp only [Bool.and_eq_true, Bool.not_eq_true', decide_eq_true_iff] at hForm
    obtain ⟨⟨hControls, hLines⟩, hMarks⟩ := hForm
    have hPlain : ∀ c ∈ cs, PlainIn false c := plainIn_of_all hControls fun _ => hLines
    exact ⟨_, .inl rfl, next?_literal (.ofPlain (fun c hc _ => hPlain c hc) (Nat.le_of_eq hMarks)) hEnd⟩
  split
  · rename_i hForm
    simp only [Bool.and_eq_true, Bool.not_eq_true', decide_eq_true_iff] at hForm
    obtain ⟨⟨hControls, hBackslash⟩, hMarks⟩ := hForm
    have hPlain : ∀ c ∈ cs, PlainIn true c := plainIn_of_all hControls nofun
    refine ⟨_, .inr rfl, next?_basicPage (.ofPlain (fun c hc _ => ?_) hMarks) (fun hLines => ?_) hEnd⟩
    · exact ⟨hPlain c hc, hNoBackslash hBackslash c hc⟩
    · exact stopsAt_isBreak rfl (plainIn_of_all hControls fun _ => hLines) rest
  split
  · rename_i hForm
    simp only [Bool.and_eq_true, Bool.not_eq_true', decide_eq_true_iff] at hForm
    obtain ⟨hControls, hMarks⟩ := hForm
    have hPlain : ∀ c ∈ cs, PlainIn true c := plainIn_of_all hControls nofun
    refine ⟨_, .inr rfl, next?_literalPage (.ofPlain (fun c hc _ => hPlain c hc) hMarks)
      (fun hLines => ?_) hEnd⟩
    exact stopsAt_isBreak rfl (plainIn_of_all hControls fun _ => hLines) rest
  split
  · exact ⟨_, .inr rfl, next?_basicPage (escapeAll_written true 0 cs) nofun hEnd⟩
  · exact ⟨_, .inl rfl, next?_basic (escapeAll_written false 0 cs) hEnd⟩

end BulkLoad.Toml
