import BulkLoad.Proofs.Toml.Tokens

/-!
Values of TOML, read back from where they stand: on a line, or as an item of an array.
-/
namespace BulkLoad.Toml

open Decimal

/-- A value that is read as itself, with arrays nested no deeper than `depth`. Its integers are
naturals, and its doubles have digits enough. -/
inductive Proper : Nat → Toml → Prop where
  | text {depth : Nat} (s : String) : Proper depth (.text s)
  | natural {depth n : Nat} (hRange : n < Nat.pow 2 128) : Proper depth (.integer n)
  | float {depth : Nat} {x : Float} (hDigits : scalar? (floatChars x) = some (.float x)) :
      Proper depth (.float x)
  | bool {depth : Nat} (b : Bool) : Proper depth (.bool b)
  | array {depth : Nat} {items : List Toml} (hItems : ∀ v ∈ items, Proper depth v) :
      Proper (depth + 1) (.array items)

/-- What ends a value, with its tokens: the end of the line, a comma, or the end of an array. -/
inductive Ends : List Char → List Token → Prop where
  | line {rest : List Char} {ts : List Token} (hRest : Yields rest ts) :
      Ends ('\n' :: rest) (.newline :: ts)
  | item {rest : List Char} {ts : List Token} (hRest : Yields rest ts) :
      Ends (',' :: rest) (.comma :: ts)
  | array {rest : List Char} {ts : List Token} (hRest : Yields rest ts) :
      Ends (']' :: rest) (.closeBracket :: ts)

namespace Ends

variable {rest : List Char} {ts : List Token}

theorem yields (hEnds : Ends rest ts) : Yields rest ts := by
  cases hEnds with
  | line hRest => exact .mark (by decide) rfl hRest
  | item hRest => exact .mark (by decide) rfl hRest
  | array hRest => exact .mark (by decide) rfl hRest

theorem stops {kind : Char → Bool} (hEnds : Ends rest ts)
    (hKind : ['\n', ',', ']'].any kind = false) : StopsAt kind rest := by
  have hOther : ∀ c ∈ ['\n', ',', ']'], kind c = false := fun c hc =>
    Bool.eq_false_iff.mpr (List.any_eq_false.mp hKind c hc)
  cases hEnds with
  | line hRest => exact .cons (hOther _ (by simp))
  | item hRest => exact .cons (hOther _ (by simp))
  | array hRest => exact .cons (hOther _ (by simp))

theorem wordOnto_eq (hEnds : Ends rest ts) (w : List Char) : wordOnto w ts = (w, ts) := by
  cases hEnds <;> simp [wordOnto]

theorem scalarWord_eq (hEnds : Ends rest ts) (w : List Char) {us : List Token} {whole : List Char}
    (hWord : wordOnto whole us = wordOnto w ts) : scalarWord whole us = (w, ts) := by
  rw [scalarWord, hWord, hEnds.wordOnto_eq]
  cases hEnds <;> rfl

end Ends

/-- A token with which a value begins. -/
inductive Begins : Token → Prop where
  | text (s : String) : Begins (.text s)
  | page (s : String) : Begins (.page s)
  | word (w : List Char) : Begins (.word w)
  | array : Begins .openBracket

/-- In front of what ends it, the characters of a value give tokens that are read as the value. -/
structure Reads (depth : Nat) (v : Toml) (rest : List Char) (ts us : List Token) : Prop where
  begins : ∃ t more, us = t :: more ∧ Begins t
  starts : StopsAt Token.isLineSpace (inline v ++ rest)
  yields : Yields (inline v ++ rest) us
  longer : ts.length ≤ us.length
  reads : ∀ frames : List Frame, frames.length + depth ≤ maxDepth →
    value? frames us = close? frames v ts

variable {depth : Nat} {v : Toml} {rest : List Char} {ts us : List Token}

theorem items?_of_reads (hReads : Reads depth v rest ts us) {frames : List Frame}
    (hDepth : frames.length + (depth + 1) ≤ maxDepth) (before : List Toml) :
    items? frames before us = close? (.items before :: frames) v ts := by
  obtain ⟨t, more, rfl, hBegins⟩ := hReads.begins
  have hOpened : items? frames before (t :: more) = value? (.items before :: frames) (t :: more) := by
    cases hBegins <;> simp [items?]
  rw [hOpened, hReads.reads]
  rw [List.length_cons]
  omega

/-- What is read by one unquoted word, or by two with a point between them. -/
theorem reads_word {w : List Char} (hInline : inline v = w)
    (hWord : IsWord w ∨ ∃ whole fraction, w = whole ++ '.' :: fraction ∧ IsWord whole ∧
      IsWord fraction) (hScalar : scalar? w = some v) (hEnds : Ends rest ts) :
    ∃ us, Reads depth v rest ts us := by
  subst hInline
  have hStops : StopsAt (fun c => !Token.isSpecial c) rest := hEnds.stops rfl
  obtain hWord | ⟨whole, fraction, hBoth, hWhole, hFraction⟩ := hWord
  · exact ⟨.word (inline v) :: ts, {
      begins := ⟨_, _, rfl, .word _⟩
      starts := hWord.starts rest
      yields := .word hWord hStops hEnds.yields
      longer := Nat.le_succ _
      reads := fun frames _ => by rw [value?, hEnds.scalarWord_eq (inline v) rfl, hScalar] }⟩
  · have hChars : inline v ++ rest = whole ++ '.' :: (fraction ++ rest) := by
      rw [hBoth, List.append_assoc, List.cons_append]
    have hRead : scalarWord whole (.dot :: .word fraction :: ts) = (inline v, ts) := by
      apply hEnds.scalarWord_eq
      rw [hBoth, wordOnto, wordOnto, List.append_assoc, List.singleton_append]
    exact ⟨.word whole :: .dot :: .word fraction :: ts, {
      begins := ⟨_, _, rfl, .word _⟩
      starts := hChars ▸ hWhole.starts _
      yields := hChars ▸ .word hWhole (.cons rfl)
        (.mark (by decide) rfl (.word hFraction hStops hEnds.yields))
      longer := Nat.le_add_right _ 3
      reads := fun frames _ => by rw [value?, hRead, hScalar] }⟩

theorem reads_text (s : String) (hEnds : Ends rest ts) :
    ∃ us, Reads depth (.text s) rest ts us := by
  have hStops : StopsAt isQuote rest := hEnds.stops rfl
  obtain ⟨t, hKind, hYields⟩ := Yields.quoted s.toList hStops hEnds.yields
  obtain ⟨mark, more, hQuote, hMark⟩ := exists_quote_eq s.toList
  rw [String.ofList_toList] at hKind
  have hStarts : StopsAt Token.isLineSpace (quote s.toList ++ rest) := by
    rw [hQuote]
    apply StopsAt.cons
    rw [Bool.eq_false_iff]
    intro hSpace
    simp only [Token.isLineSpace, Bool.or_eq_true, decide_eq_true_iff] at hSpace
    rcases hSpace with rfl | rfl <;> cases hMark
  obtain rfl | rfl := hKind
  · exact ⟨_, {
      begins := ⟨_, _, rfl, .text _⟩
      starts := hStarts
      yields := hYields
      longer := Nat.le_succ _
      reads := fun frames _ => by rw [value?] }⟩
  · exact ⟨_, {
      begins := ⟨_, _, rfl, .page _⟩
      starts := hStarts
      yields := hYields
      longer := Nat.le_succ _
      reads := fun frames _ => by rw [value?] }⟩

/-- The items of an array, each on a line. -/
theorem reads_items {items : List Toml}
    (hItems : ∀ v ∈ items, ∀ {rest ts}, Ends rest ts → ∃ us, Reads depth v rest ts us)
    (hRest : Yields rest ts) :
    ∃ us, Yields (inlineItems items ++ ']' :: rest) us ∧ ts.length ≤ us.length ∧
      ∀ frames before, frames.length + (depth + 1) ≤ maxDepth →
        items? frames before us = close? frames (.array (before.reverse ++ items)) ts := by
  induction items with
  | nil =>
      refine ⟨.closeBracket :: ts, .mark (by decide) rfl hRest, Nat.le_succ _,
        fun frames before _ => ?_⟩
      rw [items?, List.append_nil]
  | cons v items ih =>
      obtain ⟨hFirst, hOthers⟩ := List.forall_mem_cons.mp hItems
      -- a comma and a line break stand behind every item, the last one too
      obtain ⟨us, hYields, hLonger, hRead⟩ := ih hOthers
      have hBreak : Yields ('\n' :: (inlineItems items ++ ']' :: rest)) (.newline :: us) :=
        .mark (by decide) rfl hYields
      obtain ⟨vs, hReads⟩ := hFirst (.item hBreak)
      have hLength : ts.length ≤ vs.length + 1 :=
        Nat.le_trans hLonger (Nat.le_trans (Nat.le_add_right _ 2) (Nat.le_succ_of_le hReads.longer))
      refine ⟨.blank (List.replicate 4 ' ') :: vs, ?_, hLength, fun frames before hDepth => ?_⟩
      · have hChars : inlineItems (v :: items) ++ ']' :: rest =
            List.replicate 4 ' ' ++ (inline v ++ ',' :: '\n' :: (inlineItems items ++ ']' :: rest)) := by
          rw [inlineItems, List.append_assoc, List.append_assoc, List.cons_append, List.cons_append]
          rfl
        rw [hChars]
        exact .blank 3 hReads.starts hReads.yields
      · rw [items?, items?_of_reads hReads hDepth, close?, items?, hRead _ _ hDepth,
          List.reverse_cons, List.append_assoc]
        rfl

/-- A proper value is read back in front of whatever ends it. -/
theorem reads_of_proper (hProper : Proper depth v) (hEnds : Ends rest ts) :
    ∃ us, Reads depth v rest ts us := by
  induction hProper generalizing rest ts with
  | text s => exact reads_text s hEnds
  | @natural depth n hRange =>
      have hInline : inline (.integer n) = digits n := by
        show (Nat.repr n).toList = digits n
        rw [Nat.toList_repr, digits]
      exact reads_word hInline (.inl (isWord_of_digits (isDigits_digits n))) (scalar?_digits hRange)
        hEnds
  | float hDigits => exact reads_word (by rw [inline]) (floatChars_cases _) hDigits hEnds
  | bool b =>
      cases b with
      | true => exact reads_word (by rw [inline]) (.inl (isWord_of_all rfl)) rfl hEnds
      | false => exact reads_word (by rw [inline]) (.inl (isWord_of_all rfl)) rfl hEnds
  | @array depth items hItems ih =>
      have hOpen : ∀ (frames : List Frame) us, frames.length + (depth + 1) ≤ maxDepth →
          value? frames (.openBracket :: us) = items? frames [] us := by
        intro frames us hDepth
        rw [value?, if_pos]
        omega
      match items with
      | [] =>
          exact ⟨.openBracket :: .closeBracket :: ts, {
            begins := ⟨_, _, rfl, .array⟩
            starts := .cons rfl
            yields := .mark (by decide) rfl (.mark (by decide) rfl hEnds.yields)
            longer := Nat.le_add_right _ 2
            reads := fun frames hDepth => by
              rw [hOpen frames _ hDepth, items?]
              rfl }⟩
      | [v] =>
          obtain ⟨us, hReads⟩ := ih v (List.mem_cons_self ..) (.array hEnds.yields)
          have hChars : inline (.array [v]) ++ rest = '[' :: (inline v ++ ']' :: rest) := by
            rw [inline, List.cons_append, List.cons_append, List.append_assoc]
            rfl
          exact ⟨.openBracket :: us, {
            begins := ⟨_, _, rfl, .array⟩
            starts := hChars ▸ .cons rfl
            yields := hChars ▸ .mark (by decide) rfl hReads.yields
            longer := Nat.le_trans (Nat.le_succ _) (Nat.le_succ_of_le hReads.longer)
            reads := fun frames hDepth => by
              rw [hOpen frames _ hDepth, items?_of_reads hReads hDepth, close?]
              rfl }⟩
      | v :: w :: items =>
          obtain ⟨us, hYields, hLonger, hRead⟩ := reads_items ih hEnds.yields
          have hChars : inline (.array (v :: w :: items)) ++ rest =
              '[' :: '\n' :: (inlineItems (v :: w :: items) ++ ']' :: rest) := by
            rw [inline, List.cons_append, List.cons_append, List.append_assoc]
            · rfl
            all_goals simp
          exact ⟨.openBracket :: .newline :: us, {
            begins := ⟨_, _, rfl, .array⟩
            starts := hChars ▸ .cons rfl
            yields := hChars ▸ .mark (by decide) rfl (.mark (by decide) rfl hYields)
            longer := Nat.le_trans hLonger (Nat.le_add_right _ 2)
            reads := fun frames hDepth => by
              rw [hOpen frames _ hDepth, items?, hRead frames [] hDepth]
              rfl }⟩

end BulkLoad.Toml
