import BulkLoad.Json.Printer
import BulkLoad.Json.Reader
import BulkLoad.Proofs.Decimal.Numerals

/-!
The tokens of a JSON value in its page.

Spaces and line breaks leave no token. A text keeps its characters, since each is written so that it
is read as itself, and a number is read to where its characters end.
-/
namespace BulkLoad.Json

open Decimal

/-- A value that has a form of its own in a text: its numbers are written properly, and its strings
and names are texts. -/
inductive Proper : Json → Prop where
  | null : Proper .null
  | bool (b : Bool) : Proper (.bool b)
  | number {n : Numeral} (hNumeral : n.Proper) : Proper (.number n)
  | text (s : String) : Proper (.text (some s))
  | array {items : List Json} (hItems : ∀ v ∈ items, Proper v) : Proper (.array items)
  | object {members : List (Option String × Json)} (hNames : ∀ m ∈ members, m.1.isSome = true)
      (hMembers : ∀ m ∈ members, Proper m.2) : Proper (.object members)

mutual

/-- The tokens of a value. -/
def tokens : Json → List Token
  | .null => [.null]
  | .bool b => [.bool b]
  | .number n => [.number n]
  | .text s => [.text s]
  | .array items => .openArray :: itemTokens items ++ [.closeArray]
  | .object members => .openObject :: memberTokens members ++ [.closeObject]

def itemTokens : List Json → List Token
  | [] => []
  | [v] => tokens v
  | v :: vs => tokens v ++ .comma :: itemTokens vs

def memberTokens : List (Option String × Json) → List Token
  | [] => []
  | [(name, v)] => .text name :: .colon :: tokens v
  | (name, v) :: ms => .text name :: .colon :: tokens v ++ .comma :: memberTokens ms

end

/-! ### From characters to tokens -/

/-- Whatever was read before, the characters give the tokens, and are read to their end. -/
def Yields (cs : List Char) (ts : List Token) : Prop :=
  ∀ read fuel, cs.length ≤ fuel → tokens? read fuel cs = some (read.reverse ++ ts)

namespace Yields

variable {c : Char} {cs rest blank : List Char} {t : Token} {ts : List Token}

theorem nil : Yields [] [] := by
  intro read fuel _
  rw [tokens?, List.append_nil]

theorem space (hSpace : isSpace c = true) (hRest : Yields rest ts) : Yields (c :: rest) ts := by
  intro read fuel hFuel
  obtain ⟨fuel, rfl⟩ := Nat.exists_eq_add_of_le' (Nat.le_trans (Nat.succ_pos _) hFuel)
  rw [tokens?, if_pos hSpace]
  exact hRest read fuel (Nat.le_of_succ_le_succ hFuel)

theorem spaces (hBlank : ∀ c ∈ blank, isSpace c = true) (hRest : Yields rest ts) :
    Yields (blank ++ rest) ts := by
  induction blank with
  | nil => exact hRest
  | cons c blank ih =>
      obtain ⟨hHead, hTail⟩ := List.forall_mem_cons.mp hBlank
      exact (ih hTail).space hHead

theorem token (hSpace : isSpace c = false) (hToken : token? (c :: cs) = some (t, rest))
    (hShort : rest.length ≤ cs.length) (hRest : Yields rest ts) : Yields (c :: cs) (t :: ts) := by
  intro read fuel hFuel
  obtain ⟨fuel, rfl⟩ := Nat.exists_eq_add_of_le' (Nat.le_trans (Nat.succ_pos _) hFuel)
  rw [tokens?, if_neg (Bool.eq_false_iff.mp hSpace), hToken]
  simp only
  rw [hRest (t :: read) fuel (Nat.le_trans hShort (Nat.le_of_succ_le_succ hFuel)),
    List.reverse_cons, List.append_assoc]
  rfl

/-- A token of one character. -/
theorem mark (hSpace : isSpace c = false) (hToken : token? (c :: rest) = some (t, rest))
    (hRest : Yields rest ts) : Yields (c :: rest) (t :: ts) :=
  token hSpace hToken (Nat.le_refl _) hRest

end Yields

/-! ### Texts -/

variable {out : Option (List Char)} {rest : List Char}

theorem string?_plain {c : Char} (hQuote : c ≠ '"') (hBackslash : c ≠ '\\') (hPrinted : 0x20 ≤ c.toNat) :
    string? out (c :: rest) = string? (pushChar c out) rest := by
  rw [string?.eq_def]
  split <;> simp_all

theorem string?_letter {letter c : Char} (hLetter : escaped? letter = some c) :
    string? out ('\\' :: letter :: rest) = string? (pushChar c out) rest := by
  have hOther : letter ≠ 'u' := by
    rintro rfl
    cases hLetter
  simp [string?, hLetter, hOther]

/-- What begins with a number after a backslash begins with one that can be read. -/
def Readable (cs : List Char) : Prop :=
  ∀ a b c d more, cs = '\\' :: 'u' :: a :: b :: c :: d :: more → Hex.number? [a, b, c, d] ≠ none

theorem string?_number {a b c d : Char} {n : Nat} (hNumber : Hex.number? [a, b, c, d] = some n)
    (hSmall : n < 0x20) (hRest : Readable rest) :
    string? out ('\\' :: 'u' :: a :: b :: c :: d :: rest) =
      string? (pushChar (Char.ofNat n) out) rest := by
  have hHigh : isHighSurrogate n = false := by simp [isHighSurrogate]; omega
  have hLow : isLowSurrogate n = false := by simp [isLowSurrogate]; omega
  by_cases hNext : ∃ e f g h more, rest = '\\' :: 'u' :: e :: f :: g :: h :: more
  · obtain ⟨e, f, g, h, more, rfl⟩ := hNext
    obtain ⟨low, hLowNumber⟩ := Option.ne_none_iff_exists'.mp (hRest e f g h more rfl)
    simp [string?, hNumber, hLowNumber, hHigh, hLow]
  · have hOther : ∀ e f g h more, rest = '\\' :: 'u' :: e :: f :: g :: h :: more → False :=
      fun e f g h more hMore => hNext ⟨e, f, g, h, more, hMore⟩
    rw [string?]
    · simp [hNumber, hHigh, hLow]
    · exact hOther

theorem number?_fixed {n : Nat} (hSmall : n < 0x20) :
    Hex.number? (Hex.fixed Hex.lower 4 n) = some n := by
  revert n
  decide

/-- A character is written as it is, as a letter after a backslash, or as a number. -/
theorem escape_cases (c : Char) :
    (escape c = [c] ∧ c ≠ '"' ∧ c ≠ '\\' ∧ 0x20 ≤ c.toNat) ∨
      (∃ letter, escape c = ['\\', letter] ∧ escaped? letter = some c) ∨
      ∃ d e f g, escape c = ['\\', 'u', d, e, f, g] ∧ Hex.number? [d, e, f, g] = some c.toNat ∧
        c.toNat < 0x20 := by
  unfold escape
  iterate 7
    split
    · subst_vars
      exact .inr (.inl ⟨_, rfl, rfl⟩)
  rename_i hQuote hBackslash _ _ _ _ _
  split
  · rename_i hControl
    exact .inr (.inr ⟨_, _, _, _, rfl, number?_fixed hControl, hControl⟩)
  · rename_i hPrinted
    exact .inl ⟨rfl, hQuote, hBackslash, Nat.le_of_not_lt hPrinted⟩

theorem string?_escape (c : Char) (hRest : Readable rest) :
    string? out (escape c ++ rest) = string? (pushChar c out) rest := by
  rcases escape_cases c with ⟨hSame, hQuote, hBackslash, hPrinted⟩ | ⟨letter, hEscape, hLetter⟩ |
    ⟨a, b, d, e, hEscape, hNumber, hSmall⟩
  · rw [hSame]
    exact string?_plain hQuote hBackslash hPrinted
  · rw [hEscape]
    exact string?_letter hLetter
  · rw [hEscape]
    exact (string?_number hNumber hSmall hRest).trans (by rw [Char.ofNat_toNat])

theorem readable_flatMap_escape (cs : List Char) :
    Readable (cs.flatMap escape ++ '"' :: rest) := by
  intro a b c d more hMore
  cases cs with
  | nil => cases hMore
  | cons e cs =>
      rw [List.flatMap_cons, List.append_assoc] at hMore
      rcases escape_cases e with ⟨hSame, -, hBackslash, -⟩ | ⟨letter, hEscape, hLetter⟩ |
        ⟨f, g, h, i, hEscape, hNumber, hSmall⟩
      · rw [hSame] at hMore
        exact absurd (List.cons.inj hMore).1 hBackslash
      · rw [hEscape] at hMore
        obtain ⟨-, hTail⟩ := List.cons.inj hMore
        obtain ⟨rfl, -⟩ := List.cons.inj hTail
        cases hLetter
      · rw [hEscape] at hMore
        simp only [List.cons_append, List.cons.injEq, true_and] at hMore
        obtain ⟨rfl, rfl, rfl, rfl, -⟩ := hMore
        rw [hNumber]
        exact Option.some_ne_none _

theorem string?_flatMap_escape (cs read : List Char) :
    string? (some read) (cs.flatMap escape ++ '"' :: rest) =
      some (some (String.ofList (read.reverse ++ cs)), rest) := by
  induction cs generalizing read with
  | nil => simp [string?]
  | cons c cs ih =>
      rw [List.flatMap_cons, List.append_assoc, string?_escape c (readable_flatMap_escape cs),
        pushChar, Option.map_some, ih]
      simp

/-! ### Values -/

namespace Yields

variable {ts : List Token} {v : Json} {n : Numeral} {level : Nat}

theorem text (s : String) (hRest : Yields rest ts) :
    Yields (quoteText (some s) ++ rest) (.text (some s) :: ts) := by
  have hString : string? (some []) (s.toList.flatMap escape ++ '"' :: rest) =
      some (some (String.ofList ([].reverse ++ s.toList)), rest) := string?_flatMap_escape s.toList []
  have hChars : quoteText (some s) ++ rest = '"' :: (s.toList.flatMap escape ++ '"' :: rest) := by
    simp [quoteText, quote]
  rw [hChars]
  apply token rfl ?_ ?_ hRest
  · simp [token?, hString]
  · simp only [List.length_append, List.length_cons]
    omega

theorem isSpace_of_isDigit {c : Char} (hDigit : isDigit c = true) : isSpace c = false := by
  simp only [isSpace, Bool.or_eq_false_iff, decide_eq_false_iff_not]
  refine ⟨⟨⟨?_, ?_⟩, ?_⟩, ?_⟩ <;> rintro rfl <;> exact absurd hDigit (by decide)

theorem token?_digit {c : Char} (hDigit : isDigit c = true) (cs : List Char) :
    token? (c :: cs) = (Numeral.read? false (c :: cs)).map fun (n, rest) => (.number n, rest) := by
  rw [token?.eq_def]
  split
  all_goals first
    | rfl
    | rename_i hHead
      obtain ⟨rfl, -⟩ := List.cons.inj hHead
      exact absurd hDigit (by decide)

theorem number (hProper : n.Proper) (hEnd : StopsAt Numeral.goesOn rest) (hRest : Yields rest ts) :
    Yields (n.toChars ++ rest) (.number n :: ts) := by
  have hRead := Numeral.read?_unsigned hProper hEnd
  rw [Numeral.toChars, List.append_assoc]
  cases hSign : n.negative with
  | true =>
      rw [hSign] at hRead
      apply token rfl ?_ ?_ hRest
      · simp [token?, hRead]
      · simp
  | false =>
      rw [hSign] at hRead
      obtain ⟨d, ds, hDigits⟩ := List.exists_cons_of_ne_nil hProper.whole_ne_nil
      have hDigit : isDigit d = true := hProper.whole_digits d (by simp [hDigits])
      have hChars : n.unsigned ++ rest = d :: (ds ++ (Numeral.fractionChars n.fraction ++
          (Numeral.powerChars n.power ++ rest))) := by
        simp [Numeral.unsigned, hDigits]
      show Yields (n.unsigned ++ rest) _
      rw [hChars] at hRead ⊢
      apply token (isSpace_of_isDigit hDigit) ?_ ?_ hRest
      · rw [token?_digit hDigit, hRead]
        rfl
      · simp only [List.length_append]
        omega

theorem newLine (level : Nat) (hRest : Yields rest ts) : Yields (Json.newLine level ++ rest) ts := by
  apply hRest.spaces
  intro c hc
  rcases List.mem_cons.mp hc with rfl | hc
  · rfl
  · rw [List.eq_of_mem_replicate hc]
    rfl

end Yields

/-- The page of a value gives its tokens. -/
def Printed (v : Json) : Prop :=
  ∀ level {rest ts}, StopsAt Numeral.goesOn rest → Yields rest ts →
    Yields (pretty level v ++ rest) (tokens v ++ ts)

theorem stopsAt_newLine (level : Nat) (rest : List Char) :
    StopsAt Numeral.goesOn (newLine level ++ rest) := .cons rfl

theorem yields_prettyItems {items : List Json} (hItems : ∀ v ∈ items, Printed v) (level : Nat)
    {ts : List Token} (hEnd : StopsAt Numeral.goesOn rest) (hRest : Yields rest ts) :
    Yields (prettyItems level items ++ rest) (itemTokens items ++ ts) := by
  induction items with
  | nil => exact hRest
  | cons v items ih =>
      obtain ⟨hFirst, hOthers⟩ := List.forall_mem_cons.mp hItems
      cases items with
      | nil =>
          rw [prettyItems, itemTokens, List.append_assoc]
          exact (hFirst level hEnd hRest).newLine level
      | cons w items =>
          have hNext := (ih hOthers).mark (c := ',') rfl rfl
          show Yields (newLine level ++ pretty level v ++ ',' :: prettyItems level (w :: items) ++ rest)
            (tokens v ++ .comma :: itemTokens (w :: items) ++ ts)
          simp only [List.append_assoc, List.cons_append]
          exact (hFirst level (.cons rfl) hNext).newLine level

theorem yields_prettyMembers {members : List (Option String × Json)}
    (hNames : ∀ m ∈ members, m.1.isSome = true) (hMembers : ∀ m ∈ members, Printed m.2) (level : Nat)
    {ts : List Token} (hEnd : StopsAt Numeral.goesOn rest) (hRest : Yields rest ts) :
    Yields (prettyMembers level members ++ rest) (memberTokens members ++ ts) := by
  induction members with
  | nil => exact hRest
  | cons m members ih =>
      obtain ⟨hFirst, hOthers⟩ := List.forall_mem_cons.mp hMembers
      obtain ⟨hName, hOtherNames⟩ := List.forall_mem_cons.mp hNames
      obtain ⟨_ | name, v⟩ := m
      · cases hName
      · -- a name, a colon and a space stand before each value
        have hMember : ∀ {more us}, Yields (pretty level v ++ more) (tokens v ++ us) →
            Yields (newLine level ++ (quoteText (some name) ++ ':' :: ' ' :: (pretty level v ++ more)))
              (.text (some name) :: .colon :: (tokens v ++ us)) := fun hValue =>
          (((hValue.space rfl).mark rfl rfl).text name).newLine level
        cases members with
        | nil =>
            show Yields (newLine level ++ quoteText (some name) ++ ':' :: ' ' :: pretty level v ++ rest)
              (.text (some name) :: .colon :: tokens v ++ ts)
            simp only [List.append_assoc, List.cons_append]
            exact hMember (hFirst level hEnd hRest)
        | cons next members =>
            have hNext := (ih hOtherNames hOthers).mark (c := ',') rfl rfl
            show Yields (newLine level ++ quoteText (some name) ++ ':' :: ' ' :: pretty level v ++
                ',' :: prettyMembers level (next :: members) ++ rest)
              (.text (some name) :: .colon :: tokens v ++ .comma :: memberTokens (next :: members) ++ ts)
            simp only [List.append_assoc, List.cons_append]
            exact hMember (hFirst level (.cons rfl) hNext)

theorem printed_of_proper {v : Json} (hProper : Proper v) : Printed v := by
  induction hProper with
  | null =>
      intro level rest ts _ hRest
      have hToken : token? ('n' :: 'u' :: 'l' :: 'l' :: rest) = some (.null, rest) := rfl
      have hWord : Yields ('n' :: 'u' :: 'l' :: 'l' :: rest) (.null :: ts) :=
        Yields.token rfl hToken (by simp only [List.length_cons]; omega) hRest
      exact hWord
  | bool b =>
      intro level rest ts _ hRest
      cases b with
      | false =>
          have hToken : token? ('f' :: 'a' :: 'l' :: 's' :: 'e' :: rest) = some (.bool false, rest) := rfl
          have hWord : Yields ('f' :: 'a' :: 'l' :: 's' :: 'e' :: rest) (.bool false :: ts) :=
            Yields.token rfl hToken (by simp only [List.length_cons]; omega) hRest
          exact hWord
      | true =>
          have hToken : token? ('t' :: 'r' :: 'u' :: 'e' :: rest) = some (.bool true, rest) := rfl
          have hWord : Yields ('t' :: 'r' :: 'u' :: 'e' :: rest) (.bool true :: ts) :=
            Yields.token rfl hToken (by simp only [List.length_cons]; omega) hRest
          exact hWord
  | number hNumeral =>
      intro level rest ts hEnd hRest
      exact hRest.number hNumeral hEnd
  | text s =>
      intro level rest ts _ hRest
      exact hRest.text s
  | @array items hItems ih =>
      intro level rest ts _ hRest
      have hClosed := hRest.mark (c := ']') rfl rfl
      cases items with
      | nil => exact hClosed.mark rfl rfl
      | cons v items =>
          have hAll := yields_prettyItems ih (level + 1) (stopsAt_newLine level (']' :: rest))
            (hClosed.newLine level)
          have hOpened := hAll.mark (c := '[') rfl rfl
          show Yields ('[' :: prettyItems (level + 1) (v :: items) ++ newLine level ++ [']'] ++ rest)
            (.openArray :: itemTokens (v :: items) ++ [.closeArray] ++ ts)
          simpa only [List.append_assoc, List.cons_append, List.nil_append] using hOpened
  | @object members hNames hMembers ih =>
      intro level rest ts _ hRest
      have hClosed := hRest.mark (c := '\x7d') rfl rfl
      cases members with
      | nil => exact hClosed.mark rfl rfl
      | cons m members =>
          have hAll := yields_prettyMembers hNames ih (level + 1) (stopsAt_newLine level ('\x7d' :: rest))
            (hClosed.newLine level)
          have hOpened := hAll.mark (c := '\x7b') rfl rfl
          show Yields ('\x7b' :: prettyMembers (level + 1) (m :: members) ++ newLine level ++ ['\x7d'] ++ rest)
            (.openObject :: memberTokens (m :: members) ++ [.closeObject] ++ ts)
          simpa only [List.append_assoc, List.cons_append, List.nil_append] using hOpened

end BulkLoad.Json
