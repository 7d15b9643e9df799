import BulkLoad.Text.Composition.Table

/-!
Composed text: letters and their marks put together to one character where there is one for them,
so that texts that look alike are alike.
-/
namespace BulkLoad.Text.Composition

/-- Every character that is taken apart by a table. -/
def decompositions : List Replacement := composites ++ variants

/-- The parts of a Hangul syllable or of a composed character. -/
def parts (c : Char) : List Char :=
  let n := c.toNat
  if 0xAC00 ≤ n ∧ n < 0xD7A4 then
    let place := n - 0xAC00
    let lead := Char.ofNat (0x1100 + place / 588)
    let vowel := Char.ofNat (0x1161 + place % 588 / 28)
    if place % 28 = 0 then [lead, vowel] else [lead, vowel, Char.ofNat (0x11A7 + place % 28)]
  else (Replacement.find? decompositions c).getD [c]

/-- Zero for a letter, and for a mark the place in the order of marks. -/
def markClass (c : Char) : Nat :=
  match classes.find? fun entry => entry.2.contains c with
  | some entry => entry.1
  | none => 0

/-- A character put in front of marks in order: it passes the marks of lower classes. -/
def insert (c : Char) : List Char → List Char
  | [] => [c]
  | d :: rest =>
    if 0 < markClass d && markClass d < markClass c then d :: insert c rest else c :: d :: rest

/-- Marks in the order of their classes; those of one class keep theirs. -/
def order (cs : List Char) : List Char := cs.foldr insert []

/-- The syllable of a leading consonant and a vowel, or of these two and a final consonant. -/
def syllable? (a b : Nat) : Option Nat :=
  if 0x1100 ≤ a ∧ a < 0x1113 ∧ 0x1161 ≤ b ∧ b < 0x1176 then
    some (0xAC00 + (a - 0x1100) * 588 + (b - 0x1161) * 28)
  else if 0xAC00 ≤ a ∧ a < 0xD7A4 ∧ (a - 0xAC00) % 28 = 0 ∧ 0x11A7 < b ∧ b < 0x11C3 then
    some (a + (b - 0x11A7))
  else none

/-- The one character for two. -/
def pair? (a b : Char) : Option Char :=
  let whole := (parts a).map Char.toNat ++ [b.toNat]
  let composite? := (composites.find? fun entry => entry.parts = whole).map Replacement.first
  (syllable? a.toNat b.toNat <|> composite?).map Char.ofNat

/-- A text on its way to the composed form: the text before the last letter, that letter, and the
marks behind it that did not join it, the last mark first. -/
structure Stage where
  done : List Char := []
  letter : Option Char := none
  marks : List Char := []

namespace Stage

/-- Everything so far, the last character first. -/
def all (s : Stage) : List Char :=
  match s.letter with
  | some c => s.marks ++ c :: s.done
  | none => s.marks ++ s.done

/-- One more character. Only a mark of a higher class than all before it can reach the letter. -/
def push (s : Stage) (c : Char) : Stage :=
  let blocked := s.marks.head?.any fun d => markClass c ≤ markClass d
  match if blocked then none else s.letter.bind fun a => pair? a c with
  | some joint => { s with letter := some joint }
  | none =>
    if markClass c = 0 then { done := s.all, letter := some c }
    else { s with marks := c :: s.marks }

end Stage

def compose (cs : List Char) : List Char :=
  ((order (cs.flatMap parts)).foldl Stage.push {}).all.reverse

end BulkLoad.Text.Composition
