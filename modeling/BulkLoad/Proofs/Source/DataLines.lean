import BulkLoad.Proofs.Batch.Lines
import BulkLoad.Proofs.Dispatch.Routing
import BulkLoad.Source.Lines
import Mathlib.Data.List.DropRight

/-!
The points of a text.

However a text is cut into chunks, its source gives the same points: those of its lines that are
neither blank nor begin with `#`. A text that is made of such points gives them back.
-/
namespace BulkLoad

namespace Point

theorem not_mem_of_mem_splitOn {separator : UInt8} {s part : Bytes}
    (hPart : part ∈ splitOn separator s) : separator ∉ part := by
  induction s generalizing part with
  | nil =>
      obtain rfl : part = [] := by simpa [splitOn] using hPart
      exact List.not_mem_nil
  | cons b s ih =>
      by_cases hSame : b = separator
      · subst hSame
        rw [splitOn_cons_self, List.mem_cons] at hPart
        rcases hPart with rfl | hLater
        · exact List.not_mem_nil
        · exact ih hLater
      · obtain ⟨first, more, hTail⟩ := List.exists_cons_of_ne_nil (splitOn_ne_nil separator s)
        rw [splitOn_cons_of_ne hSame hTail, List.mem_cons] at hPart
        rcases hPart with rfl | hLater
        · rw [List.mem_cons, not_or]
          exact ⟨Ne.symm hSame, ih (hTail ▸ List.mem_cons_self)⟩
        · exact ih (hTail ▸ List.mem_cons_of_mem _ hLater)

/-- A text is its parts with a separator after each but the last. -/
theorem exists_splitOn_eq (separator : UInt8) (s : Bytes) :
    ∃ (ended : List Bytes) (tail : Bytes),
      splitOn separator s = ended ++ [tail] ∧ s = ended.flatMap (· ++ [separator]) ++ tail := by
  induction s with
  | nil => exact ⟨[], [], rfl, rfl⟩
  | cons b s ih =>
      obtain ⟨ended, tail, hParts, hText⟩ := ih
      by_cases hSame : b = separator
      · subst hSame
        refine ⟨[] :: ended, tail, ?_, ?_⟩
        · rw [splitOn_cons_self, hParts, List.cons_append]
        · rw [List.flatMap_cons, List.nil_append, List.append_assoc, ← hText]
          rfl
      · cases ended with
        | nil =>
            refine ⟨[], b :: tail, splitOn_cons_of_ne hSame hParts, ?_⟩
            rw [hText]
            rfl
        | cons part ended =>
            refine ⟨(b :: part) :: ended, tail, splitOn_cons_of_ne hSame hParts, ?_⟩
            rw [hText]
            rfl

/-- The parts of a text hold no more than the text. -/
theorem sumOf_length_splitOn_le (separator : UInt8) (s : Bytes) :
    sumOf List.length (splitOn separator s) ≤ s.length := by
  induction s with
  | nil => simp [splitOn]
  | cons b s ih =>
      by_cases hSame : b = separator
      · subst hSame
        rw [splitOn_cons_self, sumOf_cons, List.length_nil, List.length_cons]
        omega
      · obtain ⟨first, more, hTail⟩ := List.exists_cons_of_ne_nil (splitOn_ne_nil separator s)
        rw [hTail, sumOf_cons] at ih
        rw [splitOn_cons_of_ne hSame hTail, sumOf_cons, List.length_cons, List.length_cons]
        omega

/-- A part that ends in its separator stands in front of what follows. -/
theorem splitOn_append_cons {separator : UInt8} {part : Bytes} (hFree : separator ∉ part)
    (s : Bytes) : splitOn separator (part ++ separator :: s) = part :: splitOn separator s := by
  induction part with
  | nil => exact splitOn_cons_self separator s
  | cons b part ih =>
      rw [List.mem_cons, not_or] at hFree
      exact splitOn_cons_of_ne (Ne.symm hFree.1) (ih hFree.2)

end Point

namespace Source

open Point (splitOn)

namespace Line

/-- The point of a line, if it holds one. -/
def point? (content : Bytes) : Option Point :=
  match kind content with
  | .data p => some p
  | _ => none

theorem point?_nil : point? [] = none := rfl

theorem strip_prefix (content : Bytes) : (strip content).IsPrefix content := by
  rw [strip, Text.dropEndWhile]
  have hSuffix := List.dropWhile_suffix (l := content.reverse) fun b => decide (b = carriageReturn)
  simpa using List.reverse_prefix.mpr hSuffix

theorem strip_strip (content : Bytes) : strip (strip content) = strip content := by
  simp [strip, Text.dropEndWhile, List.dropWhile_idempotent]

/-- A point is what is left of its line without the carriage returns. -/
theorem point?_eq_some_iff {content : Bytes} {p : Point} :
    point? content = some p ↔ strip content = p ∧ p ≠ [] ∧ p.head? ≠ some hash := by
  unfold point? kind
  cases hStrip : strip content with
  | nil =>
      constructor
      · intro hNone
        cases hNone
      · rintro ⟨rfl, hSome, -⟩
        exact absurd rfl hSome
  | cons b rest =>
      by_cases hHash : b = hash
      · simp only [if_pos hHash]
        constructor
        · intro hNone
          cases hNone
        · rintro ⟨rfl, -, hOther⟩
          exact absurd (congrArg some hHash) hOther
      · simp only [if_neg hHash]
        constructor
        · intro hSome
          cases hSome
          exact ⟨rfl, by simp, by simpa using hHash⟩
        · rintro ⟨rfl, -⟩
          rfl

/-- A point that stands alone in a line is the point of that line. -/
theorem point?_of_point? {content : Bytes} {p : Point} (hPoint : point? content = some p) :
    point? p = some p := by
  rw [point?_eq_some_iff] at hPoint ⊢
  obtain ⟨rfl, hRest⟩ := hPoint
  exact ⟨strip_strip content, hRest⟩

end Line

/-- The points of a text, in order. -/
def dataLines (text : Bytes) : List Point := (splitOn Line.newline text).filterMap Line.point?

theorem mem_dataLines {text : Bytes} {p : Point} (hPoint : p ∈ dataLines text) :
    Line.newline ∉ p ∧ Line.point? p = some p := by
  obtain ⟨part, hPart, hSome⟩ := List.mem_filterMap.mp hPoint
  refine ⟨fun hNewline => ?_, Line.point?_of_point? hSome⟩
  obtain ⟨rfl, -⟩ := Line.point?_eq_some_iff.mp hSome
  exact Point.not_mem_of_mem_splitOn hPart ((Line.strip_prefix part).subset hNewline)

/-- Points that are written line by line are read back. -/
theorem dataLines_flatMap {points : List Point}
    (hPoints : ∀ p ∈ points, Line.newline ∉ p ∧ Line.point? p = some p) :
    dataLines (points.flatMap (· ++ [Line.newline])) = points := by
  induction points with
  | nil => rfl
  | cons p points ih =>
      obtain ⟨hFree, hSelf⟩ := hPoints p List.mem_cons_self
      have hRest := ih fun q hq => hPoints q (List.mem_cons_of_mem p hq)
      rw [dataLines] at hRest
      rw [dataLines, List.flatMap_cons, List.append_assoc, List.singleton_append,
        Point.splitOn_append_cons hFree, List.filterMap_cons, hSelf, hRest]

theorem sumOf_length_filterMap_le (parts : List Bytes) :
    sumOf List.length (parts.filterMap Line.point?) ≤ sumOf List.length parts := by
  induction parts with
  | nil => exact Nat.le_refl _
  | cons part parts ih =>
      rw [List.filterMap_cons, sumOf_cons]
      cases hPoint : Line.point? part with
      | none => exact Nat.le_trans ih (Nat.le_add_left _ _)
      | some p =>
          obtain ⟨rfl, -⟩ := Line.point?_eq_some_iff.mp hPoint
          have hShorter := (Line.strip_prefix part).length_le
          rw [sumOf_cons]
          omega

/-- The points of a text are no longer than the text. -/
theorem sumOf_length_dataLines_le (text : Bytes) :
    sumOf List.length (dataLines text) ≤ text.length :=
  Nat.le_trans (sumOf_length_filterMap_le _) (Point.sumOf_length_splitOn_le _ _)

namespace Line

/-- The parts of a text that was begun before. -/
def resumed (begun : Bytes) : List Bytes → List Bytes
  | [] => [begun]
  | part :: more => (begun ++ part) :: more

/-- The parts of a text as its lines: a last part that is empty is none. -/
def ofParts (parts : List Bytes) : List Bytes :=
  if parts.getLast? = some [] then parts.dropLast else parts

theorem ofParts_cons (part : Bytes) {parts : List Bytes} (hMore : parts ≠ []) :
    ofParts (part :: parts) = part :: ofParts parts := by
  obtain ⟨first, more, rfl⟩ := List.exists_cons_of_ne_nil hMore
  unfold ofParts
  rw [List.getLast?_cons_cons, List.dropLast_cons_of_ne_nil hMore]
  split <;> rfl

/-- Cutting goes on from the lines that are complete and the one that was begun. -/
theorem finish_feed (text : Bytes) (contents : List Bytes) (begun : Bytes) :
    (text.foldl Cut.feed ⟨contents.map .text, begun⟩).finish =
      (contents.reverse ++ ofParts (resumed begun.reverse (splitOn newline text))).map .text := by
  induction text generalizing contents begun with
  | nil =>
      cases begun with
      | nil => simp [Cut.finish, splitOn, resumed, ofParts]
      | cons b begun => simp [Cut.finish, splitOn, resumed, ofParts]
  | cons b text ih =>
      obtain ⟨part, more, hTail⟩ :=
        List.exists_cons_of_ne_nil (Point.splitOn_ne_nil newline text)
      by_cases hSame : b = newline
      · subst hSame
        have hFed := ih (begun.reverse :: contents) []
        rw [hTail] at hFed
        rw [List.foldl_cons, Point.splitOn_cons_self, hTail, resumed, ofParts_cons _ (by simp)]
        simpa [Cut.feed, resumed] using hFed
      · have hFed := ih contents (b :: begun)
        rw [hTail] at hFed
        rw [List.foldl_cons, Point.splitOn_cons_of_ne hSame hTail]
        simpa [Cut.feed, hSame, resumed] using hFed

end Line

/-- The lines of a text: what each newline ends, and a tail that none ends. -/
def linesOf (text : Bytes) : List Bytes := Line.ofParts (splitOn Line.newline text)

/-- A text is its lines, each ended by a newline, and a tail without newline, which is a line if it is
not empty. -/
theorem exists_linesOf_eq (text : Bytes) :
    ∃ (ended : List Bytes) (tail : Bytes),
      text = ended.flatMap (· ++ [Line.newline]) ++ tail ∧
      (∀ line ∈ ended, Line.newline ∉ line) ∧ Line.newline ∉ tail ∧
      linesOf text = ended ++ if tail = [] then [] else [tail] := by
  obtain ⟨ended, tail, hParts, hText⟩ := Point.exists_splitOn_eq Line.newline text
  have hFree (part : Bytes) (hPart : part ∈ ended ++ [tail]) : Line.newline ∉ part :=
    Point.not_mem_of_mem_splitOn (hParts ▸ hPart)
  refine ⟨ended, tail, hText, fun line hLine => hFree line (List.mem_append_left _ hLine),
    hFree tail (by simp), ?_⟩
  rw [linesOf, hParts, Line.ofParts, List.getLast?_concat, List.dropLast_concat]
  by_cases hNone : tail = [] <;> simp [hNone]

/-- Cutting takes apart what is written line by line, and the tail behind it. -/
theorem splitOn_flatMap {ended : List Bytes} {tail : Bytes}
    (hEnded : ∀ line ∈ ended, Line.newline ∉ line) (hTail : Line.newline ∉ tail) :
    Point.splitOn Line.newline (ended.flatMap (· ++ [Line.newline]) ++ tail) = ended ++ [tail] := by
  induction ended with
  | nil =>
      induction tail with
      | nil => rfl
      | cons b tail ih =>
          rw [List.mem_cons, not_or] at hTail
          exact Point.splitOn_cons_of_ne (Ne.symm hTail.1) (ih hTail.2)
  | cons line ended ih =>
      rw [List.forall_mem_cons] at hEnded
      rw [List.flatMap_cons, List.append_assoc, List.append_assoc, List.singleton_append,
        Point.splitOn_append_cons hEnded.1, ih hEnded.2, List.cons_append]

/-- Lines that a newline ends are the lines of what is written so. -/
theorem linesOf_flatMap {ended : List Bytes} (hEnded : ∀ line ∈ ended, Line.newline ∉ line) :
    linesOf (ended.flatMap (· ++ [Line.newline])) = ended := by
  have hParts := splitOn_flatMap hEnded (List.not_mem_nil (a := Line.newline))
  rw [List.append_nil] at hParts
  rw [linesOf, hParts, Line.ofParts, List.getLast?_concat, if_pos rfl, List.dropLast_concat]

/-- Where a text is cut into chunks makes no difference. -/
theorem Line.foldl_read_bytes (chunks : List Bytes) (s : Cut) :
    (chunks.map Chunk.bytes).foldl Cut.read s = chunks.flatten.foldl Cut.feed s := by
  rw [List.foldl_map, List.foldl_flatten]
  rfl

/-- A text that arrives in chunks has the lines of the text. -/
theorem Line.ofChunks_eq (chunks : List Bytes) :
    ofChunks (chunks.map .bytes) = (linesOf chunks.flatten).map .text := by
  obtain ⟨part, more, hTail⟩ :=
    List.exists_cons_of_ne_nil (Point.splitOn_ne_nil newline chunks.flatten)
  have hFinish := finish_feed chunks.flatten [] []
  rw [hTail] at hFinish
  rw [ofChunks, foldl_read_bytes, linesOf, hTail]
  exact hFinish

/-- What is left out of the parts of a text holds no point. -/
theorem filterMap_linesOf (text : Bytes) :
    (linesOf text).filterMap Line.point? = dataLines text := by
  unfold linesOf Line.ofParts dataLines
  split
  · rename_i hLast
    obtain ⟨before, hParts⟩ := List.getLast?_eq_some_iff.mp hLast
    rw [hParts, List.dropLast_concat, List.filterMap_append]
    simp [Line.point?_nil]
  · rfl

namespace Lines

theorem items_text (contents : List Bytes) (count : Nat) :
    items none count (contents.map .text) = (contents.filterMap Line.point?).map .point := by
  induction contents generalizing count with
  | nil => rfl
  | cons content contents ih =>
      rw [List.map_cons, items, List.filterMap_cons, Line.point?]
      cases Line.kind content with
      | data p => exact congrArg _ (ih (count + 1))
      | blank => exact ih (count + 1)
      | comment text => exact ih (count + 1)

/-- The head of a text ends with its first point, if it has one. -/
theorem exists_readHead_text (contents : List Bytes) (count : Nat) (headers : List String) :
    ∃ (first : Option Point) (rest : List Bytes),
      (readHead none count headers (contents.map .text)).first = .ok first ∧
      (readHead none count headers (contents.map .text)).rest = rest.map .text ∧
      first.toList ++ rest.filterMap Line.point? = contents.filterMap Line.point? ∧
      (readHead none count headers (contents.map .text)).count + rest.length =
        count + contents.length := by
  induction contents generalizing count headers with
  | nil => exact ⟨none, [], rfl, rfl, rfl, rfl⟩
  | cons content contents ih =>
      have hOne : count + 1 + contents.length = count + (content :: contents).length := by
        rw [List.length_cons]
        omega
      rw [List.map_cons, readHead, List.filterMap_cons, Line.point?, ← hOne]
      cases Line.kind content with
      | data p => exact ⟨some p, contents, rfl, rfl, rfl, rfl⟩
      | blank => exact ih (count + 1) headers
      | comment text => exact ih (count + 1) (Line.headerText text :: headers)

/-- A source of lines gives the points of its text, one after another, and never fails. -/
theorem toStream_ofChunks (chunks : List Bytes) :
    let stream := (ofChunks (chunks.map .bytes)).toStream
    (∃ headers, stream.headers = .ok headers) ∧
      stream.items = (dataLines chunks.flatten).map .point := by
  obtain ⟨first, rest, hFirst, hRest, hAll, -⟩ := exists_readHead_text (linesOf chunks.flatten) 0 []
  have hItems (count : Nat) : (first.map Item.point).toList ++ items none count (rest.map .text) =
      (dataLines chunks.flatten).map .point := by
    rw [items_text, ← filterMap_linesOf, ← hAll, List.map_append]
    cases first <;> rfl
  simp only [toStream, takeHeaders, openHead, ofChunks, Line.ofChunks_eq, hFirst, hRest,
    Bool.false_eq_true, if_false]
  by_cases hNone : (readHead none 0 [] ((linesOf chunks.flatten).map .text)).headers.isEmpty
  · simp only [hNone, if_true]
    exact ⟨⟨_, rfl⟩, hItems _⟩
  · simp only [hNone, Bool.false_eq_true, if_false]
    exact ⟨⟨_, rfl⟩, hItems _⟩

end Lines

theorem leading_map_point {points : List Point} (hPoints : ∀ p ∈ points, p ≠ []) :
    leading (points.map .point) = points := by
  induction points with
  | nil => rfl
  | cons p points ih =>
      have hSome := List.isEmpty_eq_false_iff.mpr (hPoints p List.mem_cons_self)
      have hRest := ih fun q hq => hPoints q (List.mem_cons_of_mem p hq)
      simp only [List.map_cons, leading, hSome, hRest, Bool.false_eq_true, if_false]

/-- The points of a text are what dispatch finds in its source. -/
theorem points_toStream (chunks : List Bytes) :
    (Lines.ofChunks (chunks.map .bytes)).toStream.points = dataLines chunks.flatten := by
  rw [Stream.points, (Lines.toStream_ofChunks chunks).2]
  exact leading_map_point fun p hPoint => (Line.point?_eq_some_iff.mp (mem_dataLines hPoint).2).2.1

end Source
end BulkLoad
