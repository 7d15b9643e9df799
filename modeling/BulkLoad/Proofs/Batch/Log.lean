import BulkLoad.Proofs.Source.Legible

/-!
A batch as a log of lines.

Whatever was done to a batch, it holds the lines that it accepted since it was last cleared, each ended
by a newline. Points that came from a source of lines can be read back from what is sent.
-/
namespace BulkLoad

open Source (Given Legible Lines Request Answer)

/-- What can be done to a batch. -/
inductive Edit where
  | append (line : Point)
  | reset
  deriving DecidableEq, Repr

/-- The lines that a batch keeps: those with two spaces that came after it was last cleared. -/
def Edit.kept (edits : List Edit) : List Point :=
  (edits.rtakeWhile (· ≠ .reset)).filterMap fun
    | .append line => if line.count Point.space = 2 then some line else none
    | .reset => none

namespace LineBatch

/-- The batch after an edit. A line that is refused leaves it as it was. -/
def edit (b : LineBatch) : Edit → LineBatch
  | .append line =>
    match b.append line with
    | .ok c => c
    | .error _ => b
  | .reset => b.reset

/-- What is said of a line that is refused does not depend on the batch. -/
theorem append_of_not_accepted (b : LineBatch) {line : Point} (hOther : ¬line.Accepted) :
    b.append line = .error (Point.malformed line) := by
  have hRows : line.rows = .error (Point.malformed line) := by
    unfold Point.Accepted Point.rows at hOther
    unfold Point.rows
    split
    · rename_i series fields time hSections
      rw [hSections] at hOther
      exact absurd ⟨_, rfl⟩ hOther
    · rfl
  simp only [append, hRows]

/-- Whether a line is appended does not depend on the batch either. -/
theorem exists_append_iff (b : LineBatch) (line : Point) :
    (∃ c, b.append line = .ok c) ↔ line.Accepted := by
  constructor
  · rintro ⟨c, hAppend⟩
    by_contra hOther
    rw [b.append_of_not_accepted hOther] at hAppend
    cases hAppend
  · intro hAccepted
    simp only [append, hAccepted.rows_eq]
    exact ⟨_, rfl⟩

theorem edit_of_refused {b : LineBatch} {line : Point} {f : Fault}
    (hRefused : b.append line = .error f) :
    f = Point.malformed line ∧ b.edit (.append line) = b := by
  have hOther : ¬line.Accepted := by
    rw [← b.exists_append_iff]
    rintro ⟨c, hAppend⟩
    rw [hAppend] at hRefused
    cases hRefused
  refine ⟨?_, by simp only [edit, hRefused]⟩
  rw [b.append_of_not_accepted hOther] at hRefused
  cases hRefused
  rfl

/-- One edit more, for a batch that holds the lines kept so far. -/
theorem edit_ofLines (edits : List Edit) (e : Edit) :
    (ofLines (Edit.kept edits)).edit e = ofLines (Edit.kept (edits ++ [e])) := by
  cases e with
  | reset =>
      rw [Edit.kept.eq_def (edits ++ _), List.rtakeWhile_concat_neg _ _ _ (by simp)]
      rfl
  | append line =>
      rw [Edit.kept.eq_def (edits ++ _), List.rtakeWhile_concat_pos _ _ _ (by simp),
        List.filterMap_append, ← Edit.kept]
      by_cases hAccepted : line.Accepted
      · simp [edit, append_ofLines hAccepted, (Point.accepted_iff line).mp hAccepted]
      · have hSpaces := mt (Point.accepted_iff line).mpr hAccepted
        simp [edit, append_of_not_accepted _ hAccepted, hSpaces]

/-- After any edits a batch is the one that was given the lines kept. -/
theorem foldl_edit (edits : List Edit) : edits.foldl edit empty = ofLines (Edit.kept edits) := by
  induction edits using List.reverseRecOn with
  | nil => rfl
  | append_singleton edits e ih => rw [List.foldl_append, ih, List.foldl_cons, edit_ofLines]; rfl

theorem accepted_of_mem_kept {edits : List Edit} {line : Point} (hLine : line ∈ Edit.kept edits) :
    line.Accepted := by
  obtain ⟨e, -, hKept⟩ := List.mem_filterMap.mp hLine
  cases e with
  | reset => cases hKept
  | append other =>
      dsimp only at hKept
      split at hKept
      · rename_i hSpaces
        cases hKept
        exact (Point.accepted_iff _).mpr hSpaces
      · cases hKept

/-- The rows of a line that is kept are its fields, one more than the commas that part them. -/
theorem rows_kept (edits : List Edit) :
    (ofLines (Edit.kept edits)).rows =
      sumOf (fun line => 1 + line.fields.count Point.comma) (Edit.kept edits) := by
  rw [rows_ofLines]
  exact sumOf_congr fun line hLine => Point.rowCount_eq (accepted_of_mem_kept hLine)

/-- A newline ends each line and there is no other, if the lines hold none. -/
theorem count_newline_payload {lines : List Point} (hFree : ∀ line ∈ lines, newline ∉ line) :
    (ofLines lines).payload.count newline = lines.length := by
  rw [payload, lines_ofLines]
  induction lines with
  | nil => rfl
  | cons line lines ih =>
      rw [List.forall_mem_cons] at hFree
      rw [List.flatMap_cons, List.count_append, List.count_append, ih hFree.2,
        List.count_eq_zero_of_not_mem hFree.1, List.length_cons]
      simp [Nat.add_comm]

/-- What a source finds in the payload of legible points are these points. -/
theorem read_payload {points : List Point} (hPoints : ∀ p ∈ points, Legible p) :
    Source.pointsOf (ofLines points).payload = points ∧
      Source.headersOf (ofLines points).payload = none := by
  rw [payload, lines_ofLines]
  exact Source.lines_of_legible hPoints

/-- What a source finds in the payload of a batch are the points kept, if sources gave them. -/
theorem read_edits {edits : List Edit} (hGiven : ∀ p ∈ Edit.kept edits, Given p) :
    Source.pointsOf (edits.foldl edit empty).payload = Edit.kept edits ∧
      Source.headersOf (edits.foldl edit empty).payload = none := by
  rw [foldl_edit]
  exact read_payload fun p hPoint => (Source.given_iff p).mp (hGiven p hPoint)

/-- A batch is a log: after any edits its payload is the lines that it accepted since it was last
cleared, each ended by a newline, and it counts these lines and their fields. It accepts a line just if
that has two spaces, and one that it refuses changes nothing. If the lines kept are points that came
from sources, then there are as many newlines as points, a source that reads the payload gives these
points and no headers, and no other such points have this payload. -/
theorem log_of_edits (edits : List Edit) :
    let b := edits.foldl edit empty
    let kept := Edit.kept edits
    b.payload = kept.flatMap (· ++ [newline]) ∧ b.points = kept.length ∧
    b.rows = sumOf (fun line => 1 + line.fields.count Point.comma) kept ∧
    (∀ line, (∃ c, b.append line = .ok c) ↔ line.count Point.space = 2) ∧
    (∀ line f, b.append line = .error f →
      f = Point.malformed line ∧ b.edit (.append line) = b) ∧
    ((∀ p ∈ kept, Given p) →
      b.payload.count newline = b.points ∧
      (∀ (pieces : List Bytes) (requests : List Request), pieces.flatten = b.payload →
        let answers := ((Lines.ofChunks (pieces.map .bytes)).serveAll requests).1
        answers.filterMap Answer.headers? = List.replicate (requests.count .headers) (.ok none) ∧
        answers.filterMap Answer.point? =
          (List.range (requests.count .point)).map fun i => .ok kept[i]?) ∧
      ∀ others : List Edit, (∀ p ∈ Edit.kept others, Given p) →
        (others.foldl edit empty).payload = b.payload → Edit.kept others = kept) := by
  intro b kept
  have hBatch : b = ofLines kept := foldl_edit edits
  have hPayload : b.payload = kept.flatMap (· ++ [newline]) := by
    rw [hBatch, payload, lines_ofLines]
  refine ⟨hPayload, by rw [hBatch, points_ofLines], by rw [hBatch]; exact rows_kept edits,
    fun line => ?_, fun line f => edit_of_refused, fun hGiven => ⟨?_, fun pieces requests hPieces => ?_,
    fun others hOthers hSame => ?_⟩⟩
  · rw [exists_append_iff, Point.accepted_iff]
  · rw [hBatch, points_ofLines]
    exact count_newline_payload fun p hp => ((Source.given_iff p).mp (hGiven p hp)).1
  · obtain ⟨hPoints, hHeaders⟩ := read_edits hGiven
    have hReady := Source.Lines.ready_ofChunks pieces
    rw [hPieces] at hReady
    obtain ⟨hAllHeaders, hAllPoints, -⟩ := hReady.serveAll requests
    rw [hHeaders] at hAllHeaders
    rw [hPoints, ← List.range_eq_range'] at hAllPoints
    exact ⟨hAllHeaders, hAllPoints⟩
  · calc Edit.kept others
        = Source.pointsOf (others.foldl edit empty).payload := (read_edits hOthers).1.symm
      _ = Source.pointsOf b.payload := by rw [hSame]
      _ = kept := (read_edits hGiven).1

/-- A line before the batch is cleared, and one that is refused between two that are kept. -/
def someEdits : List Edit :=
  [.append (Utf8.encode "x x=0 0"), .reset, .append (Utf8.encode "a x=1 1"),
    .append (Utf8.encode "a  x=1 1"), .append (Utf8.encode "b x=2,y=3 2")]

/-- The batch holds two points with three rows, and a source gives them back. -/
theorem log_of_someEdits :
    let b := someEdits.foldl edit empty
    b.points = 2 ∧ b.rows = 3 ∧ b.payload.count newline = 2 ∧
      ((Lines.ofChunks [.bytes b.payload]).serveAll [.point, .point]).1.filterMap Answer.point? =
        [.ok (some (Utf8.encode "a x=1 1")), .ok (some (Utf8.encode "b x=2,y=3 2"))] := by
  intro b
  obtain ⟨-, hPoints, hRows, -, -, hGiven⟩ := log_of_edits someEdits
  have hKept : Edit.kept someEdits = [Utf8.encode "a x=1 1", Utf8.encode "b x=2,y=3 2"] := by
    decide +kernel
  rw [hKept] at hPoints hRows hGiven
  obtain ⟨hNewlines, hRead, -⟩ := hGiven fun p hp => by
    rw [Source.given_iff]
    revert p
    decide +kernel
  refine ⟨hPoints, hRows.trans (by decide +kernel), hNewlines.trans hPoints, ?_⟩
  exact (hRead [b.payload] [.point, .point] (by simp [b])).2

end LineBatch
end BulkLoad
