import BulkLoad.Proofs.Source.DataLines

/-!
What a source of lines answers when headers and points are asked for in any order.

The head of a text is read once, by the first request of either kind. The point that ends it is kept
until a point is asked for, so the answers to one kind of request do not depend on the requests of the
other kind between them.
-/
namespace BulkLoad.Source

namespace Line

/-- A line that is neither blank nor begins with `#`. -/
def isData (line : Bytes) : Bool := !line.isEmpty && line.head? != some hash

def isComment (line : Bytes) : Bool := line.head? == some hash

/-- What is left of a line without the carriage returns at its end. -/
def stripped (line : Bytes) : Bytes := line.rdropWhile (· = carriageReturn)

/-- The comments before the first data line of some lines, without the `#`. -/
def headersIn (lines : List Bytes) : List String :=
  ((lines.takeWhile fun line => !isData line).filter isComment).map fun line => headerText line.tail

theorem kind_cases (content : Bytes) :
    (kind content = .blank ∧ stripped content = []) ∨
    (∃ text, kind content = .comment text ∧ stripped content = hash :: text) ∨
    (kind content = .data (stripped content) ∧ isData (stripped content) = true) := by
  have hSame : strip content = stripped content := rfl
  unfold kind
  rw [hSame]
  cases hStripped : stripped content with
  | nil => exact .inl ⟨rfl, rfl⟩
  | cons b rest =>
      by_cases hHash : b = hash
      · subst hHash
        exact .inr (.inl ⟨rest, if_pos rfl, rfl⟩)
      · exact .inr (.inr ⟨if_neg hHash, by simp [isData, hHash]⟩)

/-- The points are the data lines. -/
theorem filterMap_point? (contents : List Bytes) :
    contents.filterMap point? = (contents.map stripped).filter isData := by
  induction contents with
  | nil => rfl
  | cons content contents ih =>
      rw [List.filterMap_cons, List.map_cons, ih, point?]
      rcases kind_cases content with ⟨hKind, hLine⟩ | ⟨text, hKind, hLine⟩ | ⟨hKind, hData⟩
      · simp [hKind, hLine, isData]
      · simp [hKind, hLine, isData]
      · simp [hKind, hData]

end Line

/-- The lines of a text without the carriage returns at their ends. -/
def strippedLines (text : Bytes) : List Bytes := (linesOf text).map Line.stripped

/-- The data lines of a text. -/
def pointsOf (text : Bytes) : List Point := (strippedLines text).filter Line.isData

/-- The headers of a text, if it has any. -/
def headersOf (text : Bytes) : Option (List String) :=
  if Line.headersIn (strippedLines text) = [] then none
  else some (Line.headersIn (strippedLines text))

theorem dataLines_eq (text : Bytes) : dataLines text = pointsOf text := by
  rw [← filterMap_linesOf, Line.filterMap_point?]
  rfl

/-- What may be asked of a source, in any order. -/
inductive Request where
  | headers
  | point
  deriving DecidableEq

inductive Answer where
  | headers (result : Except Fault (Option (List String)))
  | point (result : Except Fault (Option Point))

namespace Answer

def headers? : Answer → Option (Except Fault (Option (List String)))
  | .headers result => some result
  | .point _ => none

def point? : Answer → Option (Except Fault (Option Point))
  | .headers _ => none
  | .point result => some result

end Answer

namespace Lines

/-- The answer to one request, and the source after it. -/
def serve (s : Lines) : Request → Answer × Lines
  | .headers => (.headers s.takeHeaders.1, s.takeHeaders.2.1)
  | .point => (.point s.next.1, s.next.2.1)

def serveAll (s : Lines) : List Request → List Answer × Lines
  | [] => ([], s)
  | request :: requests =>
    let (answer, s) := s.serve request
    let (answers, s) := s.serveAll requests
    (answer :: answers, s)

theorem headers_readHead_text (contents : List Bytes) (count : Nat) (headers : List String) :
    (readHead none count headers (contents.map .text)).headers =
      (Line.headersIn (contents.map Line.stripped)).reverse ++ headers := by
  induction contents generalizing count headers with
  | nil => rfl
  | cons content contents ih =>
      rw [List.map_cons, readHead, List.map_cons, Line.headersIn]
      rcases Line.kind_cases content with ⟨hKind, hLine⟩ | ⟨text, hKind, hLine⟩ | ⟨hKind, hData⟩
      · simp [hKind, hLine, ih, Line.headersIn, Line.isData, Line.isComment]
      · simp [hKind, hLine, ih, Line.headersIn, Line.isData, Line.isComment]
      · simp [hKind, hData]

/-- An opened source of a text, of whose points so many were given. -/
structure Opened (text : Bytes) (given : Nat) (s : Lines) : Prop where
  sound : s.broken = none
  opened : s.opened = true
  headers : s.headers = headersOf text
  rest : ∃ contents : List Bytes, s.rest = contents.map .text ∧
    s.pending.toList ++ contents.filterMap Line.point? = (pointsOf text).drop given ∧
    s.count + contents.length = (linesOf text).length ∧
    ((pointsOf text).length < given → contents = [])

/-- A source of a text before its next request. Only one that has given nothing may not be opened. -/
structure Ready (text : Bytes) (given : Nat) (s : Lines) : Prop where
  opens : ∃ next told, s.openHead = (.ok (), next, told) ∧ Opened text given next
  opened : given = 0 ∨ s.opened = true

theorem Opened.openHead {text : Bytes} {given : Nat} {s : Lines} (hOpened : Opened text given s) :
    s.openHead = (.ok (), s, []) := by
  rw [Lines.openHead, hOpened.opened, if_pos rfl]

theorem Opened.ready {text : Bytes} {given : Nat} {s : Lines} (hOpened : Opened text given s) :
    Ready text given s :=
  ⟨⟨s, [], hOpened.openHead, hOpened⟩, .inr hOpened.opened⟩

/-- The head of a text is read without failure, and gives its headers. -/
theorem ready_ofChunks (chunks : List Bytes) :
    Ready chunks.flatten 0 (ofChunks (chunks.map .bytes)) := by
  refine ⟨?_, .inl rfl⟩
  obtain ⟨first, rest, hFirst, hRest, hAll, hCount⟩ :=
    exists_readHead_text (linesOf chunks.flatten) 0 []
  have hHeaders := headers_readHead_text (linesOf chunks.flatten) 0 []
  rw [List.append_nil] at hHeaders
  rw [filterMap_linesOf, dataLines_eq] at hAll
  have hGiven (hOver : (pointsOf chunks.flatten).length < 0) : rest = [] :=
    absurd hOver (Nat.not_lt_zero _)
  simp only [openHead, ofChunks, Line.ofChunks_eq, hFirst, hHeaders, List.isEmpty_reverse,
    List.reverse_reverse, Bool.false_eq_true, if_false]
  split
  · rename_i hNone
    refine ⟨_, _, rfl, rfl, rfl, ?_, rest, hRest, hAll, by simpa using hCount, hGiven⟩
    rw [headersOf, if_pos]
    exact List.isEmpty_iff.mp hNone
  · rename_i hSome
    refine ⟨_, _, rfl, rfl, rfl, ?_, rest, hRest, hAll, by simpa using hCount, hGiven⟩
    rw [headersOf, if_neg]
    · rfl
    · exact fun hNone => hSome (List.isEmpty_iff.mpr hNone)

theorem Ready.takeHeaders {text : Bytes} {given : Nat} {s : Lines} (hReady : Ready text given s) :
    s.takeHeaders.1 = .ok (headersOf text) ∧ Ready text given s.takeHeaders.2.1 := by
  obtain ⟨next, told, hOpen, hOpened⟩ := hReady.opens
  simp only [Lines.takeHeaders, hOpen, hOpened.headers]
  exact ⟨trivial, hOpened.ready⟩

/-- The next data line, with all lines before it read. -/
theorem nextData_text (contents : List Bytes) (count : Nat) :
    ∃ rest : List Bytes,
      nextData none count (contents.map .text) =
        (.ok (contents.filterMap Line.point?).head?, rest.map .text,
          count + contents.length - rest.length) ∧
      rest.length ≤ contents.length ∧
      rest.filterMap Line.point? = (contents.filterMap Line.point?).tail ∧
      (contents.filterMap Line.point? = [] → rest = []) := by
  induction contents generalizing count with
  | nil => exact ⟨[], rfl, Nat.le_refl _, rfl, fun _ => rfl⟩
  | cons content contents ih =>
      rw [List.map_cons, nextData, List.filterMap_cons, Line.point?]
      obtain ⟨rest, hNext, hLess, hRest, hEnd⟩ := ih (count + 1)
      have hOne : count + 1 + contents.length = count + (content :: contents).length := by
        rw [List.length_cons]
        omega
      rw [hOne] at hNext
      cases Line.kind content with
      | data p =>
          refine ⟨contents, ?_, by simp, rfl, by simp⟩
          simp only [List.head?_cons, List.length_cons]
          congr 2
          omega
      | blank => exact ⟨rest, hNext, Nat.le_succ_of_le hLess, hRest, hEnd⟩
      | comment text => exact ⟨rest, hNext, Nat.le_succ_of_le hLess, hRest, hEnd⟩

/-- A request for a point gives the next one, or none if there is none left. -/
theorem Ready.next {text : Bytes} {given : Nat} {s : Lines} (hReady : Ready text given s) :
    s.next.1 = .ok (pointsOf text)[given]? ∧ Ready text (given + 1) s.next.2.1 := by
  obtain ⟨opened, told, hOpen, hOpened⟩ := hReady.opens
  obtain ⟨contents, hContents, hPoints, hCount, hEnd⟩ := hOpened.rest
  have hHead := congrArg List.head? hPoints
  have hTail := congrArg List.tail hPoints
  rw [List.head?_drop] at hHead
  rw [List.tail_drop] at hTail
  simp only [Lines.next, hOpen]
  cases hPending : opened.pending with
  | some p =>
      rw [hPending] at hHead hTail hPoints
      have hLater : given < (pointsOf text).length := by
        by_contra hOver
        rw [List.drop_eq_nil_of_le (Nat.le_of_not_lt hOver)] at hPoints
        simp at hPoints
      refine ⟨congrArg Except.ok hHead, Opened.ready ⟨hOpened.sound, hOpened.opened,
        hOpened.headers, contents, hContents, hTail, hCount, fun hOver => ?_⟩⟩
      omega
  | none =>
      rw [hPending] at hHead hTail hPoints
      obtain ⟨rest, hNext, hLess, hRest, hNone⟩ := nextData_text contents opened.count
      simp only [hOpened.sound, hContents, hNext]
      refine ⟨congrArg Except.ok hHead, Opened.ready ⟨rfl, hOpened.opened,
        hOpened.headers, rest, rfl, ?_, ?_, fun hOver => hNone ?_⟩⟩
      · rw [hRest]
        exact hTail
      · simp only
        omega
      · rw [Option.toList_none, List.nil_append] at hPoints
        rw [hPoints, List.drop_eq_nil_of_le (by omega)]

/-- What is asked for is answered by its kind, however the kinds are mixed. -/
theorem Ready.serveAll {text : Bytes} {given : Nat} {s : Lines} (hReady : Ready text given s)
    (requests : List Request) :
    (s.serveAll requests).1.filterMap Answer.headers? =
        List.replicate (requests.count .headers) (.ok (headersOf text)) ∧
      (s.serveAll requests).1.filterMap Answer.point? =
        (List.range' given (requests.count .point)).map (fun i => .ok (pointsOf text)[i]?) ∧
      Ready text (given + requests.count .point) (s.serveAll requests).2 := by
  induction requests generalizing given s with
  | nil => exact ⟨rfl, rfl, hReady⟩
  | cons request requests ih =>
      cases request with
      | headers =>
          obtain ⟨hAnswer, hNext⟩ := hReady.takeHeaders
          obtain ⟨hHeaders, hPoints, hLast⟩ := ih hNext
          refine ⟨?_, ?_, ?_⟩
          · simp [Lines.serveAll, Lines.serve, Answer.headers?, hAnswer, hHeaders,
              List.replicate_succ]
          · simpa [Lines.serveAll, Lines.serve, Answer.point?, List.filterMap_cons] using hPoints
          · simpa [Lines.serveAll, Lines.serve] using hLast
      | point =>
          obtain ⟨hAnswer, hNext⟩ := hReady.next
          obtain ⟨hHeaders, hPoints, hLast⟩ := ih hNext
          refine ⟨?_, ?_, ?_⟩
          · simpa [Lines.serveAll, Lines.serve, Answer.headers?, List.filterMap_cons] using hHeaders
          · simp [Lines.serveAll, Lines.serve, Answer.point?, hAnswer, hPoints, List.range'_succ]
          · rw [List.count_cons_self, Nat.add_comm _ 1, ← Nat.add_assoc]
            exact hLast

/-- However a text is cut into chunks and in whatever order headers and points are asked for, every
request for the headers gives the comments before the first data line, and the requests for points
give the data lines, one after another, and then none. When one has given none, all lines were read. -/
theorem answers_ofChunks (chunks : List Bytes) (requests : List Request) :
    let text := chunks.flatten
    let source := ofChunks (chunks.map .bytes)
    let (answers, last) := source.serveAll requests
    (∃ (ended : List Bytes) (tail : Bytes), text = ended.flatMap (· ++ [Line.newline]) ++ tail ∧
      (∀ line ∈ ended, Line.newline ∉ line) ∧ Line.newline ∉ tail ∧
      linesOf text = ended ++ if tail = [] then [] else [tail]) ∧
    answers.filterMap Answer.headers? =
      List.replicate (requests.count .headers) (.ok (headersOf text)) ∧
    answers.filterMap Answer.point? =
      (List.range (requests.count .point)).map (fun i => .ok (pointsOf text)[i]?) ∧
    ((pointsOf text).length < requests.count .point → last.count = (linesOf text).length) ∧
    (∀ p ∈ pointsOf text, p ≠ []) ∧
    source.toStream.headers = .ok (headersOf text) ∧ source.toStream.points = pointsOf text := by
  intro text source
  have hReady := ready_ofChunks chunks
  obtain ⟨hHeaders, hPoints, hLast⟩ := hReady.serveAll requests
  rw [Nat.zero_add] at hLast
  refine ⟨exists_linesOf_eq text, hHeaders, ?_, fun hOver => ?_, fun p hp => ?_,
    hReady.takeHeaders.1, ?_⟩
  · rw [hPoints, ← List.range_eq_range']
  · have hOpened : (source.serveAll requests).2.opened = true :=
      hLast.opened.resolve_left (Nat.ne_zero_of_lt hOver)
    obtain ⟨next, told, hOpen, hNext⟩ := hLast.opens
    rw [openHead, hOpened, if_pos rfl] at hOpen
    obtain ⟨contents, -, -, hCount, hEnd⟩ := hNext.rest
    cases hOpen
    rwa [hEnd hOver, List.length_nil, Nat.add_zero] at hCount
  · have hData := (List.mem_filter.mp hp).2
    rintro rfl
    cases hData
  · rw [points_toStream, dataLines_eq]

end Lines
end BulkLoad.Source
