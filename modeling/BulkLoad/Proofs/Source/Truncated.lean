import BulkLoad.Proofs.Dispatch.Broken
import BulkLoad.Proofs.Source.Requests

/-!
A text that breaks off.

A read that fails takes the line begun with it. The lines ended before it are read as if the text
ended there, and the first failure that anyone sees is the one behind the last of them.
-/
namespace BulkLoad.Source

/-- A text up to its last newline. -/
def whole (text : Bytes) : Bytes := text.rdropWhile (· ≠ Line.newline)

theorem whole_append {ended : List Bytes} {tail : Bytes} (hTail : Line.newline ∉ tail) :
    whole (ended.flatMap (· ++ [Line.newline]) ++ tail) = ended.flatMap (· ++ [Line.newline]) := by
  induction tail using List.reverseRecOn with
  | nil =>
      rw [List.append_nil, whole]
      cases ended using List.reverseRecOn with
      | nil => rfl
      | append_singleton ended line =>
          rw [List.flatMap_append, List.flatMap_singleton, ← List.append_assoc]
          exact List.rdropWhile_concat_neg _ _ _ (by simp)
  | append_singleton tail b ih =>
      rw [List.mem_append, List.mem_singleton, not_or] at hTail
      rw [← List.append_assoc, whole, List.rdropWhile_concat_pos _ _ _ (by simpa using Ne.symm hTail.2)]
      exact ih hTail.1

/-- A text is its lines that a newline ends, and a tail without newline. -/
theorem exists_whole_eq (text : Bytes) :
    ∃ tail, text = whole text ++ tail ∧ Line.newline ∉ tail ∧
      whole text = (linesOf (whole text)).flatMap (· ++ [Line.newline]) ∧
      ∀ line ∈ linesOf (whole text), Line.newline ∉ line := by
  obtain ⟨ended, tail, hText, hEnded, hTail, -⟩ := exists_linesOf_eq text
  have hWhole : whole text = ended.flatMap (· ++ [Line.newline]) := by
    rw [hText]
    exact whole_append hTail
  refine ⟨tail, by rw [hWhole]; exact hText, hTail, ?_, ?_⟩
  · rw [hWhole, linesOf_flatMap hEnded]
  · rwa [hWhole, linesOf_flatMap hEnded]

namespace Line

theorem foldl_feed_of_not_mem {tail : Bytes} (hTail : newline ∉ tail) (older : List Line)
    (begun : Bytes) :
    tail.foldl Cut.feed ⟨older, begun⟩ = ⟨older, tail.reverse ++ begun⟩ := by
  induction tail generalizing begun with
  | nil => rfl
  | cons b tail ih =>
      rw [List.mem_cons, not_or] at hTail
      rw [List.foldl_cons, Cut.feed, if_neg (Ne.symm hTail.1), ih hTail.2]
      simp

theorem foldl_feed_flatMap {ended : List Bytes} (hEnded : ∀ line ∈ ended, newline ∉ line)
    (older : List Line) :
    (ended.flatMap (· ++ [newline])).foldl Cut.feed ⟨older, []⟩ =
      ⟨(ended.map .text).reverse ++ older, []⟩ := by
  induction ended generalizing older with
  | nil => rfl
  | cons line ended ih =>
      rw [List.forall_mem_cons] at hEnded
      rw [List.flatMap_cons, List.foldl_append, List.foldl_append,
        foldl_feed_of_not_mem hEnded.1, List.append_nil, List.foldl_cons, List.foldl_nil, Cut.feed,
        if_pos rfl, List.reverse_reverse, ih hEnded.2]
      simp

/-- Lines that are complete stay in front of what is read after them. -/
theorem finish_read (chunks : List Chunk) (lines older : List Line) (begun : Bytes) :
    (chunks.foldl Cut.read ⟨lines ++ older, begun⟩).finish =
      older.reverse ++ (chunks.foldl Cut.read ⟨lines, begun⟩).finish := by
  have hFeed (text : Bytes) (lines : List Line) (begun : Bytes) :
      text.foldl Cut.feed ⟨lines ++ older, begun⟩ =
        { text.foldl Cut.feed ⟨lines, begun⟩ with
          complete := (text.foldl Cut.feed ⟨lines, begun⟩).complete ++ older } := by
    induction text generalizing lines begun with
    | nil => rfl
    | cons b text ih =>
        rw [List.foldl_cons, List.foldl_cons, Cut.feed, Cut.feed]
        split
        · exact ih (.text begun.reverse :: lines) []
        · exact ih lines (b :: begun)
  induction chunks generalizing lines begun with
  | nil => cases begun <;> simp [Cut.finish]
  | cons chunk chunks ih =>
      cases chunk with
      | bytes content =>
          rw [List.foldl_cons, List.foldl_cons, Cut.read, hFeed]
          exact ih ..
      | failure m => exact ih (.failure m :: lines) []

/-- Bytes leave the lines that they end complete, and a line begun. -/
theorem exists_foldl_feed (text : Bytes) :
    ∃ begun, text.foldl Cut.feed {} = ⟨((linesOf (whole text)).map .text).reverse, begun⟩ := by
  obtain ⟨tail, hText, hTail, hWhole, hLines⟩ := exists_whole_eq text
  refine ⟨tail.reverse, ?_⟩
  calc text.foldl Cut.feed {}
      = tail.foldl Cut.feed ((whole text).foldl Cut.feed {}) := by
        rw [← List.foldl_append, ← hText]
    _ = tail.foldl Cut.feed ⟨((linesOf (whole text)).map .text).reverse, []⟩ := by
        have hEnded := foldl_feed_flatMap hLines []
        rw [← hWhole, List.append_nil] at hEnded
        rw [hEnded]
    _ = ⟨((linesOf (whole text)).map .text).reverse, tail.reverse⟩ := by
        rw [foldl_feed_of_not_mem hTail, List.append_nil]

/-- A read that fails stands behind the lines ended before it, and the line begun is lost. -/
theorem ofChunks_failure (pieces : List Bytes) (m : String) (later : List Chunk) :
    ofChunks (pieces.map .bytes ++ .failure m :: later) =
      (linesOf (whole pieces.flatten)).map .text ++ .failure m :: ofChunks later := by
  obtain ⟨begun, hRead⟩ := exists_foldl_feed pieces.flatten
  have hLater := finish_read later []
    (.failure m :: ((linesOf (whole pieces.flatten)).map .text).reverse) []
  rw [ofChunks, List.foldl_append, foldl_read_bytes, hRead, List.foldl_cons, Cut.read]
  simpa [ofChunks] using hLater

end Line

namespace Lines

/-- The source with more lines behind those that are still to come. -/
def followedBy (s : Lines) (more : List Line) : Lines := { s with rest := s.rest ++ more }

section

variable (contents : List Bytes) (more : List Line) (count : Nat)

/-- Lines behind a data line are not looked at. -/
theorem nextData_append :
    nextData none count (contents.map .text ++ more) =
      if contents.filterMap Line.point? = [] then nextData none (count + contents.length) more
      else
        let (result, rest, read) := nextData none count (contents.map .text)
        (result, rest ++ more, read) := by
  induction contents generalizing count with
  | nil => rfl
  | cons content contents ih =>
      rw [List.map_cons, List.cons_append, nextData, nextData, List.filterMap_cons, Line.point?,
        ih, List.length_cons, Nat.add_assoc, Nat.add_comm 1]
      cases Line.kind content with
      | data p => rfl
      | blank => rfl
      | comment text => rfl

theorem readHead_append (headers : List String) :
    if contents.filterMap Line.point? = [] then
      ∃ found, readHead none count headers (contents.map .text ++ more) =
        readHead none (count + contents.length) found more
    else
      readHead none count headers (contents.map .text ++ more) =
        { readHead none count headers (contents.map .text) with
          rest := (readHead none count headers (contents.map .text)).rest ++ more } := by
  induction contents generalizing count headers with
  | nil => exact ⟨headers, rfl⟩
  | cons content contents ih =>
      rw [List.map_cons, List.cons_append, readHead, readHead, List.filterMap_cons, Line.point?,
        List.length_cons, ← Nat.add_assoc, Nat.add_right_comm]
      cases Line.kind content with
      | data p => rfl
      | blank => exact ih (count + 1) headers
      | comment text => exact ih (count + 1) (Line.headerText text :: headers)

theorem items_append :
    items none count (contents.map .text ++ more) =
      (contents.filterMap Line.point?).map .point ++ items none (count + contents.length) more := by
  induction contents generalizing count with
  | nil => rfl
  | cons content contents ih =>
      rw [List.map_cons, List.cons_append, items, List.filterMap_cons, Line.point?, ih,
        List.length_cons, Nat.add_assoc, Nat.add_comm 1]
      cases Line.kind content with
      | data p => rfl
      | blank => rfl
      | comment text => rfl

end

/-- The source of a text behind which a read fails. -/
def breakingOff (text : Bytes) (m : String) (later : List Line) : Lines where
  rest := (linesOf text).map .text ++ .failure m :: later

theorem ofChunks_failure (pieces : List Bytes) (m : String) (later : List Chunk) :
    ofChunks (pieces.map .bytes ++ .failure m :: later) =
      breakingOff (whole pieces.flatten) m (Line.ofChunks later) := by
  rw [ofChunks, Line.ofChunks_failure]
  rfl

/-- The head of a text with a data line is read as if no failure stood behind the text. -/
theorem exists_openHead_breakingOff {text : Bytes} (hData : pointsOf text ≠ []) (m : String)
    (later : List Line) :
    ∃ next told, Opened text 0 next ∧
      (breakingOff text m later).openHead = (.ok (), next.followedBy (.failure m :: later), told) := by
  have hText : [text].flatten = text := by simp
  obtain ⟨next, told, hOpen, hOpened⟩ := (ready_ofChunks [text]).opens
  rw [hText] at hOpened
  refine ⟨next, told, hOpened, ?_⟩
  have hHead := readHead_append (linesOf text) (.failure m :: later) 0 []
  rw [filterMap_linesOf, dataLines_eq, if_neg hData] at hHead
  simp only [ofChunks, openHead, Line.ofChunks_eq, hText, Bool.false_eq_true, if_false] at hOpen
  simp only [breakingOff, openHead, hHead, Bool.false_eq_true, if_false]
  split at hOpen
  · cases hOpen
  · split at hOpen
    · rename_i hNone
      rw [if_pos hNone]
      cases hOpen
      rfl
    · rename_i hSome
      rw [if_neg hSome]
      cases hOpen
      rfl

/-- The head of a text without a data line cannot be read. -/
theorem exists_openHead_failure {text : Bytes} (hNone : pointsOf text = []) (m : String)
    (later : List Line) :
    ∃ last told, (breakingOff text m later).openHead =
      (.error (readFault (linesOf text).length m), last, told) := by
  have hHead := readHead_append (linesOf text) (.failure m :: later) 0 []
  rw [filterMap_linesOf, dataLines_eq, if_pos hNone, Nat.zero_add] at hHead
  obtain ⟨found, hHead⟩ := hHead
  simp only [breakingOff, openHead, hHead, Bool.false_eq_true, if_false]
  exact ⟨_, _, rfl⟩

/-- The first request of either kind reads the head. -/
theorem serve_of_openHead {s next : Lines} {told : Journal}
    (hOpen : s.openHead = (.ok (), next, told)) (hOpened : next.opened = true)
    (request : Request) : s.serve request = next.serve request := by
  have hAgain : next.openHead = (.ok (), next, []) := by rw [openHead, hOpened, if_pos rfl]
  cases request with
  | headers => simp only [serve, takeHeaders, hOpen, hAgain]
  | point =>
      simp only [serve, Lines.next, hOpen, hAgain]
      split <;> rfl

theorem Ready.isOpened {text : Bytes} {given : Nat} {s : Lines} (hReady : Ready text given s)
    (hOpened : s.opened = true) : Opened text given s := by
  obtain ⟨next, told, hOpen, hNext⟩ := hReady.opens
  rw [openHead, hOpened, if_pos rfl] at hOpen
  cases hOpen
  exact hNext

namespace Opened

variable {text : Bytes} {given : Nat} {s : Lines}

theorem openHead_followedBy (hOpened : Opened text given s) (more : List Line) :
    (s.followedBy more).openHead = (.ok (), s.followedBy more, []) := by
  rw [Lines.openHead, followedBy, hOpened.opened, if_pos rfl]

theorem takeHeaders_followedBy (hOpened : Opened text given s) (more : List Line) :
    (s.followedBy more).serve .headers = (.headers (.ok (headersOf text)), s.followedBy more) := by
  simp only [serve, Lines.takeHeaders, hOpened.openHead_followedBy, ← hOpened.headers]
  rfl

/-- As long as there are points left, what stands behind the text makes no difference. -/
theorem next_followedBy (hOpened : Opened text given s) (more : List Line)
    (hLater : given < (pointsOf text).length) :
    ∃ next, Opened text (given + 1) next ∧
      (s.followedBy more).serve .point =
        (.point (.ok (some (pointsOf text)[given])), next.followedBy more) := by
  have hNext := hOpened.ready.next
  rw [List.getElem?_eq_getElem hLater] at hNext
  obtain ⟨hAnswer, hReady⟩ := hNext
  have hIsOpened := hReady.opened.resolve_left (Nat.succ_ne_zero given)
  refine ⟨s.next.2.1, hReady.isOpened hIsOpened, ?_⟩
  rw [← hAnswer]
  obtain ⟨contents, hContents, hPoints, -, -⟩ := hOpened.rest
  simp only [serve, Lines.next, hOpened.openHead_followedBy, hOpened.openHead]
  cases hPending : s.pending with
  | some p => simp [followedBy, hPending]
  | none =>
      have hSome : contents.filterMap Line.point? ≠ [] := by
        rw [hPending, Option.toList_none, List.nil_append] at hPoints
        rw [hPoints]
        exact fun hNone => absurd (List.drop_eq_nil_iff.mp hNone) (Nat.not_le_of_lt hLater)
      have hAppend := nextData_append contents more s.count
      rw [if_neg hSome] at hAppend
      simp [followedBy, hPending, hOpened.sound, hContents, hAppend]

/-- When all points are given, what comes next is the failure behind the text. -/
theorem next_failure (hOpened : Opened text given s) (m : String) (later : List Line)
    (hOver : (pointsOf text).length ≤ given) :
    ((s.followedBy (.failure m :: later)).serve .point).1 =
      .point (.error (readFault (linesOf text).length m)) := by
  obtain ⟨contents, hContents, hPoints, hCount, -⟩ := hOpened.rest
  rw [List.drop_eq_nil_of_le hOver, List.append_eq_nil_iff, Option.toList_eq_nil_iff] at hPoints
  have hAppend := nextData_append contents (.failure m :: later) s.count
  rw [if_pos hPoints.2, hCount] at hAppend
  simp only [serve, Lines.next, hOpened.openHead_followedBy]
  simp [followedBy, hPoints.1, hOpened.sound, hContents, hAppend, nextData]

end Opened

end Lines

namespace Answer

/-- The failure that an answer tells of. -/
def fault? : Answer → Option Fault
  | .headers (.error f) => some f
  | .point (.error f) => some f
  | _ => none

/-- The answers up to the first failure. -/
def beforeFailure (answers : List Answer) : List Answer :=
  answers.takeWhile fun answer => answer.fault?.isNone

/-- Up to the first failure, if there is one, every request for the headers gives these, and the
requests for points give these points, one after another. -/
structure Gives (headers : Option (List String)) (points : List Point) (failure : Option Fault)
    (answers : List Answer) : Prop where
  headers : ∀ result ∈ (beforeFailure answers).filterMap headers?, result = .ok headers
  points : (beforeFailure answers).filterMap point? = points.map fun p => .ok (some p)
  failure : answers.findSome? fault? = failure

namespace Gives

variable {headers : Option (List String)} {points : List Point} {failure : Option Fault}
  {answers : List Answer}

theorem nil : Gives headers [] none [] := ⟨nofun, rfl, rfl⟩

theorem consHeaders (hGives : Gives headers points failure answers) :
    Gives headers points failure (.headers (.ok headers) :: answers) := by
  refine ⟨fun result hResult => ?_, hGives.points, hGives.failure⟩
  rcases List.mem_cons.mp hResult with rfl | hLater
  · rfl
  · exact hGives.headers result hLater

theorem consPoint (hGives : Gives headers points failure answers) (p : Point) :
    Gives headers (p :: points) failure (.point (.ok (some p)) :: answers) :=
  ⟨hGives.headers, congrArg _ hGives.points, hGives.failure⟩

theorem fails {answer : Answer} {f : Fault} (hFault : answer.fault? = some f)
    (answers : List Answer) : Gives headers [] (some f) (answer :: answers) := by
  have hNone : beforeFailure (answer :: answers) = [] :=
    List.takeWhile_cons_of_neg (by simp [hFault])
  refine ⟨?_, ?_, ?_⟩
  · simp [hNone]
  · simp [hNone]
  · rw [List.findSome?_cons, hFault]

end Gives

end Answer

namespace Lines

/-- A head that cannot be read fails the request that reads it. -/
theorem fault?_serve {s last : Lines} {f : Fault} {told : Journal}
    (hOpen : s.openHead = (.error f, last, told)) (request : Request) :
    (s.serve request).1.fault? = some f := by
  cases request with
  | headers => simp only [serve, takeHeaders, hOpen, Answer.fault?]
  | point => simp only [serve, Lines.next, hOpen, Answer.fault?]

/-- An opened source whose text breaks off gives what is left of the text, and then fails. -/
theorem Opened.gives {text : Bytes} {given : Nat} {s : Lines} (hOpened : Opened text given s)
    (hGiven : given ≤ (pointsOf text).length) (m : String) (later : List Line)
    (requests : List Request) :
    Answer.Gives (headersOf text) (((pointsOf text).drop given).take (requests.count .point))
      (if (pointsOf text).length < given + requests.count .point then
        some (readFault (linesOf text).length m) else none)
      ((s.followedBy (.failure m :: later)).serveAll requests).1 := by
  induction requests generalizing given s with
  | nil =>
      rw [List.count_nil, List.take_zero, Nat.add_zero, if_neg (Nat.not_lt_of_le hGiven)]
      exact .nil
  | cons request requests ih =>
      cases request with
      | headers =>
          rw [serveAll, hOpened.takeHeaders_followedBy]
          exact (ih hOpened hGiven).consHeaders
      | point =>
          rw [serveAll, List.count_cons_self]
          by_cases hLater : given < (pointsOf text).length
          · obtain ⟨next, hNext, hServe⟩ :=
              hOpened.next_followedBy (.failure m :: later) hLater
            have hGives := ih hNext hLater
            rw [Nat.add_right_comm, Nat.add_assoc] at hGives
            rw [hServe, List.drop_eq_getElem_cons hLater, List.take_succ_cons]
            exact hGives.consPoint _
          · have hOver := Nat.le_of_not_lt hLater
            rw [List.drop_eq_nil_of_le hOver, List.take_nil, if_pos (by omega)]
            apply Answer.Gives.fails
            rw [hOpened.next_failure m later hOver]
            rfl

/-- What a text that breaks off gives, whatever is asked for. -/
theorem gives_breakingOff (text : Bytes) (m : String) (later : List Line)
    (requests : List Request) :
    Answer.Gives (headersOf text) ((pointsOf text).take (requests.count .point))
      (if (pointsOf text).length < requests.count .point ∨ (pointsOf text = [] ∧ requests ≠ []) then
        some (readFault (linesOf text).length m) else none)
      ((breakingOff text m later).serveAll requests).1 := by
  cases requests with
  | nil =>
      rw [List.count_nil, List.take_zero, if_neg (by simp)]
      exact .nil
  | cons request requests =>
      by_cases hNone : pointsOf text = []
      · obtain ⟨last, told, hOpen⟩ := exists_openHead_failure hNone m later
        rw [hNone, List.take_nil, if_pos (by simp)]
        exact .fails (fault?_serve hOpen request) _
      · obtain ⟨next, told, hOpened, hOpen⟩ := exists_openHead_breakingOff hNone m later
        have hGives := hOpened.gives (Nat.zero_le _) m later (request :: requests)
        rw [serveAll] at hGives
        rw [serveAll, serve_of_openHead hOpen hOpened.opened]
        simpa only [hNone, false_and, or_false, Nat.zero_add, List.drop_zero] using hGives

/-- As dispatch sees it, a text that breaks off fails behind its points, or before anything is read if
it has none. -/
theorem toStream_breakingOff (text : Bytes) (m : String) (later : List Line) :
    let stream := (breakingOff text m later).toStream
    let fault := readFault (linesOf text).length m
    (stream.headers = .error fault ∧ pointsOf text = []) ∨
      ((∃ headers, stream.headers = .ok headers) ∧
        ∃ rest, stream.items = (pointsOf text).map .point ++ .failed fault :: rest) := by
  by_cases hNone : pointsOf text = []
  · obtain ⟨last, told, hOpen⟩ := exists_openHead_failure hNone m later
    left
    exact ⟨by simp only [toStream, takeHeaders, hOpen], hNone⟩
  · obtain ⟨next, told, hOpened, hOpen⟩ := exists_openHead_breakingOff hNone m later
    obtain ⟨contents, hContents, hPoints, hCount, -⟩ := hOpened.rest
    rw [List.drop_zero] at hPoints
    right
    simp only [toStream, takeHeaders, hOpen]
    refine ⟨⟨_, rfl⟩, items none ((linesOf text).length) later, ?_⟩
    simp only [followedBy, hOpened.sound, hContents, items_append, hCount, items, ← hPoints,
      List.map_append, List.append_assoc]
    cases next.pending <;> rfl

/-- If a text breaks off, then whatever is asked for, and in whatever order, the points of the lines
that a newline ends are given one after another, and nothing of the line that was begun. The first
failure comes behind them all and names the line that was begun. So dispatch without a limit, over
channels that are open, fails with the number of these points. -/
theorem truncated_gives_whole_lines (pieces : List Bytes) (m : String) (later : List Chunk) :
    let text := whole pieces.flatten
    let source := ofChunks (pieces.map .bytes ++ .failure m :: later)
    let fault : Fault :=
      .source ("read failed at line " ++ toString ((linesOf text).length + 1)) (some m)
    (∃ tail, pieces.flatten = text ++ tail ∧ Line.newline ∉ tail ∧
      text = (linesOf text).flatMap (· ++ [Line.newline]) ∧
      ∀ line ∈ linesOf text, Line.newline ∉ line) ∧
    (∀ requests : List Request,
      Answer.Gives (headersOf text) ((pointsOf text).take (requests.count .point))
        (if (pointsOf text).length < requests.count .point ∨
          (pointsOf text = [] ∧ requests ≠ []) then some fault else none)
        (source.serveAll requests).1) ∧
    ∀ {ι : Type} [Indexer ι] (x : ι) (pool : Pool LineBatch) (flags : List Bool) (size : Nat),
      (∀ p ∈ pointsOf text, p.Accepted) →
      (∀ channel ∈ Indexer.picks x (pointsOf text), channel < flags.length) →
      let o := (Dispatch.start x pool (flags.map fun closed => { closed })).run ⟨size, none⟩
        source.toStream
      o.result = .error (.source (pointsOf text).length fault) ∨
        ∃ channel : Nat, o.result = .error (.channelClosed channel) ∧ flags[channel]? = some true := by
  intro text source fault
  have hSource : source = breakingOff text m (Line.ofChunks later) := ofChunks_failure pieces m later
  refine ⟨exists_whole_eq pieces.flatten, fun requests => ?_, ?_⟩
  · rw [hSource]
    exact gives_breakingOff ..
  · intro ι _ x pool flags size hAccepted hPicks
    rw [hSource]
    apply Dispatch.run_of_broken x pool flags size _ (toStream_breakingOff ..) _ hPicks
    intro p hp
    refine ⟨?_, hAccepted p hp⟩
    rintro rfl
    cases (List.mem_filter.mp hp).2

/-- A header, two points and the beginning of a third, cut within a line end. -/
def brokenPieces : List Bytes :=
  [Utf8.encode "# h\r\na x=1 1\r", Utf8.encode "\nb x=2,y=3 2\nc x"]

/-- Asked for more than there is, the source gives the two points and the headers and then fails at
the fourth line; dispatch fails after two points. -/
theorem truncated_gives_whole_lines_brokenPieces :
    let source := ofChunks (brokenPieces.map .bytes ++ [.failure "unplugged"])
    let fault : Fault := .source ("read failed at line " ++ toString 4) (some "unplugged")
    Answer.Gives (some ["h"]) [Utf8.encode "a x=1 1", Utf8.encode "b x=2,y=3 2"] (some fault)
        (source.serveAll [.point, .headers, .point, .point]).1 ∧
      ((Dispatch.start (RoundRobin.ofChannels 2) (.ofCapacity 1) ([false, false].map
        fun closed => { closed })).run ⟨2, none⟩ source.toStream).result =
          .error (.source 2 fault) := by
  intro source fault
  obtain ⟨-, hGives, hDispatch⟩ := truncated_gives_whole_lines brokenPieces "unplugged" []
  have hLines : linesOf (whole brokenPieces.flatten) =
      [Utf8.encode "# h\r", Utf8.encode "a x=1 1\r", Utf8.encode "b x=2,y=3 2"] := by decide +kernel
  have hPoints : pointsOf (whole brokenPieces.flatten) =
      [Utf8.encode "a x=1 1", Utf8.encode "b x=2,y=3 2"] := by decide +kernel
  have hHeaders : headersOf (whole brokenPieces.flatten) = some ["h"] := by decide +kernel
  refine ⟨?_, ?_⟩
  · have hAll := hGives [.point, .headers, .point, .point]
    rw [hLines, hPoints, hHeaders] at hAll
    exact hAll
  · have hFails := hDispatch (RoundRobin.ofChannels 2) (.ofCapacity 1) [false, false] 2
      (by rw [hPoints]; decide +kernel) (by rw [hPoints]; decide +kernel)
    rw [hLines, hPoints] at hFails
    rcases hFails with hResult | ⟨channel, -, hFlag⟩
    · exact hResult
    · match channel, hFlag with
      | 0, hFlag => cases hFlag
      | 1, hFlag => cases hFlag

end Lines
end BulkLoad.Source
