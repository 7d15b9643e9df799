import Mathlib.Data.List.TakeDrop
import Mathlib.Data.List.TakeWhile
import BulkLoad.Url.Parse

/-!
URLs of the web with more text at the end.

What is added behind a slash is one more segment. Scheme, user, host and port are read as before, and
the segments in front stay what they are, once the points among them are followed.
-/
namespace BulkLoad.Url

/-! ### Text at the end -/

theorem dropEndWhile_append_cons {α : Type} {p : α → Bool} {a : α} (hKeep : p a = false)
    (before after : List α) : Text.dropEndWhile p (before ++ a :: after) =
      before ++ a :: Text.dropEndWhile p after := by
  rw [Text.dropEndWhile, Text.dropEndWhile, List.reverse_append, List.reverse_cons,
    List.append_assoc, List.dropWhile_append]
  split
  · rename_i hAll
    simp [List.isEmpty_iff.mp hAll, hKeep]
  · simp

variable {α : Type} [DecidableEq α]

theorem exists_dropEndWhile_append (a : α) (s : List α) :
    ∃ count, s = Text.dropEndWhile (· = a) s ++ List.replicate count a := by
  have hRun : (s.reverse.takeWhile (· = a)).reverse =
      List.replicate (s.reverse.takeWhile (· = a)).length a := by
    refine List.eq_replicate_iff.mpr ⟨List.length_reverse, fun b hb => ?_⟩
    simpa using List.all_eq_true.mp List.all_takeWhile b (List.mem_reverse.mp hb)
  refine ⟨(s.reverse.takeWhile (· = a)).length, ?_⟩
  rw [← hRun, Text.dropEndWhile, ← List.reverse_append, List.takeWhile_append_dropWhile,
    List.reverse_reverse]

theorem dropEndWhile_append_replicate (a : α) {s : List α} (hEnd : ¬ [a] <:+ s) (count : Nat) :
    Text.dropEndWhile (· = a) (s ++ List.replicate count a) = s := by
  have hRun : ∀ b ∈ List.replicate count a, decide (b = a) = true := by simp
  rw [Text.dropEndWhile, List.reverse_append, List.reverse_replicate,
    List.dropWhile_append_of_pos hRun]
  cases hLast : s.reverse with
  | nil => simpa using hLast.symm
  | cons b before =>
      have hText : s = before.reverse ++ [b] := by
        rw [← List.reverse_cons, ← hLast, List.reverse_reverse]
      have hOther : b ≠ a := by
        rintro rfl
        exact hEnd ⟨before.reverse, hText.symm⟩
      simp [hOther, hText]

/-! ### Segments -/

namespace Form

theorem splitOn_cons_self (separator : Char) (cs : List Char) :
    splitOn separator (separator :: cs) = [] :: splitOn separator cs :=
  if_pos rfl

theorem splitOn_ne_nil (separator : Char) (cs : List Char) : splitOn separator cs ≠ [] := by
  cases cs with
  | nil => simp [splitOn]
  | cons c cs =>
      rw [splitOn, List.foldr_cons]
      split
      · simp
      · split <;> simp

theorem splitOn_cons_of_ne {separator c : Char} (hOther : c ≠ separator) {cs part : List Char}
    {more : List (List Char)} (hParts : splitOn separator cs = part :: more) :
    splitOn separator (c :: cs) = (c :: part) :: more := by
  simp only [splitOn] at hParts
  simp only [splitOn, List.foldr_cons, hParts, if_neg hOther]

theorem splitOn_append_cons (separator : Char) (before after : List Char) :
    splitOn separator (before ++ separator :: after) =
      splitOn separator before ++ splitOn separator after := by
  induction before with
  | nil => exact splitOn_cons_self separator after
  | cons c before ih =>
      obtain ⟨part, more, hParts⟩ := List.exists_cons_of_ne_nil (splitOn_ne_nil separator before)
      rw [hParts] at ih
      by_cases hSame : c = separator
      · subst hSame
        rw [List.cons_append, splitOn_cons_self, splitOn_cons_self, ih, hParts]
        rfl
      · rw [List.cons_append, splitOn_cons_of_ne hSame ih, splitOn_cons_of_ne hSame hParts]
        rfl

end Form

theorem cutSlashes_append (special : Bool) (before after : List Char) :
    cutSlashes special (before ++ '/' :: after) =
      cutSlashes special before ++ cutSlashes special after := by
  simp only [cutSlashes, List.map_append, List.map_cons]
  exact Form.splitOn_append_cons _ _ _

theorem cutSlashes_replicate (special : Bool) (count : Nat) :
    cutSlashes special (List.replicate count '/') = List.replicate (count + 1) [] := by
  induction count with
  | zero => rfl
  | succ count ih =>
      rw [List.replicate_succ, ← List.nil_append ('/' :: _), cutSlashes_append, ih]
      rfl

/-- The reverse of the segments before and with this one, when more follow. -/
def follow (before : List (List Char)) (s : List Char) : List (List Char) :=
  match points s with
  | some 1 => before
  | some _ => shorten before
  | none => encodeChars EncodeSet.path s :: before

theorem segments_cons (before : List (List Char)) (s : List Char) (rest : List (List Char)) :
    segments false before (s :: rest) =
      segments false
        (if rest.isEmpty && (points s).isSome then [] :: follow before s else follow before s)
        rest := by
  rw [segments, follow]
  split <;> cases rest <;> simp [segment, *]

theorem segments_append_cons (before ps : List (List Char)) (q : List Char)
    (qs : List (List Char)) :
    segments false before (ps ++ q :: qs) = segments false (ps.foldl follow before) (q :: qs) := by
  induction ps generalizing before with
  | nil => rfl
  | cons s ps ih =>
      have hMore : (ps ++ q :: qs).isEmpty = false := by simp
      rw [List.cons_append, segments_cons, hMore, List.foldl_cons, ← ih]
      rfl

theorem segments_replicate (before : List (List Char)) (count : Nat) :
    segments false before (List.replicate count []) =
      before.reverse ++ List.replicate count [] := by
  induction count generalizing before with
  | zero => simp [segments]
  | succ count ih =>
      have hFollow : follow before [] = [] :: before := rfl
      have hPoints : points [] = none := rfl
      rw [List.replicate_succ, segments_cons, hPoints, hFollow, Option.isSome_none, Bool.and_false,
        if_neg Bool.false_ne_true, ih]
      simp

/-- Without more behind it, a path that ends in points has one more empty segment. -/
theorem exists_segments_eq (before ps : List (List Char)) :
    ∃ count, segments false before ps =
      (ps.foldl follow before).reverse ++ List.replicate count [] := by
  induction ps generalizing before with
  | nil => exact ⟨0, by simp [segments]⟩
  | cons s ps ih =>
      rw [segments_cons, List.foldl_cons]
      by_cases hLast : (ps.isEmpty && (points s).isSome) = true
      · obtain rfl : ps = [] := by
          rw [Bool.and_eq_true, List.isEmpty_iff] at hLast
          exact hLast.1
        exact ⟨1, by rw [if_pos hLast]; simp [segments]⟩
      · rw [if_neg hLast]
        exact ih _

/-- The segment of the write endpoint. -/
def writeSegment : List Char := "write".toList

/-- Behind a host, text without marks is a path. With a slash and a segment behind it, all segments
are those in front and that one; more slashes are empty segments. -/
theorem exists_hostPath_eq {text : List Char} (hSlash : ∀ c ∈ text.head?, isSlash true c = true) :
    ∃ parts,
      hostPath true false (text ++ ['/']) = .segments (parts ++ [[]]) ∧
      hostPath true false (text ++ '/' :: writeSegment) =
        .segments (parts ++ [writeSegment]) ∧
      ∀ slashes, ∃ count, hostPath true false (text ++ List.replicate slashes '/') =
        .segments (parts ++ List.replicate count []) := by
  cases text with
  | nil =>
      refine ⟨[], rfl, rfl, fun slashes => ?_⟩
      cases slashes with
      | zero => exact ⟨1, rfl⟩
      | succ slashes =>
          have hPath : hostPath true false ([] ++ List.replicate (slashes + 1) '/') =
              .segments (segments false [] (cutSlashes true (List.replicate slashes '/'))) := rfl
          exact ⟨slashes + 1, by rw [hPath, cutSlashes_replicate, segments_replicate]; rfl⟩
  | cons c text =>
      have hFirst : isSlash true c = true := hSlash c rfl
      have hPath (more : List Char) : hostPath true false (c :: text ++ more) =
          .segments (segments false [] (cutSlashes true (text ++ more))) := by
        simp [hostPath, hFirst]
      have hMore (q : List Char) (qs : List (List Char)) :
          segments false [] (cutSlashes true text ++ q :: qs) =
            segments false ((cutSlashes true text).foldl follow []) (q :: qs) :=
        segments_append_cons [] _ q qs
      refine ⟨((cutSlashes true text).foldl follow []).reverse, ?_, ?_, fun slashes => ?_⟩
      · rw [hPath, cutSlashes_append]
        exact congrArg Path.segments ((hMore [] []).trans (segments_replicate _ 1))
      · rw [hPath, cutSlashes_append]
        refine congrArg Path.segments ((hMore writeSegment []).trans ?_)
        rw [segments, ← List.reverse_cons]
        rfl
      · rw [hPath]
        cases slashes with
        | zero =>
            obtain ⟨count, hCount⟩ := exists_segments_eq [] (cutSlashes true text)
            exact ⟨count, by rw [List.replicate_zero, List.append_nil, hCount]⟩
        | succ slashes =>
            refine ⟨slashes + 1, congrArg Path.segments ?_⟩
            rw [List.replicate_succ, cutSlashes_append, cutSlashes_replicate, List.replicate_succ,
              hMore, ← List.replicate_succ, segments_replicate]

/-- A web scheme has a host anyway. -/
theorem readHost_eq {scheme : List Char} (hSpecial : isSpecial scheme = true) (named : Bool)
    (cs : List Char) : readHost scheme named cs = readHost scheme false cs := by
  simp only [readHost, hSpecial, Bool.true_or]

/-- A run that does not reach past the text in front. -/
theorem span_append {p : Char → Bool} {more : List Char} (hStop : ∀ c ∈ more.head?, p c = false)
    (text : List Char) :
    (text ++ more).span p = (text.takeWhile p, text.dropWhile p ++ more) := by
  have hMore : more.takeWhile p = [] ∧ more.dropWhile p = more := by
    cases more with
    | nil => exact ⟨rfl, rfl⟩
    | cons c more => simp [hStop c rfl]
  rw [List.span_eq_takeWhile_dropWhile]
  induction text with
  | nil => simp [hMore]
  | cons c text ih =>
      cases hHere : p c <;> simp_all

theorem span_of_forall {p : Char → Bool} {text : List Char} (hAll : ∀ c ∈ text, p c = true) :
    text.span p = (text, []) := by
  rw [List.span_eq_takeWhile_dropWhile, List.takeWhile_eq_self_iff.mpr hAll,
    List.dropWhile_eq_nil_iff.mpr hAll]

theorem mem_of_cutLast? {separator : Char} {cs before after : List Char}
    (hCut : cutLast? separator cs = some (before, after)) {c : Char} (hMem : c ∈ after) : c ∈ cs := by
  rw [cutLast?, List.span_eq_takeWhile_dropWhile] at hCut
  split at hCut
  · rename_i last _ first hSpan
    obtain ⟨hLast, -⟩ := Prod.mk.inj hSpan
    obtain ⟨-, rfl⟩ := Prod.mk.inj (Option.some.inj hCut)
    rw [← hLast] at hMem
    exact List.mem_reverse.mp ((List.takeWhile_sublist _).subset (List.mem_reverse.mp hMem))
  · cases hCut

/-- A host ends where the text does or a port begins. -/
theorem spanHost_rest (inside : Bool) (cs : List Char) : (spanHost inside cs).2 = [] ∨
    ∃ more, (spanHost inside cs).2 = ':' :: more ∧ ∀ c ∈ more, c ∈ cs := by
  induction cs generalizing inside with
  | nil => exact .inl rfl
  | cons c cs ih =>
      rw [spanHost]
      split
      · rename_i hColon
        obtain ⟨rfl, -⟩ : c = ':' ∧ inside = false := by simpa using hColon
        exact .inr ⟨cs, rfl, fun d hd => List.mem_cons_of_mem _ hd⟩
      · rcases ih (c = '[' || (inside && c ≠ ']')) with hNone | ⟨more, hMore, hMem⟩
        · exact .inl hNone
        · exact .inr ⟨more, hMore, fun d hd => List.mem_cons_of_mem _ (hMem d hd)⟩

/-- A port ends the text, or a backslash follows. -/
theorem readPort_rest {scheme cs rest : List Char} {read : Option Nat × List Char}
    (hRead : readPort scheme rest = .ok read)
    (hRest : rest = [] ∨ ∃ more, rest = ':' :: more ∧ ∀ c ∈ more, c ∈ cs)
    (hPlain : '\\' ∉ cs) : read.2 = [] := by
  rcases hRest with rfl | ⟨more, rfl, hMem⟩
  · cases hRead
    rfl
  · rw [readPort, List.span_eq_takeWhile_dropWhile] at hRead
    dsimp only at hRead
    split at hRead
    · cases hRead
    · split at hRead
      · rename_i hEnd
        cases hRead
        simp only [Bool.or_eq_true, List.isEmpty_iff, decide_eq_true_eq] at hEnd
        rcases hEnd with hEnd | hEnd
        · exact hEnd
        · have hBack := (List.dropWhile_sublist _).subset (List.mem_of_head? hEnd)
          exact absurd (hMem _ hBack) hPlain
      · cases hRead

/-- Nothing is left behind host and port. -/
theorem readHost_rest {scheme cs more : List Char} {host : Host} {port : Option Nat}
    {named : Bool} (hSpecial : isSpecial scheme = true)
    (hRead : readHost scheme named cs = .ok (host, port, more)) (hPlain : '\\' ∉ cs) :
    more = [] := by
  have hRest := spanHost_rest false cs
  rcases hHost : spanHost false cs with ⟨name, rest⟩
  rw [hHost] at hRest
  simp only [readHost, hHost, hSpecial, if_true] at hRead
  split at hRead
  · cases hRead
  · cases hDomain : Host.ofDomain name with
    | error e => simp [hDomain, bind, Except.bind] at hRead
    | ok found =>
        cases hPort : readPort scheme rest with
        | error e => simp [hDomain, hPort, bind, Except.bind] at hRead
        | ok read =>
            simp only [hDomain, hPort, bind, Except.bind, pure, Except.pure] at hRead
            cases hRead
            exact readPort_rest hPort hRest hPlain

/-- A URL behind its two slashes, with text at the end. All but the path is read from what stands in
front. -/
theorem exists_withHost_eq {scheme body : List Char} (hSpecial : isSpecial scheme = true)
    (hPlain : ∀ c ∈ body, isPathEnd c = false) :
    ∃ (read : Except ParseError Url) (path : List Char),
      (∀ url, read = .ok url → url.scheme = scheme ∧ url.query = none ∧ url.fragment = none) ∧
      (∀ c ∈ path.head?, isSlash true c = true) ∧
      ∀ more : List Char, (∀ c ∈ more.head?, c = '/') → (∀ c ∈ more, isPathEnd c = false) →
        withHost scheme (body ++ more) =
          read.map fun url => { url with path := hostPath true false (path ++ more) } := by
  let inAuthority (c : Char) : Bool := !isSlash true c && !isPathEnd c
  let authority := body.takeWhile inAuthority
  let marked := (cutLast? '@' authority).getD ([], authority)
  let user := readCredentials marked.1
  have hPlace : '\\' ∉ marked.2 := by
    have hAuthority : '\\' ∉ authority := fun hBack =>
      absurd (List.mem_takeWhile_imp hBack) (by simp [inAuthority, isSlash])
    cases hCut : cutLast? '@' authority with
    | none => simpa [marked, hCut] using hAuthority
    | some cut =>
        simp only [marked, hCut, Option.getD_some]
        exact fun hBack => hAuthority (mem_of_cutLast? hCut hBack)
  refine ⟨(readHost scheme false marked.2).map fun found =>
      { scheme, username := user.1, password := user.2, host := some found.1, port := found.2.1 },
    body.dropWhile inAuthority, fun url hUrl => ?_, fun c hc => ?_, fun more hSlash hMore => ?_⟩
  · cases hRead : readHost scheme false marked.2 with
    | error e => rw [hRead] at hUrl; cases hUrl
    | ok read => rw [hRead] at hUrl; cases hUrl; exact ⟨rfl, rfl, rfl⟩
  · have hEnd := List.head?_dropWhile_not inAuthority body
    rw [hc] at hEnd
    have hMem := (List.dropWhile_sublist inAuthority).subset (List.mem_of_head? hc)
    simpa [inAuthority, hPlain c hMem] using hEnd
  · have hStop : ∀ c ∈ more.head?, inAuthority c = false := by
      intro c hc
      rw [hSlash c hc]
      rfl
    have hSpan : (body ++ more).span inAuthority = (authority, body.dropWhile inAuthority ++ more) :=
      span_append hStop body
    have hPath : (body.dropWhile inAuthority ++ more).span (fun c => !isPathEnd c) =
        (body.dropWhile inAuthority ++ more, []) := by
      refine span_of_forall fun c hc => ?_
      rcases List.mem_append.mp hc with hBody | hEnd
      · simp [hPlain c ((List.dropWhile_sublist _).subset hBody)]
      · simp [hMore c hEnd]
    simp only [withHost, hSpecial]
    rw [hSpan]
    dsimp only
    rw [readHost_eq hSpecial]
    change (readHost scheme false marked.2 >>= _) = _
    cases hRead : readHost scheme false marked.2 with
    | error e => rfl
    | ok read =>
        obtain ⟨host, port, left⟩ := read
        obtain rfl := readHost_rest hSpecial hRead hPlace
        dsimp only [bind, Except.bind, Except.map]
        rw [List.nil_append, hPath]
        rfl

/-! ### The whole URL -/

/-- The same URL with another path. -/
def withSegments (url : Url) (parts : List (List Char)) : Url := { url with path := .segments parts }

@[simp] theorem pathChars_withSegments (url : Url) (parts : List (List Char)) :
    (url.withSegments parts).pathChars = parts.flatMap ('/' :: ·) := rfl

@[simp] theorem pathChars_addPairs (url : Url) (pairs : List (String × String)) :
    (url.addPairs pairs).pathChars = url.pathChars := rfl

/-- Empty segments are slashes. -/
theorem flatMap_replicate_nil (count : Nat) :
    (List.replicate count ([] : List Char)).flatMap ('/' :: ·) = List.replicate count '/' := by
  induction count with
  | zero => rfl
  | succ count ih => rw [List.replicate_succ, List.flatMap_cons, ih]; rfl

/-- A text without its tabs and line breaks. -/
def withoutBreaks (text : List Char) : List Char := text.filter fun c => c ∉ ['\t', '\n', '\r']

/-- Nothing is dropped at ends that are visible. -/
theorem clean_of_visible {text : List Char} (hFirst : ∀ c ∈ text.head?, 0x20 < c.toNat)
    (hLast : ∀ c ∈ text.getLast?, 0x20 < c.toNat) : clean text = withoutBreaks text := by
  have hStay {cs : List Char} (hHead : ∀ c ∈ cs.head?, 0x20 < c.toNat) :
      cs.dropWhile (fun c => decide (c.toNat ≤ 0x20)) = cs := by
    cases cs with
    | nil => rfl
    | cons c cs => exact List.dropWhile_cons_of_neg (by simpa using hHead c rfl)
  rw [clean, hStay hFirst, Text.dropEndWhile, hStay, List.reverse_reverse, withoutBreaks]
  rwa [List.head?_reverse]

/-- The schemes that a load can write to. -/
def IsWeb (scheme : List Char) : Prop := scheme = "http".toList ∨ scheme = "https".toList

namespace IsWeb

variable {scheme : List Char}

theorem special (hScheme : IsWeb scheme) : isSpecial scheme = true := by
  rcases hScheme with rfl | rfl <;> rfl

theorem visible (hScheme : IsWeb scheme) (text : List Char) :
    ∀ c ∈ (scheme ++ text).head?, 0x20 < c.toNat := by
  rcases hScheme with rfl | rfl <;> simp

theorem scheme?_eq (hScheme : IsWeb scheme) (text : List Char) :
    scheme? (scheme ++ ':' :: text) = some (scheme, text) := by
  rcases hScheme with rfl | rfl <;> rfl

theorem withoutBreaks_eq (hScheme : IsWeb scheme) (text : List Char) :
    withoutBreaks (scheme ++ ':' :: text) = scheme ++ ':' :: withoutBreaks text := by
  rcases hScheme with rfl | rfl <;> simp [withoutBreaks]

/-- A web scheme in front of its colon. -/
theorem parse_eq {s : String} {rest : List Char} (hScheme : IsWeb scheme)
    (hClean : clean s.toList = scheme ++ ':' :: rest) :
    parse s = withHost scheme (rest.dropWhile (isSlash true)) := by
  rw [parse, hClean, hScheme.scheme?_eq]
  rcases hScheme with rfl | rfl <;> rfl

end IsWeb

/-- All but the path of a URL of the web, and the segments of its path, do not change when a slash
and a name come to its end. -/
theorem exists_parse_eq {scheme body : List Char} (hScheme : IsWeb scheme)
    (hPlain : ∀ c ∈ body, isPathEnd c = false) (hNamed : ∃ c ∈ body, isSlash true c = false) :
    ∃ (read : Except ParseError Url) (parts : List (List Char)),
      (∀ url, read = .ok url → url.scheme = scheme ∧ url.query = none ∧ url.fragment = none) ∧
      (∀ s : String, clean s.toList = scheme ++ ':' :: (body ++ ['/']) →
        parse s = read.map fun url => url.withSegments (parts ++ [[]])) ∧
      (∀ s : String, clean s.toList = scheme ++ ':' :: (body ++ '/' :: writeSegment) →
        parse s = read.map fun url => url.withSegments (parts ++ [writeSegment])) ∧
      ∀ (s : String) (slashes : Nat),
        clean s.toList = scheme ++ ':' :: (body ++ List.replicate slashes '/') →
          ∃ count,
            parse s = read.map fun url => url.withSegments (parts ++ List.replicate count []) := by
  have hRest : ∀ c ∈ body.dropWhile (isSlash true), isPathEnd c = false :=
    fun c hc => hPlain c ((List.dropWhile_sublist _).subset hc)
  have hDrop (more : List Char) : (body ++ more).dropWhile (isSlash true) =
      body.dropWhile (isSlash true) ++ more := by
    obtain ⟨c, hc, hOther⟩ := hNamed
    rw [List.dropWhile_append, if_neg]
    rw [List.isEmpty_iff, List.dropWhile_eq_nil_iff]
    exact fun hAll => by simp [hAll c hc] at hOther
  obtain ⟨read, path, hRead, hFirst, hHost⟩ := exists_withHost_eq hScheme.special hRest
  obtain ⟨parts, hOne, hName, hSlashes⟩ := exists_hostPath_eq hFirst
  refine ⟨read, parts, hRead, fun s hs => ?_, fun s hs => ?_, fun s slashes hs => ?_⟩
  · rw [hScheme.parse_eq hs, hDrop, hHost _ (by simp) (by simp [isPathEnd]), hOne]
    rfl
  · rw [hScheme.parse_eq hs, hDrop, hHost _ (by simp) (by simp [writeSegment, isPathEnd]), hName]
    rfl
  · obtain ⟨count, hCount⟩ := hSlashes slashes
    refine ⟨count, ?_⟩
    rw [hScheme.parse_eq hs, hDrop, hHost _ ?_ ?_, hCount]
    · rfl
    · cases slashes <;> simp [List.replicate_succ]
    · intro c hc
      rw [List.eq_of_mem_replicate hc]
      rfl

end BulkLoad.Url
