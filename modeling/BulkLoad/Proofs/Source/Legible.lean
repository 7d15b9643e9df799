import BulkLoad.Proofs.Source.Requests

/-!
What can be a point of a source of lines.

A source never gives a point that holds a newline, that is blank, that begins with `#` or that ends in
a carriage return, and it can give every other one. So points written line by line are read back.
-/
namespace BulkLoad.Source

/-- A point that some source of lines has given, whatever it was made of, whatever reads failed, and
whatever else was asked of it. -/
def Given (p : Point) : Prop :=
  ∃ (chunks : List Chunk) (broken : Option String) (requests : List Request),
    Answer.point (.ok (some p)) ∈
      (Lines.serveAll { rest := Line.ofChunks chunks, broken } requests).1

/-- A point that is a line of its own. -/
def Legible (p : Point) : Prop := Line.newline ∉ p ∧ Line.point? p = some p

instance (p : Point) : Decidable (Legible p) := inferInstanceAs (Decidable (_ ∧ _))

namespace Line

/-- No line holds a newline. -/
def Parted (lines : List Line) : Prop := ∀ content, .text content ∈ lines → newline ∉ content

/-- A cut never has a newline within a line. -/
structure Cut.Parts (s : Cut) : Prop where
  complete : Parted s.complete
  begun : newline ∉ s.begun

theorem Parted.cons {lines : List Line} (hParted : Parted lines) {content : Bytes}
    (hFree : newline ∉ content) : Parted (.text content :: lines) := by
  intro other hOther
  rcases List.mem_cons.mp hOther with hSame | hLater
  · cases hSame
    exact hFree
  · exact hParted other hLater

theorem Parted.tail {line : Line} {lines : List Line} (hParted : Parted (line :: lines)) :
    Parted lines :=
  fun content hText => hParted content (List.mem_cons_of_mem line hText)

namespace Cut.Parts

variable {s : Cut}

theorem feed (hParts : s.Parts) (b : UInt8) : (s.feed b).Parts := by
  unfold Cut.feed
  split
  · exact ⟨hParts.complete.cons (by simpa using hParts.begun), List.not_mem_nil⟩
  · rename_i hOther
    refine ⟨hParts.complete, ?_⟩
    rw [List.mem_cons, not_or]
    exact ⟨Ne.symm hOther, hParts.begun⟩

theorem read (hParts : s.Parts) (chunk : Chunk) : (s.read chunk).Parts := by
  cases chunk with
  | bytes content =>
      rw [Cut.read]
      induction content generalizing s with
      | nil => exact hParts
      | cons b content ih => exact ih (hParts.feed b)
  | failure m =>
      refine ⟨fun content hText => ?_, List.not_mem_nil⟩
      rcases List.mem_cons.mp hText with hSame | hLater
      · cases hSame
      · exact hParts.complete content hLater

theorem finish (hParts : s.Parts) : Parted s.finish := by
  intro content hText
  unfold Cut.finish at hText
  split at hText
  · exact hParts.complete content (List.mem_reverse.mp hText)
  · have hFree : newline ∉ s.begun.reverse := by simpa using hParts.begun
    exact (hParts.complete.cons hFree) content (List.mem_reverse.mp hText)

end Cut.Parts

theorem parted_ofChunks (chunks : List Chunk) : Parted (ofChunks chunks) := by
  suffices hRead : ∀ s : Cut, s.Parts → (chunks.foldl Cut.read s).Parts from
    (hRead {} ⟨nofun, List.not_mem_nil⟩).finish
  induction chunks with
  | nil => exact fun s hParts => hParts
  | cons chunk chunks ih => exact fun s hParts => ih _ (hParts.read chunk)

/-- The point of a line is legible. -/
theorem legible_of_kind {content : Bytes} (hFree : newline ∉ content) {p : Point}
    (hKind : kind content = .data p) : Legible p := by
  have hPoint : point? content = some p := by rw [point?, hKind]
  refine ⟨fun hNewline => ?_, point?_of_point? hPoint⟩
  obtain ⟨rfl, -⟩ := point?_eq_some_iff.mp hPoint
  exact hFree ((Line.strip_prefix content).subset hNewline)

end Line

namespace Lines

open Line (Parted)

/-- A source that can give legible points only. -/
structure Sane (s : Lines) : Prop where
  rest : Parted s.rest
  pending : ∀ p, s.pending = some p → Legible p

theorem legible_readHead {lines : List Line} (hParted : Parted lines) (broken : Option String)
    (count : Nat) (headers : List String) :
    (∀ p, (readHead broken count headers lines).first = .ok (some p) → Legible p) ∧
      Parted (readHead broken count headers lines).rest := by
  induction lines generalizing count headers with
  | nil =>
      refine ⟨fun p hPoint => ?_, nofun⟩
      cases broken <;> cases hPoint
  | cons line lines ih =>
      have hLater := hParted.tail
      cases line with
      | failure m => exact ⟨nofun, hLater⟩
      | text content =>
          rw [readHead]
          cases hKind : Line.kind content with
          | blank => exact ih hLater (count + 1) headers
          | comment text => exact ih hLater (count + 1) (Line.headerText text :: headers)
          | data p =>
              refine ⟨fun q hPoint => ?_, hLater⟩
              cases hPoint
              exact Line.legible_of_kind (hParted content List.mem_cons_self) hKind

theorem legible_nextData {lines : List Line} (hParted : Parted lines) (broken : Option String)
    (count : Nat) :
    (∀ p, (nextData broken count lines).1 = .ok (some p) → Legible p) ∧
      Parted (nextData broken count lines).2.1 := by
  induction lines generalizing count with
  | nil =>
      refine ⟨fun p hPoint => ?_, nofun⟩
      cases broken <;> cases hPoint
  | cons line lines ih =>
      have hLater := hParted.tail
      cases line with
      | failure m => exact ⟨nofun, hLater⟩
      | text content =>
          rw [nextData]
          cases hKind : Line.kind content with
          | blank => exact ih hLater (count + 1)
          | comment text => exact ih hLater (count + 1)
          | data p =>
              refine ⟨fun q hPoint => ?_, hLater⟩
              cases hPoint
              exact Line.legible_of_kind (hParted content List.mem_cons_self) hKind

namespace Sane

variable {s : Lines}

theorem openHead (hSane : s.Sane) : s.openHead.2.1.Sane := by
  obtain ⟨hFirst, hRest⟩ := legible_readHead hSane.rest s.broken s.count []
  unfold Lines.openHead
  split
  · exact hSane
  · dsimp only
    split
    · exact ⟨hRest, hSane.pending⟩
    · rename_i first hHead
      have hPending (p : Point) (hSome : first = some p) : Legible p := hFirst p (hSome ▸ hHead)
      split
      · exact ⟨hRest, hPending⟩
      · exact ⟨hRest, hPending⟩

/-- A sane source stays sane, and a point that it gives is legible. -/
theorem serve (hSane : s.Sane) (request : Request) :
    (∀ p, (s.serve request).1 = .point (.ok (some p)) → Legible p) ∧ (s.serve request).2.Sane := by
  have hOpen := hSane.openHead
  rcases hHead : s.openHead with ⟨result, opened, told⟩
  rw [hHead] at hOpen
  change opened.Sane at hOpen
  cases request with
  | headers =>
      refine ⟨fun p hPoint => (by cases hPoint), ?_⟩
      simp only [Lines.serve, takeHeaders, hHead]
      cases result <;> exact hOpen
  | point =>
      simp only [Lines.serve, Lines.next, hHead]
      cases result with
      | error f => exact ⟨fun p hPoint => (by cases hPoint), hOpen⟩
      | ok u =>
          dsimp only
          cases hPending : opened.pending with
          | some p =>
              refine ⟨fun q hPoint => ?_, hOpen.rest, fun q hNone => by cases hNone⟩
              cases hPoint
              exact hOpen.pending p hPending
          | none =>
              obtain ⟨hNext, hRest⟩ := legible_nextData hOpen.rest opened.broken opened.count
              refine ⟨fun q hPoint => hNext q ?_, hRest, fun q hSome => ?_⟩
              · injection hPoint
              · cases hSome

theorem legible_of_mem_serveAll (hSane : s.Sane) {requests : List Request} {p : Point}
    (hPoint : Answer.point (.ok (some p)) ∈ (s.serveAll requests).1) : Legible p := by
  induction requests generalizing s with
  | nil => exact absurd hPoint List.not_mem_nil
  | cons request requests ih =>
      obtain ⟨hFirst, hNext⟩ := hSane.serve request
      rcases List.mem_cons.mp hPoint with hSame | hLater
      · exact hFirst p hSame.symm
      · exact ih hNext hLater

end Sane

end Lines

/-- What sources of lines give are the legible points. -/
theorem given_iff (p : Point) : Given p ↔ Legible p := by
  constructor
  · rintro ⟨chunks, broken, requests, hPoint⟩
    have hSane : Lines.Sane { rest := Line.ofChunks chunks, broken } :=
      ⟨Line.parted_ofChunks chunks, fun q hPending => by cases hPending⟩
    exact hSane.legible_of_mem_serveAll hPoint
  · rintro ⟨hFree, hSelf⟩
    have hNone : ∀ line ∈ ([] : List Bytes), Line.newline ∉ line := by simp
    have hParts := splitOn_flatMap hNone hFree
    have hPoints : pointsOf p = [p] := by
      rw [← dataLines_eq, dataLines]
      simpa [hSelf] using congrArg (List.filterMap Line.point?) hParts
    have hReady := Lines.ready_ofChunks [p]
    rw [List.flatten_singleton] at hReady
    refine ⟨[.bytes p], none, [.point], ?_⟩
    have hAnswer := hReady.next.1
    rw [hPoints] at hAnswer
    exact List.mem_singleton.mpr (congrArg Answer.point hAnswer.symm)

/-- Legible points that are written line by line are all there is to read. -/
theorem lines_of_legible {points : List Point} (hPoints : ∀ p ∈ points, Legible p) :
    pointsOf (points.flatMap (· ++ [Line.newline])) = points ∧
      headersOf (points.flatMap (· ++ [Line.newline])) = none := by
  have hStripped : strippedLines (points.flatMap (· ++ [Line.newline])) = points := by
    rw [strippedLines, linesOf_flatMap fun p hp => (hPoints p hp).1]
    have hSame (p : Point) (hp : p ∈ points) : Line.stripped p = p :=
      (Line.point?_eq_some_iff.mp (hPoints p hp).2).1
    exact (List.map_congr_left hSame).trans (List.map_id _)
  refine ⟨?_, ?_⟩
  · rw [← dataLines_eq]
    exact dataLines_flatMap hPoints
  · rw [headersOf, hStripped, if_pos]
    cases points with
    | nil => rfl
    | cons p points =>
        obtain ⟨-, hSome, hOther⟩ := Line.point?_eq_some_iff.mp (hPoints p List.mem_cons_self).2
        simp [Line.headersIn, Line.isData, hSome, hOther]

end BulkLoad.Source
