import BulkLoad.Proofs.Write.Packing
import BulkLoad.Proofs.Write.Settling

/-!
What a server accepts.

The requests that are made in a world are answered in order. A write that ends well ends with the only
one of its requests that was accepted, so the bodies accepted in a world are those of the writes that
ended well, each of them once and in order.
-/
namespace BulkLoad

namespace Reply

/-- Whether a body was accepted. -/
def accepts : Reply → Bool
  | .response status _ => status = 204
  | _ => false

theorem accepts_iff (reply : Reply) : reply.accepts = true ↔ reply.verdict = .written := by
  cases reply with
  | transportError message => simp [accepts, verdict]
  | crashed => simp [accepts, verdict]
  | response status body =>
      simp only [accepts, decide_eq_true_eq, verdict, classify]
      by_cases hSuccess : status = successStatus
      · simp [hSuccess, successStatus]
      · have hOther : status ≠ 204 := hSuccess
        by_cases hOverload : status = overloadStatus ∧ isOverload body = true
        · simp only [if_neg hSuccess, if_pos hOverload, hOther, reduceCtorEq]
        · simp only [if_neg hSuccess, if_neg hOverload, hOther, reduceCtorEq]

end Reply

/-- The body that a text is sent in. -/
def packed (codec : Gzip.Codec) (gzip : Bool) (text : Bytes) : Bytes :=
  if gzip then codec.encode text else text

namespace Request

variable {codec : Gzip.Codec}

/-- The text that a request brings, if it can be read. -/
def text? (codec : Gzip.Codec) (r : Request) : Option Bytes :=
  if r.gzip then codec.decode? r.body else some r.body

theorem text?_of_packed (hCodec : codec.Faithful) {r : Request} {text : Bytes}
    (hBody : r.body = packed codec r.gzip text) : r.text? codec = some text := by
  unfold text?
  rw [hBody, packed]
  by_cases hGzip : r.gzip = true
  · rw [if_pos hGzip, if_pos hGzip, hCodec]
  · rw [if_neg hGzip, if_neg hGzip]

theorem mapM_text?_of_packed (hCodec : codec.Faithful) {gzip : Bool} {requests : List Request}
    {texts : List Bytes} (hAlike : ∀ r ∈ requests, r.gzip = gzip)
    (hBodies : requests.map Request.body = texts.map (packed codec gzip)) :
    requests.mapM (text? codec) = some texts := by
  induction requests generalizing texts with
  | nil =>
      obtain rfl : texts = [] := by simpa using hBodies.symm
      rfl
  | cons r requests ih =>
      cases texts with
      | nil => cases hBodies
      | cons text texts =>
          obtain ⟨hFirst, hRest⟩ := List.cons.inj hBodies
          obtain rfl := hAlike r List.mem_cons_self
          rw [List.mapM_cons, text?_of_packed hCodec hFirst,
            ih (fun q hq => hAlike q (List.mem_cons_of_mem r hq)) hRest]
          rfl

end Request

namespace World

variable {first w : World} {made : List Request} {d : Destination}

/-- Those of the requests made in a world, from its first answer on, that were accepted. -/
def accepted (first : World) (made : List Request) : List Request :=
  (made.zipIdx.filter fun (r, i) => (first.answer r.destination i).reply.accepts).map Prod.fst

theorem accepted_append_singleton (first : World) (made : List Request) (r : Request) :
    first.accepted (made ++ [r]) = first.accepted made ++
      if (first.answer r.destination made.length).reply.accepts then [r] else [] := by
  rw [accepted, List.zipIdx_append, List.filter_append, List.map_append, ← accepted]
  congr 1
  by_cases hAccepts : (first.answer r.destination made.length).reply.accepts = true
  · simp [hAccepts]
  · simp [hAccepts]

/-- A request that is made again and again counts when it is accepted. -/
theorem accepted_append_replicate {r : Request} {n : Nat}
    (hEarlier : ∀ i < n, (first.answer r.destination (made.length + i)).reply.accepts = false)
    (hLast : (first.answer r.destination (made.length + n)).reply.accepts = true) :
    first.accepted (made ++ List.replicate (n + 1) r) = first.accepted made ++ [r] := by
  have hNone (k : Nat) (hk : k ≤ n) :
      first.accepted (made ++ List.replicate k r) = first.accepted made := by
    induction k with
    | zero => rw [List.replicate_zero, List.append_nil]
    | succ k ih =>
        rw [List.replicate_succ', ← List.append_assoc, accepted_append_singleton,
          ih (Nat.le_of_succ_le hk), List.length_append, List.length_replicate, hEarlier k hk]
        simp
  rw [List.replicate_succ', ← List.append_assoc, accepted_append_singleton, hNone n (Nat.le_refl n),
    List.length_append, List.length_replicate, hLast, if_pos rfl]

/-- A world after some requests, all to one destination and of one kind, of which those with these
bodies were accepted. -/
structure Accepts (first : World) (d : Destination) (gzip : Bool) (made : List Request)
    (bodies : List Bytes) (w : World) : Prop where
  requests : w.requests = first.requests ++ made
  answers : w.answers = first.answers.drop made.length
  fallback : w.fallback = first.fallback
  alike : ∀ r ∈ made, r.destination = d ∧ r.gzip = gzip
  bodies : (first.accepted made).map Request.body = bodies

/-- The requests that were made since an earlier state of a world. -/
def since (first w : World) : List Request := w.requests.drop first.requests.length

/-- The texts that were accepted since, as one. -/
def acceptedText? (codec : Gzip.Codec) (first w : World) : Option Bytes :=
  ((first.accepted (first.since w)).mapM (Request.text? codec)).map List.flatten

theorem mem_of_mem_accepted {r : Request} (hAccepted : r ∈ first.accepted made) : r ∈ made := by
  obtain ⟨⟨request, i⟩, hFiltered, rfl⟩ := List.mem_map.mp hAccepted
  exact List.fst_mem_of_mem_zipIdx (List.mem_filter.mp hFiltered).1

theorem Accepts.nothing (first : World) (d : Destination) (gzip : Bool) :
    first.Accepts d gzip [] [] first :=
  ⟨by simp, rfl, rfl, nofun, rfl⟩

theorem Accepts.since_eq {gzip : Bool} {bodies : List Bytes}
    (hAccepts : first.Accepts d gzip made bodies w) : first.since w = made := by
  rw [since, hAccepts.requests, List.drop_left]

/-- Texts that were packed and accepted can be read. -/
theorem Accepts.acceptedText?_eq {codec : Gzip.Codec} (hCodec : codec.Faithful) {gzip : Bool}
    {texts : List Bytes} (hAccepts : first.Accepts d gzip made (texts.map (packed codec gzip)) w) :
    first.acceptedText? codec w = some texts.flatten := by
  have hAlike : ∀ r ∈ first.accepted made, r.gzip = gzip := fun r hr =>
    (hAccepts.alike r (mem_of_mem_accepted hr)).2
  rw [acceptedText?, hAccepts.since_eq, Request.mapM_text?_of_packed hCodec hAlike hAccepts.bodies]
  rfl

/-- The answers go on where they were left. -/
theorem Accepts.answer {gzip : Bool} {bodies : List Bytes}
    (hAccepts : first.Accepts d gzip made bodies w) (i : Nat) :
    w.answer d i = first.answer d (made.length + i) := by
  rw [World.answer, World.answer, hAccepts.answers, hAccepts.fallback, List.getElem?_drop]

end World

namespace Controller

variable {c : Controller} {r : Answers} {w : Writing} {clock n : Nat}

/-- How an answer ends a write, if it ends one. -/
inductive EndsWith (x : Exchange) : WriteEnd → Prop where
  | written (hVerdict : x.reply.verdict = .written) : EndsWith x (.written x.took)
  | refused {message : String} (hVerdict : x.reply.verdict = .refused message) (attempts : Nat) :
      EndsWith x (.failed (.retriesExhausted attempts message))
  | crashed (hVerdict : x.reply.verdict = .crashed) : EndsWith x .crashed

theorem endsWith_of_step {x : Exchange} {ended : WriteEnd} (hStep : (c.step w x).1 = some ended) :
    EndsWith x ended := by
  unfold step at hStep
  dsimp only at hStep
  split at hStep
  · rename_i hVerdict
    cases hStep
    exact .crashed hVerdict
  · rename_i hVerdict
    cases hStep
    exact .written hVerdict
  · cases hStep
  · rename_i message hVerdict
    split at hStep
    · cases hStep
    · cases hStep
      exact .refused hVerdict _

/-- A write goes on from an overload or a refusal only. -/
theorem verdict_of_step_none {x : Exchange} (hStep : (c.step w x).1 = none) :
    x.reply.verdict ≠ .written ∧ x.reply.verdict ≠ .crashed := by
  constructor <;> intro hVerdict <;> simp [step, hVerdict] at hStep

/-- A write that is going on has been ended by no answer. -/
theorem of_after_open (hOpen : (c.after clock r n).ended = none) :
    (c.after clock r n).sentAt.length = n ∧
      ∀ i < n, r.verdict i ≠ .written ∧ r.verdict i ≠ .crashed := by
  induction n with
  | zero => exact ⟨rfl, nofun⟩
  | succ n ih =>
      have hBefore : (c.after clock r n).ended = none := by
        by_contra hEnded
        rw [after_eq_of_ended hEnded (Nat.le_succ n)] at hOpen
        exact hEnded hOpen
      obtain ⟨hLength, hEarlier⟩ := ih hBefore
      rw [after_succ_of_open hBefore] at hOpen ⊢
      refine ⟨by rw [List.length_cons, hLength], fun i hi => ?_⟩
      rcases Nat.lt_succ_iff_lt_or_eq.mp hi with hLess | rfl
      · exact hEarlier i hLess
      · exact verdict_of_step_none hOpen

/-- A write that has ended was ended by the last answer that it got. -/
theorem of_after_ended {ended : WriteEnd} (hEnded : (c.after clock r n).ended = some ended) :
    ∃ k, (∀ i < k, r.verdict i ≠ .written ∧ r.verdict i ≠ .crashed) ∧ EndsWith (r k) ended ∧
      (c.after clock r n).sentAt.length = k + 1 := by
  induction n with
  | zero => cases hEnded
  | succ n ih =>
      by_cases hBefore : (c.after clock r n).ended = none
      · obtain ⟨hLength, hEarlier⟩ := of_after_open hBefore
        rw [after_succ_of_open hBefore] at hEnded ⊢
        exact ⟨n, hEarlier, endsWith_of_step hEnded, by rw [List.length_cons, hLength]⟩
      · rw [after_eq_of_ended hBefore (Nat.le_succ n)] at hEnded ⊢
        exact ih hEnded

/-- However a write ends, it has followed a first part of the answers. -/
theorem exists_after_of_followWorld (c : Controller) (clock : Nat) (world : World) :
    ∃ asked, c.followWorld (c.begin clock) world =
      c.after clock (world.answer c.destination) asked := by
  rcases hRun : c.follow (c.begin clock) [] world.answers with ⟨ended, writing, sentAt⟩
  cases ended with
  | some ended => exact ⟨world.answers.length, by rw [after_listed, followWorld, hRun]⟩
  | none =>
      refine ⟨world.answers.length +
        c.patience writing.attempt (world.fallback c.destination), ?_⟩
      rw [after, World.map_answer_range, follow_append_of_open _ (by rw [hRun]), hRun, followWorld,
        hRun]

/-- A write that ends well adds its body to those accepted. -/
theorem accepts_write {first world : World} {gzip : Bool} {made : List Request}
    {bodies : List Bytes} (hAccepts : first.Accepts c.destination gzip made bodies world)
    {body : Bytes} {latency : Nat} (hEnded : (c.write world body gzip).ended = .written latency) :
    ∃ more, first.Accepts c.destination gzip (made ++ more) (bodies ++ [body])
      (c.write world body gzip).world := by
  obtain ⟨asked, hRun⟩ := exists_after_of_followWorld c world.clock world
  have hWrite : c.followWorld { tracker := c.tracker, clock := world.clock } world =
    c.after world.clock (world.answer c.destination) asked := hRun
  have hWritten :
      (c.after world.clock (world.answer c.destination) asked).ended = some (.written latency) := by
    rw [write, hWrite] at hEnded
    cases hAfter : (c.after world.clock (world.answer c.destination) asked).ended with
    | none => simp [hAfter] at hEnded
    | some ended => simpa [hAfter] using hEnded
  obtain ⟨k, hEarlier, hEnds, hLength⟩ := of_after_ended hWritten
  have hLast : (world.answer c.destination).verdict k = .written := by
    obtain ⟨hVerdict⟩ := hEnds
    exact hVerdict
  have hSame (i : Nat) : (world.answer c.destination).verdict i =
      (first.answer c.destination (made.length + i)).reply.verdict := by
    rw [Answers.verdict, hAccepts.answer]
  refine ⟨List.replicate (k + 1) ⟨c.destination, gzip, body⟩, ?_, ?_, ?_, ?_, ?_⟩
  · have hReceived := requests_receive world ⟨c.destination, gzip, body⟩
      (c.after world.clock (world.answer c.destination) asked).sentAt
    rw [hLength, hAccepts.requests, List.append_assoc] at hReceived
    rw [write, hWrite]
    exact hReceived
  · rw [write, hWrite, hLength, hAccepts.answers, List.drop_drop, List.length_append,
      List.length_replicate]
  · exact hAccepts.fallback
  · intro request hRequest
    rcases List.mem_append.mp hRequest with hBefore | hNew
    · exact hAccepts.alike request hBefore
    · rw [(List.mem_replicate.mp hNew).2]
      exact ⟨rfl, rfl⟩
  · rw [World.accepted_append_replicate, List.map_append, hAccepts.bodies]
    · rfl
    · intro i hi
      have hNot := (hEarlier i hi).1
      rw [hSame, Ne, ← Reply.accepts_iff, Bool.not_eq_true] at hNot
      exact hNot
    · rw [hSame, ← Reply.accepts_iff] at hLast
      exact hLast

end Controller
end BulkLoad
