import Mathlib.Tactic.MkIffOfInductiveProp
import BulkLoad.Influx.Http
import BulkLoad.Proofs.Influx.Delivery
import BulkLoad.Proofs.Url.Joined

/-!
The URLs that a load writes to.

A rule of the configuration looks at how a URL begins. Whether it is one is found when a worker
connects, with the endpoint at its end.
-/
namespace BulkLoad

namespace Config

/-- The scheme in front of a web address. -/
theorem exists_prefix_of_isHttpUrl {url : String} (hHttp : isHttpUrl url = true) :
    ∃ scheme rest, Url.IsWeb scheme ∧ url.toList = scheme ++ ':' :: '/' :: '/' :: rest := by
  rw [isHttpUrl, Bool.or_eq_true, String.startsWith_string_iff, String.startsWith_string_iff] at hHttp
  rcases hHttp with ⟨rest, hRest⟩ | ⟨rest, hRest⟩
  · exact ⟨_, rest, .inl rfl, hRest.symm⟩
  · exact ⟨_, rest, .inr rfl, hRest.symm⟩

theorem isHttpUrl_of_validate {c : Config} (hValid : c.validate = .ok ()) :
    ∀ url ∈ c.influx.urls, isHttpUrl url = true :=
  (acceptable_of_validate hValid).web

theorem urls_ne_nil_of_validate {c : Config} (hValid : c.validate = .ok ()) :
    c.influx.urls ≠ [] :=
  (acceptable_of_validate hValid).urls

end Config

namespace Http

open Url (clean isPathEnd isSlash parse scheme? withoutBreaks writeSegment)

/-- A base at whose end a path can be put, as it is written: it has no query and no fragment, nothing
at its ends is dropped, something stands behind its scheme, and with one slash at its end its path
ends in one slash. -/
@[mk_iff]
structure Joinable (base : String) : Prop where
  unmarked : ∀ c ∈ base.toList, isPathEnd c = false
  trimmed : clean base.toList = withoutBreaks base.toList
  named : ∀ scheme rest, scheme? (clean base.toList) = some (scheme, rest) →
    ∃ c ∈ rest, isSlash true c = false
  settled : ∀ url, parse (String.ofList (withoutSlashes base) ++ "/") = .ok url →
    ¬ ['/', '/'] <:+ url.pathChars

/-- The same by looking. -/
def joinable (base : String) : Bool :=
  base.toList.all (fun c => !isPathEnd c)
    && clean base.toList = withoutBreaks base.toList
    && (scheme? (clean base.toList)).all (fun front => front.2.any fun c => !isSlash true c)
    && match parse (String.ofList (withoutSlashes base) ++ "/") with
      | .ok url => !List.isSuffixOf ['/', '/'] url.pathChars
      | .error _ => true

theorem joinable_eq_true_iff (base : String) : joinable base = true ↔ Joinable base := by
  rw [joinable_iff, joinable]
  cases parse (String.ofList (withoutSlashes base) ++ "/") <;>
    simp [Option.all_eq_true, ← List.isSuffixOf_iff_suffix, and_assoc]

instance (base : String) : Decidable (Joinable base) :=
  decidable_of_iff _ (joinable_eq_true_iff base)

/-- The URL of the write endpoint below another one. -/
structure Below (c : InfluxConfig) (base url : Url) : Prop where
  scheme : url.scheme = base.scheme
  username : url.username = base.username
  password : url.password = base.password
  host : url.host = base.host
  port : url.port = base.port
  path : url.pathChars = Text.dropEndWhile (· = '/') base.pathChars ++ endpoint.toList
  query : url.query = some (Url.Form.append [] (writePairs c))
  fragment : url.fragment = none

/-- A base of the web by its parts: what the reader keeps of it, with its trailing slashes, with one
and with the endpoint in their place. -/
theorem Joinable.exists_clean_eq {base : String} (hHttp : Config.isHttpUrl base = true)
    (hJoin : Joinable base) :
    ∃ (scheme body : List Char) (slashes : Nat),
      Url.IsWeb scheme ∧ scheme ++ "://".toList <+: base.toList ∧
      (∀ c ∈ body, isPathEnd c = false) ∧ (∃ c ∈ body, isSlash true c = false) ∧
      clean base.toList = scheme ++ ':' :: (body ++ List.replicate slashes '/') ∧
      clean (String.ofList (withoutSlashes base) ++ "/").toList =
        scheme ++ ':' :: (body ++ ['/']) ∧
      clean (String.ofList (withoutSlashes base) ++ endpoint).toList =
        scheme ++ ':' :: (body ++ '/' :: writeSegment) := by
  obtain ⟨scheme, rest, hScheme, hBase⟩ := Config.exists_prefix_of_isHttpUrl hHttp
  obtain ⟨slashes, hSlashes⟩ := Url.exists_dropEndWhile_append '/' ('/' :: '/' :: rest)
  generalize hFront : Text.dropEndWhile (· = '/') ('/' :: '/' :: rest) = front at hSlashes
  have hWithout : withoutSlashes base = scheme ++ ':' :: front := by
    rw [withoutSlashes, hBase, Url.dropEndWhile_append_cons (by decide), hFront]
  have hClean : clean base.toList =
      scheme ++ ':' :: (withoutBreaks front ++ List.replicate slashes '/') := by
    rw [hJoin.trimmed, hBase, hSlashes, hScheme.withoutBreaks_eq, withoutBreaks, List.filter_append,
      List.filter_replicate_of_pos (by decide)]
    rfl
  have hJoined {more : String} {last : Char} (hEnd : more.toList.getLast? = some last)
      (hLast : 0x20 < last.toNat) (hKept : withoutBreaks more.toList = more.toList) :
      clean (String.ofList (withoutSlashes base) ++ more).toList =
        scheme ++ ':' :: (withoutBreaks front ++ more.toList) := by
    rw [hWithout, String.toList_append, String.toList_ofList, List.append_assoc, List.cons_append,
      Url.clean_of_visible (hScheme.visible _), hScheme.withoutBreaks_eq, withoutBreaks,
      List.filter_append]
    · rw [← withoutBreaks, ← withoutBreaks, hKept]
    · simp [List.getLast?_append, List.getLast?_cons, hEnd, hLast]
  refine ⟨scheme, withoutBreaks front, slashes, hScheme, ⟨rest, by rw [hBase]; simp⟩, fun c hc => ?_,
    ?_, hClean, hJoined rfl (by decide) rfl, hJoined rfl (by decide) rfl⟩
  · have hMem : c ∈ front := (List.mem_filter.mp hc).1
    refine hJoin.unmarked c ?_
    rw [hBase, hSlashes]
    simp [hMem]
  · obtain ⟨c, hc, hOther⟩ := hJoin.named scheme _ (hClean ▸ hScheme.scheme?_eq _)
    rcases List.mem_append.mp hc with hFound | hSlash
    · exact ⟨c, hFound, hOther⟩
    · rw [List.eq_of_mem_replicate hSlash] at hOther
      cases hOther

/-- Below a base that is a URL the endpoint is put at the end of its path, whatever else is written;
one that is none is named. -/
theorem writeUrl_of_joinable {base : String} (hHttp : Config.isHttpUrl base = true)
    (hJoin : Joinable base) (c : InfluxConfig) :
    (∀ e, parse base = .error e →
      writeUrl base c = .error (.configRule urlsField (base ++ ": " ++ e.message))) ∧
    ∀ read, parse base = .ok read → read.scheme ++ "://".toList <+: base.toList ∧
      ∃ url, writeUrl base c = .ok url ∧ Below c read url := by
  obtain ⟨scheme, body, slashes, hScheme, hStart, hPlain, hNamed, hBase, hOne, hEndpoint⟩ :=
    hJoin.exists_clean_eq hHttp
  obtain ⟨frame, parts, hFrame, hParseOne, hParseEnd, hParseBase⟩ :=
    Url.exists_parse_eq hScheme hPlain hNamed
  obtain ⟨count, hRead⟩ := hParseBase base slashes hBase
  have hSettled := hJoin.settled
  rw [hParseOne _ hOne] at hSettled
  rw [writeUrl, hParseEnd _ hEndpoint, hRead]
  cases frame with
  | error e =>
      refine ⟨fun e' hError => ?_, fun read hOk => by cases hOk⟩
      cases hError
      rfl
  | ok url =>
      obtain ⟨hUrlScheme, hQuery, hFragment⟩ := hFrame url rfl
      refine ⟨fun e hError => ?_, fun read hOk => ?_⟩
      · cases hError
      · cases hOk
        have hEnd : ¬ ['/'] <:+ parts.flatMap ('/' :: ·) := by
          rintro ⟨before, hBefore⟩
          refine hSettled _ rfl ⟨before, ?_⟩
          rw [Url.pathChars_withSegments, List.flatMap_append, ← hBefore]
          simp
        refine ⟨hUrlScheme ▸ hStart, _, rfl, rfl, rfl, rfl, rfl, rfl, ?_, ?_, hFragment⟩
        · rw [Url.pathChars_addPairs, Url.pathChars_withSegments, Url.pathChars_withSegments,
            List.flatMap_append, List.flatMap_append, Url.flatMap_replicate_nil,
            Url.dropEndWhile_append_replicate '/' hEnd]
          rfl
        · have hNone : (url.withSegments (parts ++ [writeSegment])).query = none := hQuery
          rw [Url.addPairs, hNone]
          rfl

/-- A configuration that is accepted has a URL for each worker, and below each URL that the endpoint
can be put to as it is written, the endpoint has its scheme, host and port and its path. That such a
URL is none is found when a worker connects, and named. -/
theorem connect_of_validate {config : Config} (hValid : config.validate = .ok ()) :
    (∀ worker, ∃ base ∈ config.influx.urls, ((connector config.influx).connect worker).1 =
      (writeUrl base config.influx).map fun url => ⟨worker, url.text⟩) ∧
    ∀ base ∈ config.influx.urls, Joinable base → ∀ c : InfluxConfig,
      (∀ e, parse base = .error e →
        writeUrl base c = .error (.configRule urlsField (base ++ ": " ++ e.message))) ∧
      ∀ read, parse base = .ok read → read.scheme ++ "://".toList <+: base.toList ∧
        ∃ url, writeUrl base c = .ok url ∧ Below c read url := by
  refine ⟨fun worker => ?_, fun base hBase hJoin c =>
    writeUrl_of_joinable (Config.isHttpUrl_of_validate hValid base hBase) hJoin c⟩
  obtain ⟨base, hBase⟩ := Option.isSome_iff_exists.mp
    (InfluxConfig.urlFor?_isSome (Config.urls_ne_nil_of_validate hValid) worker)
  refine ⟨base, List.mem_of_getElem? hBase, ?_⟩
  simp only [connector, workerUrl, hBase]
  cases writeUrl base config.influx <;> rfl

/-- An accepted configuration whose URL has one slash at its end. -/
def slashed : Config := { influx := { urls := ["http://[::1]:8086/"] } }

theorem connect_of_validate_slashed :
    slashed.validate = .ok () ∧ Joinable "http://[::1]:8086/" ∧
      ∃ read url, parse "http://[::1]:8086/" = .ok read ∧
        writeUrl "http://[::1]:8086/" slashed.influx = .ok url ∧ Below slashed.influx read url := by
  have hValid : slashed.validate = .ok () := by
    have hNone : slashed.violations = [] := by decide +kernel
    rw [Config.validate, hNone]
  have hJoin : Joinable "http://[::1]:8086/" := by decide +kernel
  have hUrl : (parse "http://[::1]:8086/").isOk = true := by decide +kernel
  cases hRead : parse "http://[::1]:8086/" with
  | error e => rw [hRead] at hUrl; cases hUrl
  | ok read =>
      obtain ⟨-, url, hWrite, hBelow⟩ := ((connect_of_validate hValid).2 _
        (List.mem_singleton.mpr rfl) hJoin slashed.influx).2 read hRead
      exact ⟨hValid, hJoin, read, url, rfl, hWrite, hBelow⟩

/-- Two bases of which nothing is said: the endpoint would be the host, or stand behind an empty segment
that points lead to. -/
example : ¬ Joinable "http://" ∧ ¬ Joinable "http://[::1]/db//." := by decide +kernel

/-- An accepted configuration whose URL has no such port. -/
def portless : Config := { influx := { urls := ["http://[::1]:99999"] } }

/-- No worker can connect there. -/
theorem writeUrl_portless : portless.validate = .ok () ∧
    writeUrl "http://[::1]:99999" portless.influx =
      .error (.configRule urlsField "http://[::1]:99999: invalid port number") ∧
    ((connector portless.influx).connect 0).1 =
      .error (.configRule urlsField "http://[::1]:99999: invalid port number") := by
  have hNone : portless.violations = [] := by decide +kernel
  exact ⟨by rw [Config.validate, hNone], rfl, rfl⟩

end Http
end BulkLoad
