import BulkLoad.Influx.Http
import BulkLoad.Proofs.Url.Query

/-!
What the URL of a write says.

The pairs of a write stand behind whatever the base brought along, and whoever reads the query of the
URL finds them as they were set, with any text for the name of the database. So the URL tells apart
all configurations that differ in what a write says.
-/
namespace BulkLoad

namespace Consistency

theorem name_injective : Function.Injective name := by
  intro c d hName
  have hSame := ofName?_name c
  rw [hName, ofName?_name] at hSame
  exact (Option.some.inj hSame).symm

end Consistency

namespace Http

variable {base : String} {c : InfluxConfig} {url : Url}

/-- The text below which a write is made. -/
def endpointText (base : String) : String := String.ofList (withoutSlashes base) ++ endpoint

/-- A write has a URL just if its endpoint has one, and only adds pairs to it. -/
theorem writeUrl_eq_ok_iff : writeUrl base c = .ok url ↔
    ∃ own, Url.parse (endpointText base) = .ok own ∧ url = own.addPairs (writePairs c) := by
  unfold writeUrl endpointText
  cases hParse : Url.parse (String.ofList (withoutSlashes base) ++ endpoint) with
  | error e => simp
  | ok own => simp [eq_comm]

/-- The pairs of a write tell what they were made from. -/
theorem writePairs_inj {other : InfluxConfig} : writePairs other = writePairs c ↔
    other.consistency = c.consistency ∧ other.database = c.database ∧ other.noSync = c.noSync := by
  constructor
  · intro hSame
    simp only [writePairs, List.cons_append, List.nil_append, List.cons.injEq, Prod.mk.injEq,
      true_and] at hSame
    obtain ⟨hName, hDatabase, hSync⟩ := hSame
    refine ⟨Consistency.name_injective hName, hDatabase, ?_⟩
    cases hOther : other.noSync <;> cases hOwn : c.noSync <;> simp [hOther, hOwn] at hSync ⊢
  · rintro ⟨hConsistency, hDatabase, hSync⟩
    simp only [writePairs, hConsistency, hDatabase, hSync]

theorem toChars_addPairs (own : Url) (ps : List (String × String)) :
    (own.addPairs ps).toChars =
      own.scheme ++ ':' :: own.authority ++ own.guard ++ own.pathChars ++
        '?' :: Url.Form.append (own.query.getD []) ps ++ own.fragmentChars := rfl

/-- The text of a URL tells its query. -/
theorem text_addPairs_inj {own : Url} {ps qs : List (String × String)} :
    (own.addPairs ps).text = (own.addPairs qs).text ↔ ps = qs := by
  constructor
  · intro hText
    have hChars := String.ofList_injective hText
    rw [toChars_addPairs, toChars_addPairs] at hChars
    have hMarked := List.append_cancel_left (List.append_cancel_right hChars)
    have hPairs := congrArg Url.Form.pairs (List.cons.inj hMarked).2
    rw [Url.Form.pairs_append, Url.Form.pairs_append] at hPairs
    exact List.append_cancel_left hPairs
  · rintro rfl
    rfl

/-- The query of a write is read as the pairs that the base brought along, and behind them the
consistency, the database character for character, and that the write need not be synchronised just
if this is set. Nothing of it gets into the fragment, the rest of the URL is that of the base, and the
URLs of two configurations are alike just if what their writes say is alike. -/
theorem query_of_writeUrl (hWrite : writeUrl base c = .ok url) :
    ∃ own added, Url.parse (endpointText base) = .ok own ∧
      url = { own with query := some (own.query.getD [] ++ added) } ∧ '#' ∉ added ∧
      url.queryPairs =
        own.queryPairs ++ [("consistency", c.consistency.name), ("db", c.database)] ++
          (if c.noSync = true then [("no_sync", "true")] else []) ∧
      ∀ other : InfluxConfig, ∃ url', writeUrl base other = .ok url' ∧
        (url'.text = url.text ↔
          other.consistency = c.consistency ∧ other.database = c.database ∧
            other.noSync = c.noSync) := by
  obtain ⟨own, hOwn, rfl⟩ := writeUrl_eq_ok_iff.mp hWrite
  obtain ⟨added, hAdded, hFree⟩ := Url.Form.exists_append_eq (own.query.getD []) (writePairs c)
  refine ⟨own, added, hOwn, ?_, hFree, ?_, fun other => ?_⟩
  · rw [Url.addPairs, hAdded]
  · rw [Url.queryPairs_addPairs, List.append_assoc]
    rfl
  · refine ⟨own.addPairs (writePairs other), writeUrl_eq_ok_iff.mpr ⟨own, hOwn, rfl⟩, ?_⟩
    rw [text_addPairs_inj, writePairs_inj]

/-- A base with a query and a fragment of its own, and a database whose name looks like more of
both. -/
theorem query_of_writeUrl_injected :
    let c : InfluxConfig := { database := "a&db=b#c=1+%41 é", noSync := true }
    ∃ url own, writeUrl "http://[::1]/?db=x#y" c = .ok url ∧
      Url.parse "http://[::1]/?db=x#y/write" = .ok own ∧ own.queryPairs = [("db", "x")] ∧
      url.queryPairs = own.queryPairs ++
        [("consistency", "all"), ("db", "a&db=b#c=1+%41 é"), ("no_sync", "true")] := by
  intro c
  have hText : endpointText "http://[::1]/?db=x#y" = "http://[::1]/?db=x#y/write" := by
    decide +kernel
  have hQuery : (Url.parse "http://[::1]/?db=x#y/write").toOption.map Url.query =
      some (some "db=x".toList) := by decide +kernel
  cases hParse : Url.parse "http://[::1]/?db=x#y/write" with
  | error e => rw [hParse] at hQuery; cases hQuery
  | ok read =>
      rw [hParse] at hQuery
      have hHeld : read.queryPairs = [("db", "x")] := by
        rw [Url.queryPairs, Option.some.inj hQuery]
        decide +kernel
      have hWrite := writeUrl_eq_ok_iff (c := c).mpr ⟨read, hText ▸ hParse, rfl⟩
      obtain ⟨own, -, hOwn, -, -, hPairs, -⟩ := query_of_writeUrl hWrite
      rw [hText, hParse] at hOwn
      obtain rfl := Except.ok.inj hOwn
      exact ⟨_, read, hWrite, rfl, hHeld, hPairs.trans (List.append_assoc ..)⟩

end Http
end BulkLoad
