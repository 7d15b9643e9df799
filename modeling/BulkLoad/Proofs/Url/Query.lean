import BulkLoad.Proofs.Text.Encoded
import BulkLoad.Proofs.Url.Joined

/-!
Pairs in the query of a URL and back.

A byte is written with letters, digits and a few marks that part nothing, so the text of a name or a
value holds neither an ampersand nor an equals sign. Whatever stands in a query, the pairs that are
added to it are read as they were given.
-/
namespace BulkLoad.Url

/-! ### Bytes behind percent signs -/

/-- A digit of a byte. -/
def hexDigit (d : Nat) : Char := Hex.upper.getD d '0'

theorem percent_eq (b : UInt8) :
    percent b = ['%', hexDigit (b.toNat / 16 % 16), hexDigit (b.toNat % 16)] := rfl

theorem value?_hexDigit : ∀ d < 16, Hex.value? (hexDigit d) = some d := by decide

theorem toNat_hexDigit_lt : ∀ d < 16, (hexDigit d).toNat < 0x80 := by decide

theorem encodeChars_cons {c : Char} (hAscii : c.toNat < 0x80) (cs : List Char) :
    Utf8.encodeChars (c :: cs) = UInt8.ofNat c.toNat :: Utf8.encodeChars cs := by
  rw [Utf8.encodeChars, List.flatMap_cons, Utf8.encodeChar, if_pos hAscii]
  rfl

/-- An ASCII character is the character of its byte. -/
theorem ofNat_toNat_ofNat {c : Char} (hAscii : c.toNat < 0x80) :
    Char.ofNat (UInt8.ofNat c.toNat).toNat = c := by
  rw [Utf8.toNat_ofNat (by omega), Char.ofNat_toNat]

theorem decodeBytes_cons {b : UInt8} (hOther : b ≠ 0x25) (rest : Bytes) :
    decodeBytes (b :: rest) = b :: decodeBytes rest := by
  rw [decodeBytes]
  rintro high low more rfl
  exact absurd rfl hOther

/-- A byte behind a percent sign is read as this byte. -/
theorem decodeChars_percent (b : UInt8) (rest : List Char) :
    decodeChars (percent b ++ rest) = b :: decodeChars rest := by
  have hHigh : b.toNat / 16 % 16 < 16 := Nat.mod_lt _ (by decide)
  have hLow : b.toNat % 16 < 16 := Nat.mod_lt _ (by decide)
  have hByte : b.toNat < 256 := b.toNat_lt
  rw [percent_eq, List.cons_append, List.cons_append, List.cons_append, List.nil_append, decodeChars,
    encodeChars_cons (by decide), encodeChars_cons (toNat_hexDigit_lt _ hHigh),
    encodeChars_cons (toNat_hexDigit_lt _ hLow)]
  rw [show UInt8.ofNat '%'.toNat = 0x25 from rfl, decodeBytes,
    ofNat_toNat_ofNat (toNat_hexDigit_lt _ hHigh), ofNat_toNat_ofNat (toNat_hexDigit_lt _ hLow),
    value?_hexDigit _ hHigh, value?_hexDigit _ hLow]
  simp only
  rw [show 16 * (b.toNat / 16 % 16) + b.toNat % 16 = b.toNat by omega, UInt8.ofNat_toNat]
  rfl

namespace Form

/-! ### Names and values -/

/-- A space for a plus sign. -/
def unplus (c : Char) : Char := if c = '+' then ' ' else c

theorem decode_eq (cs : List Char) : decode cs = Utf8.decodeLossy (decodeChars (cs.map unplus)) := rfl

/-- The digits of a byte part no pairs and end no query. -/
theorem hexDigit_ne : ∀ d < 16, hexDigit d ∉ ['+', '&', '=', '#'] := by decide

/-- A byte that stands for itself is the character of its number, and none that means anything. -/
theorem of_isPlain : ∀ b : UInt8, isPlain b = true →
    b ≠ 0x25 ∧ b.toNat < 0x80 ∧ Char.ofNat b.toNat ∉ ['+', '&', '=', '#'] := by
  intro b
  obtain ⟨n, rfl⟩ : ∃ n : Fin 256, b = UInt8.ofFin n := ⟨b.toFin, rfl⟩
  revert n
  decide +kernel

theorem map_unplus_percent (b : UInt8) : (percent b).map unplus = percent b := by
  have hDigit : ∀ d < 16, unplus (hexDigit d) = hexDigit d := by decide
  rw [percent_eq, List.map_cons, List.map_cons, List.map_cons, List.map_nil,
    hDigit _ (Nat.mod_lt _ (by decide)), hDigit _ (Nat.mod_lt _ (by decide))]
  rfl

/-- A byte as a form writes it is read as this byte. -/
theorem decodeChars_encodeByte (b : UInt8) (rest : List Char) :
    decodeChars ((encodeByte b).map unplus ++ rest) = b :: decodeChars rest := by
  unfold encodeByte
  split
  · rename_i hSpace
    subst hSpace
    exact decodeBytes_cons (by decide) _
  · split
    · rename_i hPlain
      obtain ⟨hSign, hAscii, hOther⟩ := of_isPlain b hPlain
      have hChar : unplus (Char.ofNat b.toNat) = Char.ofNat b.toNat := by
        apply if_neg
        intro hPlus
        apply hOther
        rw [hPlus]
        exact List.mem_cons_self
      have hNumber : (Char.ofNat b.toNat).toNat = b.toNat := by
        rw [Char.ofNat, dif_pos (.inl (by omega))]
        rfl
      rw [List.map_singleton, hChar, List.singleton_append, decodeChars,
        encodeChars_cons (by rw [hNumber]; exact hAscii), hNumber, UInt8.ofNat_toNat,
        decodeBytes_cons hSign]
      rfl
    · rw [map_unplus_percent, decodeChars_percent]

theorem decodeChars_flatMap_encodeByte (s : Bytes) :
    decodeChars ((s.flatMap encodeByte).map unplus) = s := by
  induction s with
  | nil => rfl
  | cons b s ih => rw [List.flatMap_cons, List.map_append, decodeChars_encodeByte, ih]

/-- A name or a value is read as it was given, whatever characters it holds. -/
theorem decode_encode (s : String) : decode (encode s) = s := by
  rw [decode_eq, encode, decodeChars_flatMap_encodeByte, Utf8.decodeLossy_encode]

theorem not_mem_encodeByte {c : Char} (hMark : c ∈ ['&', '=', '#']) (b : UInt8) :
    c ∉ encodeByte b := by
  have hOther : c ≠ '+' ∧ c ≠ '%' ∧ c ∈ ['+', '&', '=', '#'] := by
    simp only [List.mem_cons, List.not_mem_nil, or_false] at hMark
    obtain rfl | rfl | rfl := hMark <;> simp
  obtain ⟨hPlus, hSign, hMark⟩ := hOther
  unfold encodeByte
  split
  · simpa using hPlus
  · split
    · rename_i hPlain
      obtain ⟨-, -, hPart⟩ := of_isPlain b hPlain
      intro hMem
      rw [List.mem_singleton.mp hMem] at hMark
      exact hPart hMark
    · have hDigit : ∀ d < 16, c ≠ hexDigit d := by
        rintro d hd rfl
        exact hexDigit_ne d hd hMark
      rw [percent_eq]
      simp only [List.mem_cons, List.not_mem_nil, or_false, not_or]
      exact ⟨hSign, hDigit _ (Nat.mod_lt _ (by decide)), hDigit _ (Nat.mod_lt _ (by decide))⟩

theorem not_mem_encode {c : Char} (hMark : c ∈ ['&', '=', '#']) (s : String) : c ∉ encode s := by
  intro hMem
  obtain ⟨b, -, hByte⟩ := List.mem_flatMap.mp hMem
  exact not_mem_encodeByte hMark b hByte

theorem not_mem_pair {c : Char} (hMark : c ∈ ['&', '#']) (p : String × String) : c ∉ pair p := by
  have hMarks : c ∈ ['&', '=', '#'] ∧ c ≠ '=' := by
    simp only [List.mem_cons, List.not_mem_nil, or_false] at hMark
    obtain rfl | rfl := hMark <;> simp
  rw [pair, List.mem_append, List.mem_cons, not_or, not_or]
  exact ⟨not_mem_encode hMarks.1 _, hMarks.2, not_mem_encode hMarks.1 _⟩

/-! ### Pairs -/

theorem splitOn_of_not_mem {separator : Char} {cs : List Char} (hFree : separator ∉ cs) :
    splitOn separator cs = [cs] := by
  induction cs with
  | nil => rfl
  | cons c cs ih =>
      rw [List.mem_cons, not_or] at hFree
      exact splitOn_cons_of_ne (Ne.symm hFree.1) (ih hFree.2)

/-- A text is cut behind the part that holds no separator. -/
theorem cut_append_cons {separator : Char} {before : List Char} (hFree : separator ∉ before)
    (after : List Char) : cut separator (before ++ separator :: after) = (before, after) := by
  have hKeep : ∀ c ∈ before, decide (c ≠ separator) = true := by
    intro c hMem
    apply decide_eq_true
    rintro rfl
    exact hFree hMem
  have hStop : decide (separator ≠ separator) = false := by simp
  rw [cut, List.takeWhile_append_of_pos hKeep, List.dropWhile_append_of_pos hKeep,
    List.takeWhile_cons_of_neg (by simp), List.dropWhile_cons_of_neg (by simp), List.append_nil]
  rfl

theorem pairs_append_cons (query : List Char) (p : String × String) :
    pairs (query ++ '&' :: pair p) = pairs query ++ [p] := by
  have hPart : (pair p).isEmpty = false := by simp [pair]
  have hCut : cut '=' (pair p) = (encode p.1, encode p.2) :=
    cut_append_cons (not_mem_encode (by decide) _) _
  rw [pairs, splitOn_append_cons, splitOn_of_not_mem (not_mem_pair (by decide) p),
    List.filter_append, List.map_append]
  simp only [List.filter_cons, hPart, List.filter_nil, Bool.not_false, if_true, List.map_cons,
    List.map_nil, hCut, decode_encode]
  rfl

theorem pairs_pair (p : String × String) : pairs (pair p) = [p] := by
  have hAdded := pairs_append_cons [] p
  rw [List.nil_append, pairs, splitOn_cons_self] at hAdded
  exact hAdded

/-- The pairs that are added to a query are read behind those that it had, as they were given. -/
theorem pairs_append (query : List Char) (ps : List (String × String)) :
    pairs (append query ps) = pairs query ++ ps := by
  induction ps generalizing query with
  | nil => exact (List.append_nil _).symm
  | cons p ps ih =>
      rw [append, List.foldl_cons, ← append, ih]
      by_cases hEmpty : query.isEmpty = true
      · rw [if_pos hEmpty, List.isEmpty_iff.mp hEmpty, pairs_pair]
        rfl
      · rw [if_neg hEmpty, pairs_append_cons, List.append_assoc, List.singleton_append]

/-- Pairs are only added, and nothing in them ends the query. -/
theorem exists_append_eq (query : List Char) (ps : List (String × String)) :
    ∃ added, append query ps = query ++ added ∧ '#' ∉ added := by
  induction ps generalizing query with
  | nil => exact ⟨[], (List.append_nil _).symm, List.not_mem_nil⟩
  | cons p ps ih =>
      have hPair : '#' ∉ pair p := not_mem_pair (by decide) p
      by_cases hEmpty : query.isEmpty = true
      · obtain ⟨added, hAdded, hFree⟩ := ih (pair p)
        refine ⟨pair p ++ added, ?_, ?_⟩
        · rw [append, List.foldl_cons, ← append, if_pos hEmpty, hAdded, List.isEmpty_iff.mp hEmpty]
          rfl
        · rw [List.mem_append, not_or]
          exact ⟨hPair, hFree⟩
      · obtain ⟨added, hAdded, hFree⟩ := ih (query ++ '&' :: pair p)
        refine ⟨'&' :: pair p ++ added, ?_, ?_⟩
        · rw [append, List.foldl_cons, ← append, if_neg hEmpty, hAdded, List.append_assoc]
        · rw [List.cons_append, List.mem_cons, List.mem_append, not_or, not_or]
          exact ⟨by decide, hPair, hFree⟩

end Form

/-- The pairs that the query of a URL holds. -/
def queryPairs (u : Url) : List (String × String) := Form.pairs (u.query.getD [])

theorem queryPairs_addPairs (u : Url) (ps : List (String × String)) :
    (u.addPairs ps).queryPairs = u.queryPairs ++ ps :=
  Form.pairs_append _ ps

end BulkLoad.Url
