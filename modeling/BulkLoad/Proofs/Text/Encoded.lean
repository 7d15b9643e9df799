import BulkLoad.Text.Utf8

/-!
Text as bytes and back.

The first byte of a character says how many follow, and each of those lies in the bounds it was owed.
So the pieces of an encoded text are its characters, and lenient reading gives the text itself.
-/
namespace BulkLoad.Utf8

theorem toNat_ofNat {n : Nat} (hByte : n < 256) : (UInt8.ofNat n).toNat = n := by
  rw [UInt8.toNat_ofNat', Nat.mod_eq_of_lt hByte]

/-- Numbers of characters leave out the surrogates. -/
theorem toNat_valid (c : Char) :
    c.toNat < 0xD800 ∨ (0xDFFF < c.toNat ∧ c.toNat < 0x110000) := c.valid

/-- What a first byte announces, by its number. -/
theorem owed_ofNat {lead : Nat} (hByte : lead < 256) : owed (UInt8.ofNat lead) =
    if 0xC2 ≤ lead ∧ lead ≤ 0xDF then some (1, 0x80, 0xBF)
    else if lead = 0xE0 then some (2, 0xA0, 0xBF)
    else if lead = 0xED then some (2, 0x80, 0x9F)
    else if 0xE1 ≤ lead ∧ lead ≤ 0xEF then some (2, 0x80, 0xBF)
    else if lead = 0xF0 then some (3, 0x90, 0xBF)
    else if 0xF1 ≤ lead ∧ lead ≤ 0xF3 then some (3, 0x80, 0xBF)
    else if lead = 0xF4 then some (3, 0x80, 0x8F)
    else none := by
  simp only [owed, UInt8.le_iff_toNat_le, ← UInt8.toNat_inj, toNat_ofNat hByte]
  rfl

theorem next_ofNat {lead more : Nat} {lo hi : UInt8} (hLead : 0x80 ≤ lead) (hByte : lead < 256)
    (hOwed : owed (UInt8.ofNat lead) = some (more, lo, hi)) (rest : Bytes) :
    next (UInt8.ofNat lead) rest = follow (leadBits (UInt8.ofNat lead) more) more lo hi rest := by
  have hNoAscii : ¬ UInt8.ofNat lead < 0x80 := by
    rw [UInt8.lt_iff_toNat_lt, toNat_ofNat hByte]
    exact Nat.not_lt.mpr hLead
  rw [next, if_neg hNoAscii, hOwed]

/-- One more byte that fits gives six more bits. -/
theorem follow_ofNat {bits : Nat} (hBits : bits < 64) {lo hi : UInt8} (hLow : lo.toNat ≤ 0x80 + bits)
    (hHigh : 0x80 + bits ≤ hi.toNat) (value more : Nat) (rest : Bytes) :
    follow value (more + 1) lo hi (UInt8.ofNat (0x80 + bits) :: rest) =
      follow (value * 64 + bits) more 0x80 0xBF rest := by
  have hByte : (UInt8.ofNat (0x80 + bits)).toNat = 0x80 + bits := toNat_ofNat (by omega)
  have hNext : between lo hi (UInt8.ofNat (0x80 + bits) :: rest) =
      some (UInt8.ofNat (0x80 + bits), rest) := by
    refine if_pos ⟨?_, ?_⟩ <;> rw [UInt8.le_iff_toNat_le, hByte]
    · exact hLow
    · exact hHigh
  rw [follow, hNext]
  simp only
  rw [hByte, Nat.add_mod, Nat.mod_eq_of_lt hBits]
  simp [Nat.mod_eq_of_lt hBits]

/-- The second of three bytes lies in the bounds that the first one sets. -/
theorem exists_owed_three {n : Nat} (hLow : 0x800 ≤ n) (hHigh : n < 0x10000)
    (hValid : n < 0xD800 ∨ 0xDFFF < n) :
    ∃ lo hi, owed (UInt8.ofNat (0xE0 + n / 4096)) = some (2, lo, hi) ∧
      lo.toNat ≤ 0x80 + n / 64 % 64 ∧ 0x80 + n / 64 % 64 ≤ hi.toNat := by
  rw [owed_ofNat (by omega), if_neg (by omega)]
  by_cases hFirst : n / 4096 = 0
  · exact ⟨0xA0, 0xBF, if_pos (by omega), show 0xA0 ≤ _ by omega, show _ ≤ 0xBF by omega⟩
  · rw [if_neg (by omega)]
    by_cases hSurrogate : n / 4096 = 13
    · exact ⟨0x80, 0x9F, if_pos (by omega), Nat.le_add_right .., show _ ≤ 0x9F by omega⟩
    · rw [if_neg (by omega), if_pos (by omega)]
      exact ⟨0x80, 0xBF, rfl, Nat.le_add_right .., show _ ≤ 0xBF by omega⟩

/-- The second of four bytes lies in the bounds that the first one sets. -/
theorem exists_owed_four {n : Nat} (hLow : 0x10000 ≤ n) (hHigh : n < 0x110000) :
    ∃ lo hi, owed (UInt8.ofNat (0xF0 + n / 262144)) = some (3, lo, hi) ∧
      lo.toNat ≤ 0x80 + n / 4096 % 64 ∧ 0x80 + n / 4096 % 64 ≤ hi.toNat := by
  rw [owed_ofNat (by omega), if_neg (by omega), if_neg (by omega), if_neg (by omega),
    if_neg (by omega)]
  by_cases hFirst : n / 262144 = 0
  · exact ⟨0x90, 0xBF, if_pos (by omega), show 0x90 ≤ _ by omega, show _ ≤ 0xBF by omega⟩
  · rw [if_neg (by omega)]
    by_cases hLast : n / 262144 = 4
    · rw [if_neg (by omega), if_pos (by omega)]
      exact ⟨0x80, 0x8F, rfl, Nat.le_add_right .., show _ ≤ 0x8F by omega⟩
    · rw [if_pos (by omega)]
      exact ⟨0x80, 0xBF, rfl, Nat.le_add_right .., show _ ≤ 0xBF by omega⟩

/-- The bytes of a character are read as this character, whatever stands behind them. -/
theorem exists_encodeChar_eq (c : Char) :
    ∃ b tail, encodeChar c = b :: tail ∧ ∀ rest, next b (tail ++ rest) = (some c, rest) := by
  have hValid := toNat_valid c
  have hChar : ∀ m, m = c.toNat → Char.ofNat m = c := by
    intro m hm
    rw [hm, Char.ofNat_toNat]
  have hSix : ∀ m, m % 64 < 64 := fun m => Nat.mod_lt m (by decide)
  have hHigh : ∀ m, 0x80 + m % 64 ≤ (0xBF : UInt8).toNat := by
    intro m
    show _ ≤ 0xBF
    omega
  unfold encodeChar
  generalize c.toNat = n at hValid hChar ⊢
  by_cases hOne : n < 0x80
  · refine ⟨UInt8.ofNat n, [], if_pos hOne, fun rest => ?_⟩
    have hLead : (UInt8.ofNat n).toNat = n := toNat_ofNat (by omega)
    rw [next, if_pos (by rw [UInt8.lt_iff_toNat_lt, hLead]; exact hOne), hLead, hChar n rfl]
    rfl
  · simp only [if_neg hOne]
    by_cases hTwo : n < 0x800
    · refine ⟨UInt8.ofNat (0xC0 + n / 64), [UInt8.ofNat (0x80 + n % 64)], if_pos hTwo,
        fun rest => ?_⟩
      have hOwed : owed (UInt8.ofNat (0xC0 + n / 64)) = some (1, 0x80, 0xBF) := by
        rw [owed_ofNat (by omega), if_pos (by omega)]
      have hBits : leadBits (UInt8.ofNat (0xC0 + n / 64)) 1 = n / 64 := by
        rw [leadBits, toNat_ofNat (by omega)]
        omega
      rw [next_ofNat (by omega) (by omega) hOwed, hBits, List.singleton_append,
        follow_ofNat (hSix _) (Nat.le_add_right ..) (hHigh _), follow, hChar _ (by omega)]
    · simp only [if_neg hTwo]
      by_cases hThree : n < 0x10000
      · refine ⟨UInt8.ofNat (0xE0 + n / 4096),
          [UInt8.ofNat (0x80 + n / 64 % 64), UInt8.ofNat (0x80 + n % 64)], if_pos hThree,
          fun rest => ?_⟩
        obtain ⟨lo, hi, hOwed, hLow, hUp⟩ :=
          exists_owed_three (Nat.le_of_not_lt hTwo) hThree (by omega)
        have hBits : leadBits (UInt8.ofNat (0xE0 + n / 4096)) 2 = n / 4096 := by
          rw [leadBits, toNat_ofNat (by omega)]
          omega
        rw [next_ofNat (by omega) (by omega) hOwed, hBits, List.cons_append,
          follow_ofNat (hSix _) hLow hUp, List.singleton_append,
          follow_ofNat (hSix _) (Nat.le_add_right ..) (hHigh _), follow, hChar _ (by omega)]
      · refine ⟨UInt8.ofNat (0xF0 + n / 262144),
          [UInt8.ofNat (0x80 + n / 4096 % 64), UInt8.ofNat (0x80 + n / 64 % 64),
            UInt8.ofNat (0x80 + n % 64)], if_neg hThree, fun rest => ?_⟩
        obtain ⟨lo, hi, hOwed, hLow, hUp⟩ :=
          exists_owed_four (Nat.le_of_not_lt hThree) (by omega)
        have hBits : leadBits (UInt8.ofNat (0xF0 + n / 262144)) 3 = n / 262144 := by
          rw [leadBits, toNat_ofNat (by omega)]
          omega
          all_goals simp
        rw [next_ofNat (by omega) (by omega) hOwed, hBits, List.cons_append,
          follow_ofNat (hSix _) hLow hUp, List.cons_append,
          follow_ofNat (hSix _) (Nat.le_add_right ..) (hHigh _), List.singleton_append,
          follow_ofNat (hSix _) (Nat.le_add_right ..) (hHigh _), follow, hChar _ (by omega)]

theorem pieces_encodeChars (cs : List Char) : pieces (encodeChars cs) = cs.map some := by
  induction cs with
  | nil => rw [encodeChars, List.flatMap_nil, pieces, List.map_nil]
  | cons c cs ih =>
      obtain ⟨b, tail, hBytes, hNext⟩ := exists_encodeChar_eq c
      have hSplit : encodeChars (c :: cs) = b :: (tail ++ encodeChars cs) := by
        rw [encodeChars, List.flatMap_cons, hBytes]
        rfl
      rw [hSplit, pieces, hNext, ih, List.map_cons]

theorem decodeLossyChars_encodeChars (cs : List Char) :
    decodeLossyChars (encodeChars cs) = cs := by
  rw [decodeLossyChars_eq, pieces_encodeChars, List.map_map]
  exact List.map_id cs

/-- Lenient reading finds nothing ill-formed in the bytes of a text. -/
theorem decodeLossy_encode (s : String) : decodeLossy (encode s) = s := by
  rw [decodeLossy, encode, decodeLossyChars_encodeChars, String.ofList_toList]

end BulkLoad.Utf8
