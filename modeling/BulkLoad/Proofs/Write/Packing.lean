import BulkLoad.Write.Stored
import Mathlib.Data.List.Basic

/-!
What is packed can be unpacked.

The codec that stores is faithful. Reading follows writing block by block: a block carries its own
length, so what follows it is found again whatever it is.
-/
namespace BulkLoad.Gzip

namespace Stored

theorem pair_littleEndian {n : Nat} (hFits : n ≤ blockSize) :
    pair (UInt8.ofNat (n % 256)) (UInt8.ofNat (n / 256 % 256)) = n := by
  simp only [pair, UInt8.toNat_ofNat', blockSize] at *
  omega

/-- A block in bytes: five to tell its kind and length, and its content. -/
theorem block_eq (last : Bool) (s : Bytes) :
    block last s = (if last then 1 else 0) ::
      UInt8.ofNat (s.length % 256) :: UInt8.ofNat (s.length / 256 % 256) ::
      UInt8.ofNat ((blockSize - s.length) % 256) ::
      UInt8.ofNat ((blockSize - s.length) / 256 % 256) :: s := rfl

theorem length_block (last : Bool) (s : Bytes) : (block last s).length = s.length + 5 := by
  rw [block_eq]
  simp

/-- A block is read off the front of what follows it. -/
theorem readBlocks_block {s : Bytes} (hFits : s.length ≤ blockSize) (last : Bool) (fuel : Nat)
    (rest : Bytes) : readBlocks (fuel + 1) (block last s ++ rest) =
      if last then some (s, rest)
      else (readBlocks fuel rest).map fun (more, after) => (s ++ more, after) := by
  have hLength := pair_littleEndian hFits
  have hOther := pair_littleEndian (Nat.sub_le blockSize s.length)
  have hBoth : blockSize - s.length + s.length = blockSize := Nat.sub_add_cancel hFits
  have hEnough : ¬(s ++ rest).length < s.length := by
    rw [List.length_append]
    omega
  rw [block_eq]
  simp only [List.cons_append, readBlocks, hLength, hOther, hBoth, hEnough, ne_eq,
    not_true_eq_false, or_false, if_false, List.take_left, List.drop_left]
  cases last <;> rfl

/-- Blocks are read back, if there is fuel for each of them. -/
theorem readBlocks_blocks (s : Bytes) {fuel : Nat} (hFuel : (blocks s).length ≤ fuel)
    (rest : Bytes) : readBlocks fuel (blocks s ++ rest) = some (s, rest) := by
  induction s using blocks.induct generalizing fuel with
  | case1 s hFits =>
      rw [blocks, dif_pos hFits] at hFuel ⊢
      rw [length_block] at hFuel
      obtain ⟨fuel, rfl⟩ : ∃ less, fuel = less + 1 := ⟨fuel - 1, by omega⟩
      exact readBlocks_block hFits true fuel rest
  | case2 s hLong ih =>
      rw [blocks, dif_neg hLong] at hFuel ⊢
      rw [List.length_append, length_block] at hFuel
      obtain ⟨fuel, rfl⟩ : ∃ less, fuel = less + 1 := ⟨fuel - 1, by omega⟩
      have hRest : readBlocks fuel (blocks (s.drop blockSize) ++ rest) =
          some (s.drop blockSize, rest) := ih (by omega)
      rw [List.append_assoc, readBlocks_block (List.length_take_le _ _), hRest]
      simp

/-- Whatever was stored is what is read. -/
theorem decode?_encode (s : Bytes) : decode? (encode s) = some s := by
  have hHeader : header.isPrefixOf (encode s) = true := by
    rw [List.isPrefixOf_iff_prefix, encode, List.append_assoc]
    exact List.prefix_append _ _
  have hRest : (encode s).drop header.length = blocks s ++ trailer s := by
    rw [encode, List.append_assoc, List.drop_left]
  have hFuel : (blocks s).length ≤ (encode s).length := by
    simp only [encode, List.length_append]
    omega
  rw [decode?, if_pos hHeader, hRest, readBlocks_blocks s hFuel]
  exact if_pos rfl

/-- The first block tells whether it is the last. -/
theorem exists_blocks_eq (s : Bytes) :
    ∃ (last : Bool) (rest : Bytes), blocks s = (if last then 1 else 0) :: rest := by
  rw [blocks]
  split
  · exact ⟨true, _, rfl⟩
  · exact ⟨false, _, rfl⟩

end Stored

theorem Codec.faithful_stored : Codec.stored.Faithful := Stored.decode?_encode

/-- The codec that writes this member for this content, and goes by another for the rest. -/
def Codec.withMember (g : Codec) (content member : Bytes) : Codec where
  encode s := if s = content then member else g.encode s
  decode? s := if s = member then some content else g.decode? s

/-- A codec stays faithful when it is given a member that it wrote for nothing. -/
theorem Codec.Faithful.withMember {g : Codec} (hFaithful : g.Faithful) {content member : Bytes}
    (hNew : ∀ s, g.encode s ≠ member) : (g.withMember content member).Faithful := by
  intro s
  unfold Codec.withMember
  by_cases hContent : s = content
  · simp only [hContent, if_true]
  · simp only [if_neg hContent, if_neg (hNew s)]
    exact hFaithful s

/-- One point, ended by a newline. -/
def pointText : Bytes := Utf8.encode "a x=1 1\n"

/-- What a compressor makes of it: one block of the fixed codes. -/
def pointMember : Bytes :=
  Stored.header ++ [0x4b, 0x54, 0xa8, 0xb0, 0x35, 0x54, 0x30, 0xe4, 0x02, 0x00] ++
    Stored.trailer pointText

/-- A codec that compresses one text, and stores the others. -/
def pointCodec : Codec := .withMember .stored pointText pointMember

theorem faithful_pointCodec : pointCodec.Faithful := by
  refine Codec.faithful_stored.withMember fun s hSame => ?_
  obtain ⟨last, rest, hBlocks⟩ := Stored.exists_blocks_eq s
  have hKind : (Stored.encode s)[10]? = some (if last then 1 else 0) := by
    rw [Stored.encode, hBlocks]
    rfl
  have hMember : (Stored.encode s)[10]? = some 0x4b := by
    rw [show Stored.encode s = pointMember from hSame]
    rfl
  rw [hKind] at hMember
  cases last <;> cases hMember

end BulkLoad.Gzip
