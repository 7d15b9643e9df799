import BulkLoad.Write.Gzip

/-!
A codec that compresses nothing.

A member is a header without name and time, the content in stored blocks, and the checksum and size
of the content. Reading accepts members of this form only.
-/
namespace BulkLoad.Gzip

namespace Stored

/-- The reflected polynomial of the 32-bit cyclic redundancy check. -/
def polynomial : UInt32 := 0xEDB88320

def crcBit (c : UInt32) : UInt32 := if c &&& 1 = 1 then (c >>> 1) ^^^ polynomial else c >>> 1

def crcByte (c : UInt32) (b : UInt8) : UInt32 := Nat.repeat crcBit 8 (c ^^^ b.toUInt32)

/-- The checksum of a content. -/
def crc32 (s : Bytes) : UInt32 := s.foldl crcByte 0xFFFFFFFF ^^^ 0xFFFFFFFF

/-- The lowest bytes of a number, the lowest first. -/
def littleEndian : Nat → Nat → Bytes
  | 0, _ => []
  | width + 1, n => UInt8.ofNat (n % 256) :: littleEndian width (n / 256)

/-- Magic bytes, deflate, no flags, no time, no hint, unknown system. -/
def header : Bytes := [0x1f, 0x8b, 8, 0, 0, 0, 0, 0, 0, 0xff]

/-- The most bytes that a stored block holds. -/
def blockSize : Nat := 65535

/-- A stored block: whether it is the last, its length, the complement of the length, its bytes. -/
def block (last : Bool) (s : Bytes) : Bytes :=
  (if last then 1 else 0) :: littleEndian 2 s.length ++ littleEndian 2 (blockSize - s.length) ++ s

/-- A content in blocks; an empty one takes one empty block. -/
def blocks (s : Bytes) : Bytes :=
  if _h : s.length ≤ blockSize then block true s
  else block false (s.take blockSize) ++ blocks (s.drop blockSize)
termination_by s.length
decreasing_by simp only [blockSize, List.length_drop] at *; omega

def trailer (s : Bytes) : Bytes := littleEndian 4 (crc32 s).toNat ++ littleEndian 4 s.length

def encode (s : Bytes) : Bytes := header ++ blocks s ++ trailer s

/-- A number of two bytes, the lower first. -/
def pair (low high : UInt8) : Nat := low.toNat + 256 * high.toNat

/-- The content of blocks, and what follows the last one. -/
def readBlocks (fuel : Nat) (s : Bytes) : Option (Bytes × Bytes) :=
  match fuel, s with
  | fuel + 1, last :: low :: high :: low' :: high' :: rest =>
    let length := pair low high
    if pair low' high' + length ≠ blockSize ∨ rest.length < length then none
    else if last = 1 then some (rest.take length, rest.drop length)
    else if last = 0 then
      (readBlocks fuel (rest.drop length)).map fun (more, after) =>
        (rest.take length ++ more, after)
    else none
  | _, _ => none

/-- The content of a member. -/
def decode? (s : Bytes) : Option Bytes :=
  if header.isPrefixOf s then
    match readBlocks s.length (s.drop header.length) with
    | some (content, rest) => if rest = trailer content then some content else none
    | none => none
  else none

end Stored

def Codec.stored : Codec := ⟨Stored.encode, Stored.decode?⟩

end BulkLoad.Gzip
