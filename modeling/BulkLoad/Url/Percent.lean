import BulkLoad.Text.Hex

/-!
Bytes in a URL: those that may not stand there are written as a percent sign and two digits.
-/
namespace BulkLoad.Url

/-- The ASCII bytes that a part of a URL must encode; bytes outside ASCII always are. -/
abbrev EncodeSet := UInt8 → Bool

def among (chars : List Char) (b : UInt8) : Bool := chars.any fun c => c.toNat = b.toNat

namespace EncodeSet

def controls : EncodeSet := fun b => b < 0x20 || b = 0x7F

def fragment : EncodeSet := fun b => controls b || among [' ', '"', '<', '>', '\x60'] b

def path : EncodeSet := fun b => fragment b || among ['#', '?', '\x7b', '\x7d'] b

def userinfo : EncodeSet := fun b =>
  path b || among ['/', ':', ';', '=', '@', '[', '\\', ']', '^', '|'] b

def query : EncodeSet := fun b => controls b || among [' ', '"', '#', '<', '>'] b

def specialQuery : EncodeSet := fun b => query b || among ['\''] b

end EncodeSet

/-- A byte as a percent sign and two digits. -/
def percent (b : UInt8) : List Char := '%' :: Hex.fixed Hex.upper 2 b.toNat

def encodeByte (set : EncodeSet) (b : UInt8) : List Char :=
  if 0x80 ≤ b || set b then percent b else [Char.ofNat b.toNat]

def encodeBytes (set : EncodeSet) (s : Bytes) : List Char := s.flatMap (encodeByte set)

def encodeChars (set : EncodeSet) (cs : List Char) : List Char :=
  encodeBytes set (Utf8.encodeChars cs)

/-- The bytes behind percent signs; a percent sign without two digits stands for itself. -/
def decodeBytes : Bytes → Bytes
  | [] => []
  | 0x25 :: high :: low :: more =>
    match Hex.value? (Char.ofNat high.toNat), Hex.value? (Char.ofNat low.toNat) with
    | some h, some l => UInt8.ofNat (16 * h + l) :: decodeBytes more
    | _, _ => 0x25 :: decodeBytes (high :: low :: more)
  | b :: rest => b :: decodeBytes rest

def decodeChars (cs : List Char) : Bytes := decodeBytes (Utf8.encodeChars cs)

end BulkLoad.Url
