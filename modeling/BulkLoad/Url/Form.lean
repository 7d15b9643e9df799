import BulkLoad.Url.Percent

/-!
Pairs of names and values in a query, as a web form writes them.
-/
namespace BulkLoad.Url.Form

def isAlphanumeric (b : UInt8) : Bool :=
  (0x30 ≤ b && b ≤ 0x39) || (0x41 ≤ b && b ≤ 0x5A) || (0x61 ≤ b && b ≤ 0x7A)

/-- The bytes that stand for themselves. -/
def isPlain (b : UInt8) : Bool := isAlphanumeric b || among ['*', '-', '.', '_'] b

/-- A space is a plus sign. -/
def encodeByte (b : UInt8) : List Char :=
  if b = 0x20 then ['+'] else if isPlain b then [Char.ofNat b.toNat] else percent b

def encode (s : String) : List Char := (Utf8.encode s).flatMap encodeByte

def pair (p : String × String) : List Char := encode p.1 ++ '=' :: encode p.2

/-- Pairs behind a query, parted from what stands there. -/
def append (query : List Char) (pairs : List (String × String)) : List Char :=
  pairs.foldl (fun q p => if q.isEmpty then pair p else q ++ '&' :: pair p) query

/-- A text cut at every occurrence of a character. -/
def splitOn (separator : Char) (cs : List Char) : List (List Char) :=
  cs.foldr
    (fun c parts =>
      if c = separator then [] :: parts
      else
        match parts with
        | part :: more => (c :: part) :: more
        | [] => [[c]])
    [[]]

/-- A text before and after the first occurrence of a character. -/
def cut (separator : Char) (cs : List Char) : List Char × List Char :=
  (cs.takeWhile (· ≠ separator), (cs.dropWhile (· ≠ separator)).drop 1)

def decode (cs : List Char) : String :=
  Utf8.decodeLossy (decodeChars (cs.map fun c => if c = '+' then ' ' else c))

/-- The pairs of a query; empty parts between ampersands are none. -/
def pairs (query : List Char) : List (String × String) :=
  ((splitOn '&' query).filter fun part => !part.isEmpty).map fun part =>
    let (name, value) := cut '=' part
    (decode name, decode value)

end BulkLoad.Url.Form
