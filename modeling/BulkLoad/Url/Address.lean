import BulkLoad.Text.Hex
import BulkLoad.Url.Form

/-!
Numeric addresses of hosts: four bytes written in up to four parts, and eight pieces written in
hexadecimal with one run of zeros left out.
-/
namespace BulkLoad.Url

namespace Ipv4

/-- The digits of a number and their base. -/
def based : List Char → List Char × Nat
  | '0' :: 'x' :: ds => (ds, 16)
  | '0' :: 'X' :: ds => (ds, 16)
  | '0' :: d :: ds => (d :: ds, 8)
  | ds => (ds, 10)

/-- A number in base eight, ten or sixteen. -/
def number? (cs : List Char) : Option Nat :=
  if cs.isEmpty then none
  else
    let (ds, base) := based cs
    ds.foldl
      (fun n c =>
        match n, Hex.value? c with
        | some n, some d => if d < base then some (base * n + d) else none
        | _, _ => none)
      (some 0)

/-- The parts between points; an empty last part is dropped. -/
def parts (cs : List Char) : List (List Char) :=
  let all := Form.splitOn '.' cs
  if all.length ≠ 1 ∧ all.getLast? = some [] then all.dropLast else all

def isDigit (c : Char) : Bool := '0' ≤ c && c ≤ '9'

/-- Whether the last part is a number, so that the whole can only be an address. -/
def endsInNumber (cs : List Char) : Bool :=
  match (parts cs).getLast? with
  | none => false
  | some last => (!last.isEmpty && last.all isDigit) || (number? last).isSome

/-- All but the last part hold one byte each; the last holds what is left. -/
def parse? (cs : List Char) : Option Nat := do
  let ps := parts cs
  if 4 < ps.length then none
  else
    let ns ← ps.mapM number?
    let last ← ns.getLast?
    let firsts := ns.dropLast
    if firsts.any (255 < ·) then none
    else if Nat.pow 256 (4 - firsts.length) ≤ last then none
    else
      let high := firsts.zipIdx.foldl (fun sum (n, i) => sum + n * Nat.pow 256 (3 - i)) 0
      return high + last

def toChars (address : Nat) : List Char :=
  let byte (i : Nat) : List Char := Nat.toDigits 10 (address / Nat.pow 256 i % 256)
  byte 3 ++ '.' :: byte 2 ++ '.' :: byte 1 ++ '.' :: byte 0

end Ipv4

namespace Ipv6

/-- One piece: one to four hexadecimal digits. -/
def piece? (cs : List Char) : Option Nat :=
  if cs.isEmpty || 4 < cs.length then none else Hex.number? cs

/-- A byte without leading zeros. -/
def byte? (cs : List Char) : Option Nat :=
  if cs.isEmpty || 3 < cs.length || !cs.all Ipv4.isDigit || (cs.length ≠ 1 && cs.head? == some '0')
  then none
  else
    let n := cs.foldl (fun n c => 10 * n + (c.toNat - '0'.toNat)) 0
    if n ≤ 255 then some n else none

/-- Four bytes in dotted form make two pieces. -/
def dotted? (cs : List Char) : Option (List Nat) := do
  match ← (Form.splitOn '.' cs).mapM byte? with
  | [a, b, c, d] => some [256 * a + b, 256 * c + d]
  | _ => none

/-- The pieces between colons; the last place may hold four bytes in dotted form. -/
def run? (cs : List Char) : Option (List Nat) :=
  if cs.isEmpty then some []
  else
    let ps := Form.splitOn ':' cs
    match ps.getLast? with
    | none => none
    | some last =>
      if last.contains '.' then do
        return (← ps.dropLast.mapM piece?) ++ (← dotted? last)
      else ps.mapM piece?

/-- What stands before and after two colons in a row, if they are there. -/
def compressed? (before : List Char) : List Char → Option (List Char × List Char)
  | ':' :: ':' :: rest => some (before.reverse, rest)
  | c :: rest => compressed? (c :: before) rest
  | [] => none

/-- Eight pieces; two colons stand for the zeros that are missing. -/
def parse? (cs : List Char) : Option (List Nat) :=
  match compressed? [] cs with
  | none => (run? cs).filter fun ps => ps.length = 8
  | some (before, after) => do
    if before.contains '.' then none
    else
      let left ← run? before
      let right ← run? after
      let missing := 8 - (left.length + right.length)
      if 8 ≤ left.length + right.length then none
      else return left ++ List.replicate missing 0 ++ right

/-- The lengths of the runs of zeros that begin at each piece. -/
def zeroRuns : List Nat → List Nat
  | [] => []
  | p :: ps =>
    let runs := zeroRuns ps
    (if p = 0 then runs.headD 0 + 1 else 0) :: runs

/-- The first of the longest runs of at least two zeros: where it begins and how long it is. -/
def longestRun? (pieces : List Nat) : Option (Nat × Nat) :=
  let runs := zeroRuns pieces
  let longest := runs.foldl max 0
  if longest < 2 then none else (runs.findIdx? (· = longest)).map fun i => (i, longest)

def hex (n : Nat) : List Char := Nat.toDigits 16 n

def join (pieces : List Nat) : List Char := (pieces.map hex).intersperse [':'] |>.flatten

def toChars (pieces : List Nat) : List Char :=
  match longestRun? pieces with
  | none => join pieces
  | some (start, length) =>
    join (pieces.take start) ++ ':' :: ':' :: join (pieces.drop (start + length))

end Ipv6
end BulkLoad.Url
