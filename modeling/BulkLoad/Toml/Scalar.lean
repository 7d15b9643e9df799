import BulkLoad.Decimal.Read
import BulkLoad.Text.Hex
import BulkLoad.Toml.Value

/-!
Values written without quotes or brackets: numbers, truth values, dates and times.
-/
namespace BulkLoad.Toml

open Decimal

/-- Digits without the underscores between them; an underscore stands between two digits. -/
def ungroup? (isDigit : Char → Bool) : List Char → Option (List Char)
  | [] => none
  | [c] => if isDigit c then some [c] else none
  | c :: '_' :: d :: rest =>
    if isDigit c then (ungroup? isDigit (d :: rest)).map (c :: ·) else none
  | c :: d :: rest => if isDigit c then (ungroup? isDigit (d :: rest)).map (c :: ·) else none

/-- A sign at the head. -/
def signed (cs : List Char) : Bool × List Char :=
  match cs with
  | '-' :: cs => (true, cs)
  | '+' :: cs => (false, cs)
  | cs => (false, cs)

/-- The digits of a whole number: a zero stands at their head only when alone. -/
def whole? (cs : List Char) : Option (List Char) :=
  match ungroup? isDigit cs with
  | some ('0' :: _ :: _) => none
  | found => found

def isBase (base : Nat) (c : Char) : Bool := (Hex.value? c).any (· < base)

/-- Digits to a base other than ten. -/
def based? (base : Nat) (cs : List Char) : Option Int := do
  let ds ← ungroup? (isBase base) cs
  return (ds.foldl (fun n c => base * n + (Hex.value? c).getD 0) 0 : Nat)

def decimalInteger? (cs : List Char) : Option Int := do
  let (negative, cs) := signed cs
  let n : Int := natOfDigits (← whole? cs)
  return if negative then -n else n

def anyInteger? : List Char → Option Int
  | '0' :: 'x' :: cs => based? 16 cs
  | '0' :: 'o' :: cs => based? 8 cs
  | '0' :: 'b' :: cs => based? 2 cs
  | cs => decimalInteger? cs

/-- Whether a hundred and twenty-eight bits hold an integer, with a sign or without. -/
def isInRange (n : Int) : Bool := -(Nat.pow 2 127 : Int) ≤ n && n < (Nat.pow 2 128 : Int)

def integer? (cs : List Char) : Option Toml :=
  (anyInteger? cs).map fun n => if isInRange n then .integer n else .huge

/-- What stands after the first of the characters sought, if one is there. -/
def after? (sought : Char → Bool) (cs : List Char) : Option (List Char) :=
  match cs.dropWhile fun c => !sought c with
  | [] => none
  | _ :: rest => some rest

def isExponentMark (c : Char) : Bool := c = 'e' || c = 'E'

/-- The power of ten written after its mark. -/
def power? (cs : List Char) : Option Int := do
  let (negative, cs) := signed cs
  let n : Int := natOfDigits (← ungroup? isDigit cs)
  return if negative then -n else n

/-- A number with a fraction, a power of ten, or both. -/
def numeral? (cs : List Char) : Option Numeral := do
  let (negative, cs) := signed cs
  let mantissa := cs.takeWhile fun c => !isExponentMark c
  let power ← (after? isExponentMark cs).mapM power?
  let whole ← whole? (mantissa.takeWhile (· ≠ '.'))
  let fraction ← (after? (· = '.') mantissa).mapM (ungroup? isDigit)
  if power.isNone && fraction.isNone then none
  else return ⟨negative, whole, fraction.getD [], power⟩

/-- A double; it is infinite only by name. -/
def float? (cs : List Char) : Option Toml :=
  let (negative, rest) := signed cs
  if rest = "inf".toList then some (.float (if negative then -(1.0 / 0.0) else 1.0 / 0.0))
  else if rest = "nan".toList then some (.float (0.0 / 0.0))
  else (numeral? cs).map fun n => if n.toFloat.isInf then .huge else .float n.toFloat

/-- A number of exactly so many digits at the head. -/
def fixedDigits? (count : Nat) (cs : List Char) : Option (Nat × List Char) :=
  let ds := cs.take count
  if ds.length = count ∧ ds.all isDigit then some (natOfDigits ds, cs.drop count) else none

def isLeapYear (year : Nat) : Bool := year % 4 = 0 && (year % 100 ≠ 0 || year % 400 = 0)

def daysIn (year month : Nat) : Nat :=
  if month = 2 then (if isLeapYear year then 29 else 28)
  else if month ∈ [4, 6, 9, 11] then 30
  else 31

/-- What follows a character that must be there. -/
def expect? (c : Char) : List Char → Option (List Char)
  | d :: rest => if d = c then some rest else none
  | [] => none

/-- What follows a calendar date. -/
def date? (cs : List Char) : Option (List Char) := do
  let (year, cs) ← fixedDigits? 4 cs
  let (month, cs) ← fixedDigits? 2 (← expect? '-' cs)
  let (day, cs) ← fixedDigits? 2 (← expect? '-' cs)
  if 1 ≤ month ∧ month ≤ 12 ∧ 1 ≤ day ∧ day ≤ daysIn year month then some cs else none

/-- What follows a fraction of a second. -/
def secondFraction? : List Char → Option (List Char)
  | '.' :: cs => if (cs.takeWhile isDigit).isEmpty then none else some (cs.dropWhile isDigit)
  | cs => some cs

/-- What follows the seconds, which may be left out. -/
def seconds? : List Char → Option (List Char)
  | ':' :: cs => do
    let (second, cs) ← fixedDigits? 2 cs
    if second ≤ 60 then secondFraction? cs else none
  | cs => some cs

/-- What follows hours and minutes. -/
def hourMinute? (cs : List Char) : Option (List Char) := do
  let (hour, cs) ← fixedDigits? 2 cs
  let (minute, cs) ← fixedDigits? 2 (← expect? ':' cs)
  if hour ≤ 23 ∧ minute ≤ 59 then some cs else none

def time? (cs : List Char) : Option (List Char) := (hourMinute? cs).bind seconds?

/-- What follows a distance from universal time, which may be left out. -/
def offset? : List Char → Option (List Char)
  | 'Z' :: cs => some cs
  | 'z' :: cs => some cs
  | '+' :: cs => hourMinute? cs
  | '-' :: cs => hourMinute? cs
  | cs => some cs

def isTimeMark (c : Char) : Bool := c = 'T' || c = 't' || c = ' '

/-- A date, a time, or both. -/
def isMoment (cs : List Char) : Bool :=
  match date? cs with
  | some [] => true
  | some (mark :: rest) => isTimeMark mark && ((time? rest).bind offset?) == some []
  | none => time? cs == some []

def isDate (cs : List Char) : Bool := date? cs == some []

/-- The value that an unquoted word writes. -/
def scalar? (cs : List Char) : Option Toml :=
  if cs = "true".toList then some (.bool true)
  else if cs = "false".toList then some (.bool false)
  else if isMoment cs then some .moment
  else (integer? cs).or (float? cs)

end BulkLoad.Toml
