import BulkLoad.Config.Basic
import BulkLoad.Json.Number
import BulkLoad.Toml.Value

/-!
A configuration as a tree of settings, the common ground of the two text formats.

Some values are no setting, and still do no harm under a name that is not known: an unfit one, and a
moment, which counts as a group of which no member is known. A huge number harms wherever it is
looked at.
-/
namespace BulkLoad

/-- The text formats of a configuration. -/
inductive Format where
  | toml
  | json
  deriving DecidableEq, Repr

inductive Setting where
  | absent
  | integer (value : Int)
  | float (value : Float)
  | bool (value : Bool)
  | text (value : String)
  | list (items : List Setting)
  | group (members : List (String × Setting))
  | moment
  | unfit
  | huge

namespace Setting

mutual

/-- Whether the value can be looked at and passed over. -/
def isHarmless : Setting → Bool
  | .huge => false
  | .list items => areHarmless items
  | .group members => membersAreHarmless members
  | _ => true

def areHarmless : List Setting → Bool
  | [] => true
  | s :: ss => isHarmless s && areHarmless ss

def membersAreHarmless : List (String × Setting) → Bool
  | [] => true
  | (_, s) :: ms => isHarmless s && membersAreHarmless ms

end

/-- A number without point and power is an integer if sixty-four bits hold it; the negative zero is
a double. -/
def ofNumeral (n : Decimal.Numeral) : Setting :=
  let size := Decimal.natOfDigits n.whole
  if n.isInteger ∧ size < Nat.pow 2 64 ∧ ¬ n.negative then .integer size
  else if n.isInteger ∧ size ≤ Nat.pow 2 63 ∧ n.negative ∧ size ≠ 0 then .integer (-size)
  else
    match Json.double? n with
    | some x => .float x
    | none => .unfit

mutual

/-- An object with a name that is no text is no group. -/
def ofJson : Json → Setting
  | .null => .absent
  | .bool b => .bool b
  | .number n => ofNumeral n
  | .text (some s) => .text s
  | .text none => .unfit
  | .array items => .list (ofJsonItems items)
  | .object members => (ofJsonMembers? members).elim .unfit .group

def ofJsonItems : List Json → List Setting
  | [] => []
  | v :: vs => ofJson v :: ofJsonItems vs

def ofJsonMembers? : List (Option String × Json) → Option (List (String × Setting))
  | [] => some []
  | (some name, v) :: ms => (ofJsonMembers? ms).map ((name, ofJson v) :: ·)
  | (none, _) :: _ => none

end

mutual

def ofToml : Toml → Setting
  | .text s => .text s
  | .integer n => .integer n
  | .float x => .float x
  | .bool b => .bool b
  | .moment => .moment
  | .huge => .huge
  | .array items => .list (ofTomlItems items)
  | .table entries => .group (ofTomlEntries entries)

def ofTomlItems : List Toml → List Setting
  | [] => []
  | v :: vs => ofToml v :: ofTomlItems vs

def ofTomlEntries : List (String × Toml) → List (String × Setting)
  | [] => []
  | (key, v) :: es => (key, ofToml v) :: ofTomlEntries es

end

mutual

def toJson : Setting → Json
  | .absent => .null
  | .integer n => Json.int n
  | .float x => Json.float x
  | .bool b => .bool b
  | .text s => Json.str s
  | .list items => .array (toJsonItems items)
  | .group members => .object (toJsonMembers members)
  | .moment => .null
  | .unfit => .null
  | .huge => .null

def toJsonItems : List Setting → List Json
  | [] => []
  | s :: ss => toJson s :: toJsonItems ss

def toJsonMembers : List (String × Setting) → List (Option String × Json)
  | [] => []
  | (name, s) :: ms => (some name, toJson s) :: toJsonMembers ms

end

mutual

/-- What is absent has no value here. -/
def toToml? : Setting → Option Toml
  | .absent => none
  | .integer n => some (.integer n)
  | .float x => some (.float x)
  | .bool b => some (.bool b)
  | .text s => some (.text s)
  | .list items => some (.array (toTomlItems items))
  | .group members => some (.table (toTomlEntries members))
  | .moment => some .moment
  | .unfit => none
  | .huge => some .huge

def toTomlItems : List Setting → List Toml
  | [] => []
  | s :: ss => (toToml? s).toList ++ toTomlItems ss

/-- What is absent is left out. -/
def toTomlEntries : List (String × Setting) → List (String × Toml)
  | [] => []
  | (name, s) :: ms => ((toToml? s).toList.map fun v => (name, v)) ++ toTomlEntries ms

end

end Setting
end BulkLoad
