import BulkLoad.Config.Basic

/-!
What is found where a record of settings is looked through field by field.

A record's findings are kept in a table by the names of the fields, and such a table gives its
entries in no certain order. The first finding is that of the least name.
-/
namespace BulkLoad.Config

/-- A broken rule. -/
structure Violation where
  field : String
  message : String
  deriving DecidableEq, Repr

/-- A rule that a value breaks: what is checked, and the least that is allowed. -/
structure Breach where
  code : String
  least? : Option String

def Breach.message (b : Breach) : String :=
  match b.code, b.least? with
  | "range", some least => "must be >= " ++ least
  | "length", some least => "must have length >= " ++ least
  | code, _ => "failed '" ++ code ++ "' check"

/-- What was found at a field: rules that its value breaks, or, if it is a record itself, what was
found at the fields of it. -/
inductive Finding where
  | breaches (all : List Breach)
  | record (table : List (String × Finding))

namespace Finding

/-- A number below the least one. -/
def tooSmall (least : String) (below : Bool) : Option Finding :=
  if below then some (.breaches [⟨"range", some least⟩]) else none

/-- A text or a list that is too short. -/
def tooShort (least : String) (short : Bool) : Option Finding :=
  if short then some (.breaches [⟨"length", some least⟩]) else none

/-- The fields at which something was found. -/
def found (fields : List (String × Option Finding)) : List (String × Finding) :=
  fields.filterMap fun field => field.2.map fun finding => (field.1, finding)

def nested (fields : List (String × Option Finding)) : Option Finding :=
  match found fields with
  | [] => none
  | table => some (.record table)

/-- The order in which a table gives its entries. -/
structure TableOrder where
  arrange : List (String × Option Violation) → List (String × Option Violation)
  perm : ∀ entries, (arrange entries).Perm entries

/-- The order in which the entries were made. -/
def TableOrder.asMade : TableOrder := ⟨id, fun _ => .rfl⟩

def byName (a b : String × Option Violation) : Bool := a.1 ≤ b.1

/-- The first violation among those of the entries of a table, by the names of the entries. -/
def least? (order : TableOrder) (entries : List (String × Option Violation)) : Option Violation :=
  ((order.arrange entries).mergeSort byName).findSome? Prod.snd

def join (path name : String) : String := if path.isEmpty then name else path ++ "." ++ name

mutual

/-- The first violation at the field of that path. -/
def first? (order : TableOrder) (path : String) : Finding → Option Violation
  | .breaches all => all.head?.map fun breach => ⟨path, breach.message⟩
  | .record table => least? order (firsts order path table)

/-- The first violation at each field of the record of that path. -/
def firsts (order : TableOrder) (path : String) :
    List (String × Finding) → List (String × Option Violation)
  | [] => []
  | (name, finding) :: table =>
    (name, first? order (join path name) finding) :: firsts order path table

end

end Finding
end BulkLoad.Config
