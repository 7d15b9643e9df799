import BulkLoad.Toml.Value

/-!
The tables of a TOML text while it is read.

How a table came about decides what may still be added to it. A table named by a header is filled
under that header only; one on the way to a named table may still be named; one made by a dotted
key is filled by dotted keys only.
-/
namespace BulkLoad.Toml

inductive Origin where
  | header
  | way
  | dotted
  deriving DecidableEq

/-- A finished value, a table, or a table for each header in double brackets, the newest first. -/
inductive Node where
  | value (v : Toml)
  | table (origin : Origin) (entries : List (String × Node))
  | tables (items : List (List (String × Node)))

namespace Node

abbrev Entries := List (String × Node)

def lookup (key : String) (entries : Entries) : Option Node :=
  (entries.find? fun e => e.1 == key).map Prod.snd

def replace (key : String) (node : Node) (entries : Entries) : Entries :=
  entries.map fun e => if e.1 == key then (key, node) else e

/-- Whether a dotted key with `path` names still to go may enter a table of that origin. -/
def enters (origin : Origin) (path : List String) : Bool :=
  match origin with
  | .header => false
  | .way => !path.isEmpty
  | .dotted => true

/-- Sets a key below a path of dotted names. A key is set once. -/
def set? (v : Toml) (key : String) : List String → Entries → Option Entries
  | [], entries =>
    match lookup key entries with
    | none => some (entries ++ [(key, .value v)])
    | some _ => none
  | name :: path, entries =>
    match lookup name entries with
    | none => (set? v key path []).map fun inner => entries ++ [(name, .table .dotted inner)]
    | some (.table origin inner) =>
      if enters origin path then
        (set? v key path inner).map fun inner => replace name (.table origin inner) entries
      else none
    | some (.tables (last :: earlier)) =>
      if path.isEmpty then none
      else (set? v key path last).map fun last => replace name (.tables (last :: earlier)) entries
    | some _ => none

/-- Applies a change at the table that a path of header names leads to, making the tables on the
way. -/
def descend? (change : Entries → Option Entries) : List String → Entries → Option Entries
  | [], entries => change entries
  | name :: path, entries =>
    match lookup name entries with
    | none => (descend? change path []).map fun inner => entries ++ [(name, .table .way inner)]
    | some (.table origin inner) =>
      (descend? change path inner).map fun inner => replace name (.table origin inner) entries
    | some (.tables (last :: earlier)) =>
      (descend? change path last).map fun last => replace name (.tables (last :: earlier)) entries
    | some _ => none

/-- A header names a table once. -/
def name? (key : String) (entries : Entries) : Option Entries :=
  match lookup key entries with
  | none => some (entries ++ [(key, .table .header [])])
  | some (.table .way inner) => some (replace key (.table .header inner) entries)
  | some _ => none

/-- A header in double brackets begins one more table. -/
def nameItem? (key : String) (entries : Entries) : Option Entries :=
  match lookup key entries with
  | none => some (entries ++ [(key, .tables [[]])])
  | some (.tables items) => some (replace key (.tables ([] :: items)) entries)
  | some _ => none

mutual

/-- The value that a node has become. -/
def toToml : Node → Toml
  | .value v => v
  | .table _ entries => .table (entriesToToml entries)
  | .tables items => .array (itemsToToml items []) 

def entriesToToml : Entries → List (String × Toml)
  | [] => []
  | (key, node) :: rest => (key, toToml node) :: entriesToToml rest

def itemsToToml : List Entries → List Toml → List Toml
  | [], later => later
  | entries :: earlier, later => itemsToToml earlier (.table (entriesToToml entries) :: later)

end

end Node
end BulkLoad.Toml
