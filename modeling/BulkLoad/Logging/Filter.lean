import BulkLoad.Decimal.Natural
import BulkLoad.Journal
import BulkLoad.Text.Alphanumeric
import BulkLoad.Text.Blank

/-!
Which log records are kept.

A filter is a list of rules, each for the targets that begin with a text, and perhaps only for
records with some field. Of the rules for a record the one with the longest text counts, of those
one that asks for a field, and of equal rules the last.
-/
namespace BulkLoad

/-- The records of a target that a rule is for. A rule for spans says nothing about records outside
of them. -/
inductive LogScope where
  | all
  | withField (name : String)
  | spans
  deriving DecidableEq, Repr

/-- Keeps the records of some targets up to a level, or none of them. -/
structure LogRule where
  target : String := ""
  most : Option Level
  scope : LogScope := .all
  deriving DecidableEq, Repr

namespace LogScope

def covers (s : LogScope) (r : Record) : Bool :=
  match s with
  | .all => true
  | .withField name => name = "message" || r.fields.any fun field => field.1 = name
  | .spans => false

/-- Whether a scope counts before another or is equal to it. -/
def isAsNarrow : LogScope → LogScope → Bool
  | .withField a, .withField b => b ≤ a
  | .all, .withField _ => false
  | _, _ => true

end LogScope

namespace LogRule

def covers (rule : LogRule) (r : Record) : Bool :=
  rule.scope.covers r && r.target.startsWith rule.target

/-- Whether a rule counts before another for the records of both, or is as narrow. -/
def isAsNarrow (rule other : LogRule) : Bool :=
  other.target.length < rule.target.length
    || (other.target.length = rule.target.length && rule.scope.isAsNarrow other.scope)

def keeps (r : LogRule) (level : Level) : Bool :=
  match r.most with
  | none => false
  | some most => level.rank ≤ most.rank

/-- A level by its name, in letters of either case, or by its number; zero and `off` keep
nothing. -/
def most? (text : String) : Option (Option Level) :=
  let levels := [none, some .error, some .warn, some .info, some .debug, some .trace]
  let names := ["off", "error", "warn", "info", "debug", "trace"]
  match Decimal.natural? 5 false text with
  | some n => levels[n]?
  | none =>
    if text = "" then some (some .error)
    else ((names.zip levels).find? fun e => e.1 == text.toLower).map Prod.snd

/-- What follows an equals sign: a level, or nothing for all levels. -/
def mostAfter? (text : List Char) : Option (Option Level) :=
  if text.isEmpty then some (some .trace) else most? (String.ofList text)

def startsTarget (c : Char) : Bool := Text.isAlphanumeric c || ['-', ':', '_'].contains c

/-- The level of a rule about spans: `rest` follows the bracket that closes, at the given place
of the text. -/
def mostBehind? (text : List Char) (place : Nat) : List Char → Option (Option Level)
  | [] => some (some .trace)
  | '=' :: _ => mostAfter? (text.drop (place + 1))
  | _ => none

/-- A rule about spans. `cs` follows the bracket that opens, at the given place of the text: a name,
and a field in braces. A field without a name in front and without a value is one of records. -/
def ofSpan? (text : List Char) (target : String) (place : Nat) (cs : List Char) :
    Option LogRule :=
  let (name, rest) := cs.span fun c => c ≠ ']' && c ≠ '\x7b'
  let first := place + name.length + 1
  match rest with
  | ']' :: rest =>
    (mostBehind? text first rest).map fun most => { target, most, scope := .spans }
  | '\x7b' :: more =>
    match more.span (· ≠ '\x7d') with
    | (c :: field, '\x7d' :: ']' :: rest) =>
      let last := first + (c :: field).length
      let field := (text.take last).drop first
      let scope :=
        if name.isEmpty && !field.contains '=' then LogScope.withField (String.ofList field)
        else .spans
      (mostBehind? text (last + 2) rest).map fun most => { target, most, scope }
    | _ => none
  | _ => none

/-- A rule from its text: a level, a target, or a target and a level with an equals sign between.
Blanks around the text shift what is read, since places are counted from the first character that is
no blank. -/
def ofText? (text : List Char) : Option LogRule :=
  let cs := Text.trim text
  let (head, rest) := cs.span fun c => c ≠ '=' && c ≠ '['
  let target := String.ofList (text.take head.length)
  match head, rest with
  | [], '[' :: inside => ofSpan? text "" 1 inside
  | [], _ => none
  | c :: _, rest =>
    if !startsTarget c then none
    else
      match rest with
      | [] =>
        let all := String.ofList text
        match most? all with
        | some most => some { most }
        | none => some { target := all, most := some .trace }
      | '[' :: inside => ofSpan? text target (head.length + 1) inside
      | _ => (mostAfter? (text.drop (head.length + 1))).map fun most => { target, most }

end LogRule

/-- The rules of a filter. -/
structure LogFilter where
  rules : List LogRule
  deriving DecidableEq, Repr

namespace LogFilter

def upTo (level : Level) : LogFilter := ⟨[{ most := some level }]⟩

/-- The rule that counts for a record. -/
def ruleFor? (f : LogFilter) (r : Record) : Option LogRule :=
  f.rules.foldl
    (fun best rule =>
      if rule.covers r && best.all fun other => rule.isAsNarrow other then some rule else best)
    none

def keeps (f : LogFilter) (r : Record) : Bool := (f.ruleFor? r).any fun rule => rule.keeps r.level

/-- A filter from its text, rules between commas; no rules at all keep errors only. -/
def ofText? (text : String) : Option LogFilter :=
  match ((text.splitOn ",").filter (· ≠ "")).mapM fun part => LogRule.ofText? part.toList with
  | none => none
  | some [] => some (upTo .error)
  | some rules => some ⟨rules⟩

end LogFilter

end BulkLoad
