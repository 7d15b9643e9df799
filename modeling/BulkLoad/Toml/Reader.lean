import BulkLoad.Toml.Scalar
import BulkLoad.Toml.Token
import BulkLoad.Toml.Tree

/-!
Reading TOML: keys, values and statements from tokens.

As in JSON, values are read with a stack of the arrays and tables that are open; here the stack has
a greatest depth.
-/
namespace BulkLoad.Toml

open Node (Entries)

/-- How deep arrays and tables in braces may be nested. -/
def maxDepth : Nat := 80

def isBareKey (c : Char) : Bool := c.isAlphanum || c = '-' || c = '_'

def dropBlank : List Token → List Token
  | .blank _ :: ts => ts
  | ts => ts

theorem dropBlank_length (ts : List Token) : (dropBlank ts).length ≤ ts.length := by
  unfold dropBlank; split <;> simp

/-- What follows spaces and line breaks. -/
def dropLayout : List Token → List Token
  | .blank _ :: ts => dropLayout ts
  | .newline :: ts => dropLayout ts
  | ts => ts

theorem dropLayout_length (ts : List Token) : (dropLayout ts).length ≤ ts.length := by
  fun_induction dropLayout ts with
  | case1 _ ts ih => simp only [List.length_cons]; omega
  | case2 ts ih => simp only [List.length_cons]; omega
  | case3 => exact Nat.le_refl _

/-- One name of a key. -/
def name? : Token → Option String
  | .text s => some s
  | .word w => if w.all isBareKey then some (String.ofList w) else none
  | _ => none

/-- The names of a dotted key behind those already read, and what follows. -/
def keyOnto? (read : List String) : List Token → Option (List String × List Token)
  | [] => none
  | t :: ts =>
    match name? t with
    | none => none
    | some name =>
      match _hNext : dropBlank ts with
      | .dot :: more =>
        match _hMore : dropBlank more with
        | [] => none
        | u :: us => keyOnto? (name :: read) (u :: us)
      | rest => some ((name :: read), rest)
termination_by ts => ts.length
decreasing_by
  have hFirst := dropBlank_length ts
  have hSecond := dropBlank_length more
  rw [_hNext] at hFirst
  rw [_hMore] at hSecond
  simp only [List.length_cons] at *
  omega

theorem keyOnto?_length {read names : List String} {ts rest : List Token}
    (hKey : keyOnto? read ts = some (names, rest)) : rest.length < ts.length := by
  fun_induction keyOnto? read ts with
  | case1 => simp at hKey
  | case2 => simp at hKey
  | case3 => simp at hKey
  | case4 read t ts name hName more hNext u us hMore ih =>
      have hRest := ih hKey
      have hFirst := dropBlank_length ts
      have hSecond := dropBlank_length more
      rw [hNext] at hFirst
      rw [hMore] at hSecond
      simp only [List.length_cons] at *
      omega
  | case5 read t ts name hName hNext =>
      have hFirst := dropBlank_length ts
      simp only [Option.some.injEq, Prod.mk.injEq] at hKey
      rw [← hKey.2]
      simp only [List.length_cons]
      omega

/-- A key: the names on its way, its last name, and what follows. -/
def key? (ts : List Token) : Option (List String × String × List Token) :=
  match keyOnto? [] ts with
  | some (last :: way, rest) => some (way.reverse, last, rest)
  | _ => none

theorem key?_length {ts rest : List Token} {way : List String} {last : String}
    (hKey : key? ts = some (way, last, rest)) : rest.length < ts.length := by
  unfold key? at hKey
  split at hKey
  · rename_i hRead
    simp only [Option.some.injEq, Prod.mk.injEq] at hKey
    rw [← hKey.2.2]
    exact keyOnto?_length hRead
  · simp at hKey

/-- The words and points that follow one another without a space. -/
def wordOnto (read : List Char) : List Token → List Char × List Token
  | .word w :: ts => wordOnto (read ++ w) ts
  | .dot :: ts => wordOnto (read ++ ['.']) ts
  | ts => (read, ts)

theorem wordOnto_length (read : List Char) (ts : List Token) :
    (wordOnto read ts).2.length ≤ ts.length := by
  fun_induction wordOnto read ts with
  | case1 read w ts ih => simp only [List.length_cons]; omega
  | case2 read ts ih => simp only [List.length_cons]; omega
  | case3 => simp

/-- An unquoted value; a date and a time may be parted by one space. -/
def scalarWord (read : List Char) (ts : List Token) : List Char × List Token :=
  match wordOnto read ts with
  | (date, .blank [' '] :: .word w :: rest) =>
    if isDate date && w.head?.any Decimal.isDigit then wordOnto (date ++ ' ' :: w) rest
    else (date, .blank [' '] :: .word w :: rest)
  | found => found

theorem scalarWord_length (read : List Char) (ts : List Token) :
    (scalarWord read ts).2.length ≤ ts.length := by
  have hWord := wordOnto_length read ts
  unfold scalarWord
  split
  · rename_i date w rest hFound
    rw [hFound] at hWord
    simp only [List.length_cons] at hWord
    split
    · exact Nat.le_trans (wordOnto_length ..) (by omega)
    · simpa using hWord
  · exact hWord

/-- What is open around a value: an array with the items before it in reverse, or a table in braces
with the entries before it and the key of the value. -/
inductive Frame where
  | items (before : List Toml)
  | entries (before : Entries) (way : List String) (last : String)

mutual

/-- A value is due. -/
def value? (frames : List Frame) : List Token → Option (Toml × List Token)
  | .blank _ :: ts => value? frames ts
  | .text s :: ts => close? frames (.text s) ts
  | .page s :: ts => close? frames (.text s) ts
  | .openBracket :: ts => if frames.length < maxDepth then items? frames [] ts else none
  | .openBrace :: ts => if frames.length < maxDepth then entries? frames [] ts else none
  | .word w :: ts =>
    match scalar? (scalarWord w ts).1 with
    | some v => close? frames v (scalarWord w ts).2
    | none => none
  | _ => none
termination_by ts => 3 * ts.length
decreasing_by
  all_goals
    have := scalarWord_length
    simp only [List.length_cons]
    grind

/-- An item or the end of an array is due. -/
def items? (frames : List Frame) (before : List Toml) : List Token → Option (Toml × List Token)
  | .blank _ :: ts => items? frames before ts
  | .newline :: ts => items? frames before ts
  | .closeBracket :: ts => close? frames (.array before.reverse) ts
  | ts => value? (.items before :: frames) ts
termination_by ts => 3 * ts.length + 1

/-- A key or the end of a table in braces is due. Lines may be broken on both sides of the equals
sign. -/
def entries? (frames : List Frame) (before : Entries) : List Token → Option (Toml × List Token)
  | .blank _ :: ts => entries? frames before ts
  | .newline :: ts => entries? frames before ts
  | .closeBrace :: ts => close? frames (.table (Node.entriesToToml before)) ts
  | ts =>
    match _hKey : key? ts with
    | none => none
    | some (way, last, more) =>
      match _hMore : dropLayout more with
      | .equals :: rest => value? (.entries before way last :: frames) (dropLayout rest)
      | _ => none
termination_by ts => 3 * ts.length + 1
decreasing_by
  · simp
  · simp
  · simp only [List.length_cons]; omega
  · have hKey := key?_length _hKey
    have hMore := dropLayout_length more
    have hRest := dropLayout_length rest
    rw [_hMore] at hMore
    simp only [List.length_cons] at hMore
    omega

/-- A value is read, and what is open around it goes on or ends. -/
def close? (frames : List Frame) (v : Toml) (ts : List Token) : Option (Toml × List Token) :=
  match frames, ts with
  | [], ts => some (v, ts)
  | frames, .blank _ :: ts => close? frames v ts
  | frames, .newline :: ts => close? frames v ts
  | .items before :: frames, .comma :: ts => items? frames (v :: before) ts
  | .items before :: frames, .closeBracket :: ts => close? frames (.array (v :: before).reverse) ts
  | .entries before way last :: frames, .comma :: ts =>
    match Node.set? v last way before with
    | some before => entries? frames before ts
    | none => none
  | .entries before way last :: frames, .closeBrace :: ts =>
    match Node.set? v last way before with
    | some entries => close? frames (.table (Node.entriesToToml entries)) ts
    | none => none
  | _, _ => none
termination_by 3 * ts.length + 2

end

/-- The tables read so far, and the header they are read under. -/
structure Document where
  root : Entries := []
  header : List String := []

namespace Document

def enter? (d : Document) (v : Toml) (way : List String) (last : String) : Option Document :=
  (Node.descend? (Node.set? v last way) d.header d.root).map fun root => { d with root }

def name? (d : Document) (way : List String) (last : String) : Option Document :=
  (Node.descend? (Node.name? last) way d.root).map fun root => ⟨root, way ++ [last]⟩

def nameItem? (d : Document) (way : List String) (last : String) : Option Document :=
  (Node.descend? (Node.nameItem? last) way d.root).map fun root => ⟨root, way ++ [last]⟩

/-- One statement: a header or a key with its value, and what follows. -/
def statement? (d : Document) : List Token → Option (Document × List Token)
  | .openBracket :: .openBracket :: ts =>
    match key? (dropBlank ts) with
    | some (way, last, .closeBracket :: .closeBracket :: rest) =>
      (d.nameItem? way last).map fun d => (d, rest)
    | _ => none
  | .openBracket :: ts =>
    match key? (dropBlank ts) with
    | some (way, last, .closeBracket :: rest) => (d.name? way last).map fun d => (d, rest)
    | _ => none
  | ts =>
    match key? ts with
    | some (way, last, .equals :: rest) => do
      let (v, rest) ← value? [] rest
      return (← d.enter? v way last, rest)
    | _ => none

/-- The statements of a text, each on a line of its own. A statement takes at least one token; the
fuel is the number of tokens. -/
def read? (d : Document) : Nat → List Token → Option Document
  | _, [] => some d
  | 0, _ => none
  | fuel + 1, .blank _ :: ts => read? d fuel ts
  | fuel + 1, .newline :: ts => read? d fuel ts
  | fuel + 1, ts =>
    match d.statement? ts with
    | none => none
    | some (d, rest) =>
      match dropBlank rest with
      | [] => some d
      | .newline :: rest => read? d fuel rest
      | _ => none

end Document

/-- A text may begin with a byte order mark. -/
def dropMark : List Char → List Char
  | '\uFEFF' :: cs => cs
  | cs => cs

/-- The entries that a text holds. -/
def parse? (s : String) : Option (List (String × Toml)) := do
  let cs := dropMark s.toList
  let ts ← Token.readAll? [] cs.length cs
  let d ← Document.read? {} ts.length ts
  return Node.entriesToToml d.root

end BulkLoad.Toml
