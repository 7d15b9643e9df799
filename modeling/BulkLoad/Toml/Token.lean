import BulkLoad.Text.Hex

/-!
The tokens of a TOML text. Comments leave no token; spaces do, since they part words.
-/
namespace BulkLoad.Toml

inductive Token where
  | openBracket
  | closeBracket
  | openBrace
  | closeBrace
  | equals
  | comma
  | dot
  | blank (spaces : List Char)
  | newline
  | text (value : String)
  | page (value : String)
  | word (value : List Char)
  deriving DecidableEq

namespace Token

/-- The character that a letter after a backslash stands for. -/
def escaped? : Char → Option Char
  | 'b' => some '\x08'
  | 't' => some '\t'
  | 'n' => some '\n'
  | 'f' => some '\x0c'
  | 'r' => some '\r'
  | 'e' => some '\x1b'
  | '"' => some '"'
  | '\\' => some '\\'
  | _ => none

/-- How many digits follow a letter after a backslash. -/
def escapeWidth? : Char → Option Nat
  | 'x' => some 2
  | 'u' => some 4
  | 'U' => some 8
  | _ => none

/-- The character with that number, if it is one. -/
def char? (n : Nat) : Option Char := if n.isValidChar then some (Char.ofNat n) else none

/-- The character after a backslash, and the rest. -/
def escape? : List Char → Option (Char × List Char)
  | [] => none
  | c :: cs =>
    match escapeWidth? c with
    | some width =>
      let ds := cs.take width
      if ds.length = width then
        match (Hex.number? ds).bind char? with
        | some d => some (d, cs.drop width)
        | none => none
      else none
    | none => (escaped? c).map fun d => (d, cs)

theorem escape?_length {cs rest : List Char} {c : Char} (hRead : escape? cs = some (c, rest)) :
    rest.length < cs.length := by
  cases cs with
  | nil => simp [escape?] at hRead
  | cons d tail =>
      simp only [escape?] at hRead
      split at hRead
      · split at hRead
        · split at hRead
          · cases hRead; simp only [List.length_drop, List.length_cons]; omega
          · simp at hRead
        · simp at hRead
      · cases hChar : escaped? d with
        | none => simp [hChar] at hRead
        | some e => simp [hChar] at hRead; simp [← hRead.2]

/-- A control character, other than a tab, has no place in a text as it is. -/
def isControl (c : Char) : Bool := (c.toNat < 0x20 && c ≠ '\t') || c = '\x7f'

/-- The rest of a text in double quotes on one line; `out` is what was read, in reverse. -/
def basic? (out : List Char) : List Char → Option (List Char × List Char)
  | [] => none
  | '"' :: rest => some (out.reverse, rest)
  | '\\' :: cs =>
    match _hEscape : escape? cs with
    | some (c, rest) => basic? (c :: out) rest
    | none => none
  | c :: cs => if isControl c then none else basic? (c :: out) cs
termination_by cs => cs.length
decreasing_by
  · exact Nat.lt_succ_of_lt (escape?_length _hEscape)
  · simp

/-- The rest of a text in single quotes on one line. -/
def literal? (out : List Char) : List Char → Option (List Char × List Char)
  | [] => none
  | '\'' :: rest => some (out.reverse, rest)
  | c :: cs => if isControl c then none else literal? (c :: out) cs

def isLineSpace (c : Char) : Bool := c = ' ' || c = '\t'

/-- What follows a line break, if one stands at the head. -/
def lineBreak? : List Char → Option (List Char)
  | '\n' :: cs => some cs
  | '\r' :: '\n' :: cs => some cs
  | _ => none

def isLayout (c : Char) : Bool := isLineSpace c || c = '\n' || c = '\r'

/-- Whether the blank rest of a line ends it. -/
def endsLine (cs : List Char) : Bool := (lineBreak? (cs.dropWhile isLineSpace)).isSome

/-- Whether every carriage return is followed by a line feed. -/
def returnsPaired : List Char → Bool
  | '\r' :: '\n' :: cs => returnsPaired cs
  | '\r' :: _ => false
  | _ :: cs => returnsPaired cs
  | [] => true

/-- What follows the blanks and line breaks after a backslash at the end of a line. -/
def joinLines? (cs : List Char) : Option (List Char) :=
  if endsLine cs && returnsPaired (cs.takeWhile isLayout) then some (cs.dropWhile isLayout)
  else none

theorem joinLines?_length {cs rest : List Char} (hJoin : joinLines? cs = some rest) :
    rest.length ≤ cs.length := by
  unfold joinLines? at hJoin
  split at hJoin
  · cases hJoin; exact List.dropWhile_suffix isLayout |>.length_le
  · simp at hJoin

/-- Three quotes end a text on several lines; up to two more before them belong to it. -/
def closing? (quote : Char) (out : List Char) (cs : List Char) : Option (List Char × List Char) :=
  let count := (cs.takeWhile (· = quote)).length
  if count < 3 then none
  else
    let kept := min 2 (count - 3)
    some ((List.replicate kept quote ++ out).reverse, cs.drop (kept + 3))

/-- The rest of a text in three double quotes. -/
def basicPage? (out : List Char) : List Char → Option (List Char × List Char)
  | [] => none
  | '\r' :: '\n' :: cs => basicPage? ('\n' :: '\r' :: out) cs
  | '\n' :: cs => basicPage? ('\n' :: out) cs
  | '\\' :: cs =>
    match _hJoin : joinLines? cs with
    | some rest => basicPage? out rest
    | none =>
      match _hEscape : escape? cs with
      | some (c, rest) => basicPage? (c :: out) rest
      | none => none
  | c :: cs =>
    if c = '"' then
      match closing? '"' out (c :: cs) with
      | some found => some found
      | none => basicPage? (c :: out) cs
    else if isControl c then none
    else basicPage? (c :: out) cs
termination_by cs => cs.length
decreasing_by
  · simp only [List.length_cons]; omega
  · simp
  · exact Nat.lt_succ_of_le (joinLines?_length _hJoin)
  · exact Nat.lt_succ_of_lt (escape?_length _hEscape)
  · simp
  · simp

/-- The rest of a text in three single quotes. -/
def literalPage? (out : List Char) : List Char → Option (List Char × List Char)
  | [] => none
  | '\r' :: '\n' :: cs => literalPage? ('\n' :: '\r' :: out) cs
  | '\n' :: cs => literalPage? ('\n' :: out) cs
  | c :: cs =>
    if c = '\'' then
      match closing? '\'' out (c :: cs) with
      | some found => some found
      | none => literalPage? (c :: out) cs
    else if isControl c then none
    else literalPage? (c :: out) cs

/-- A line break right after the opening quotes is no part of the text. -/
def dropFirstBreak (cs : List Char) : List Char := (lineBreak? cs).getD cs

def isSpecial (c : Char) : Bool :=
  isLayout c || c ∈ ['#', '=', ',', '[', ']', '\x7b', '\x7d', '.', '"', '\'']

def textToken : List Char × List Char → Token × List Char
  | (s, rest) => (.text (String.ofList s), rest)

def pageToken : List Char × List Char → Token × List Char
  | (s, rest) => (.page (String.ofList s), rest)

/-- The token at the head of a text that begins with no comment. -/
def next? : List Char → Option (Token × List Char)
  | '[' :: cs => some (.openBracket, cs)
  | ']' :: cs => some (.closeBracket, cs)
  | '\x7b' :: cs => some (.openBrace, cs)
  | '\x7d' :: cs => some (.closeBrace, cs)
  | '=' :: cs => some (.equals, cs)
  | ',' :: cs => some (.comma, cs)
  | '.' :: cs => some (.dot, cs)
  | '\n' :: cs => some (.newline, cs)
  | '\r' :: '\n' :: cs => some (.newline, cs)
  | '"' :: '"' :: '"' :: cs => (basicPage? [] (dropFirstBreak cs)).map pageToken
  | '\'' :: '\'' :: '\'' :: cs => (literalPage? [] (dropFirstBreak cs)).map pageToken
  | '"' :: cs => (basic? [] cs).map textToken
  | '\'' :: cs => (literal? [] cs).map textToken
  | cs =>
    let spaces := cs.takeWhile isLineSpace
    if spaces.isEmpty then
      let w := cs.takeWhile fun c => !isSpecial c
      if w.isEmpty then none else some (.word w, cs.drop w.length)
    else some (.blank spaces, cs.drop spaces.length)

/-- What follows a comment: it ends with its line and holds no control characters. -/
def comment? (cs : List Char) : Option (List Char) :=
  let rest := cs.dropWhile fun c => !isControl c
  if rest.isEmpty || (lineBreak? rest).isSome then some rest else none

/-- The tokens of a text, behind the reverse of those already read. Each takes at least one
character; the fuel is the length of the text. -/
def readAll? (read : List Token) : Nat → List Char → Option (List Token)
  | _, [] => some read.reverse
  | 0, _ => none
  | fuel + 1, '#' :: cs => (comment? cs).bind (readAll? read fuel)
  | fuel + 1, cs =>
    match next? cs with
    | some (token, rest) => readAll? (token :: read) fuel rest
    | none => none

end Token
end BulkLoad.Toml
