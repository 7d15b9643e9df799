import BulkLoad.Cli.Environment
import BulkLoad.Cli.Switch

/-!
Reading the arguments of a command, from left to right.

A command has switches, and may have commands below it, the first of which ends its own arguments.
Nothing else may stand among them.
-/
namespace BulkLoad.Cli

/-- What the arguments of a command may be, and which switches exclude one another. -/
structure Grammar where
  switches : List Switch
  commands : List String := []
  conflicts : List (String × String) := []

namespace Grammar

def named? (g : Grammar) (name : String) : Option Switch :=
  g.switches.find? fun s => s.name == name

def lettered? (g : Grammar) (letter : Char) : Option Switch :=
  g.switches.find? fun s => s.letter == some letter

/-- What is wrong with a word that is no switch, no value and no command. -/
def stray (g : Grammar) (word : String) : Refusal :=
  if g.commands.isEmpty then .unexpected word else .unknownCommand word

/-- Nothing may follow the double dash; a command that does is no command there. -/
def strayAfterDashes (g : Grammar) (word : String) : Refusal :=
  if g.commands.contains word then .unexpected word else g.stray word

/-- A switch by its name, with the text after an equals sign if there is one. -/
def takeNamed (g : Grammar) (m : Matches) (cs : List Char) : Except Refusal Matches :=
  let (name, rest) := cs.span (· ≠ '=')
  match g.named? (String.ofList name), rest with
  | none, _ => .error (.unexpected (String.ofList ('-' :: '-' :: name)))
  | some s, [] => if s.takesValue then m.await s else m.complete s none
  | some s, _ :: text =>
    if s.takesValue then m.complete s (some (String.ofList text))
    else .error (.surplusValue s.name)

/-- Switches by their letters. What follows the letter of a switch that takes a value is the value,
without an equals sign at its head. -/
def takeLettered (g : Grammar) (m : Matches) : List Char → Except Refusal Matches
  | [] => .ok m
  | c :: cs =>
    match g.lettered? c with
    | none => .error (.unexpected (String.ofList ['-', c]))
    | some s =>
      if s.takesValue then
        match cs with
        | [] => m.await s
        | '=' :: text => m.complete s (some (String.ofList text))
        | text => m.complete s (some (String.ofList text))
      else do takeLettered g (← m.complete s none) cs

/-- A word that is no switch is the value that is awaited. -/
def takeWord (g : Grammar) (m : Matches) (word : String) : Except Refusal Matches :=
  match m.waiting with
  | some (s, none) => .ok { m with waiting := some (s, some word) }
  | _ => .error (g.stray word)

def takeArgument (g : Grammar) (m : Matches) (arg : String) : Except Refusal Matches :=
  match arg.toList with
  | '-' :: '-' :: cs => g.takeNamed m cs
  | '-' :: c :: cs => g.takeLettered m (c :: cs)
  | _ => g.takeWord m arg

/-- Reads arguments up to a command, which is returned with the arguments behind it. -/
def walk (g : Grammar) (m : Matches) :
    List String → Except Refusal (Matches × Option (String × List String))
  | [] => .ok (m, none)
  | arg :: args =>
    if !m.isAwaiting && g.commands.contains arg then .ok (m, some (arg, args))
    else if arg = "--" then
      match args with
      | [] => .ok (m, none)
      | word :: _ => .error (g.strayAfterDashes word)
    else do walk g (← g.takeArgument m arg) args

/-- Takes a switch from its variable, if it was not given. -/
def takeVariable (env : Environment) (m : Matches) (s : Switch) : Except Refusal Matches :=
  match s.envName.bind env.get? with
  | none => .ok m
  | some text => if m.has s.name then .ok m else m.takeText s .environment text

/-- Takes what waits, and what the environment gives. -/
def finish (g : Grammar) (env : Environment) (m : Matches) : Except Refusal Matches := do
  g.switches.foldlM (takeVariable env) (← m.settle)

/-- Refuses switches that exclude one another. -/
def check (g : Grammar) (m : Matches) : Except Refusal Unit :=
  match g.conflicts.find? fun c => m.has c.1 && m.has c.2 with
  | some (a, b) => .error (.conflict a b)
  | none => .ok ()

end Grammar
end BulkLoad.Cli
