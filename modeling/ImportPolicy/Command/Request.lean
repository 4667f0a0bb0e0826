import ImportPolicy.Command.Arguments
import ImportPolicy.Interruption

/-!
# Requests

What the arguments ask for: a command with its settings. The events of a
reading take effect one after the other. Some of them end the program, with
an outcome of their own: help, the version, and everything that is wrong with
the arguments. Two dashes are never a value: an option they are attached to
is left without one, and that ends the program without an outcome.

Arguments that are left over are refused at the very end, those before the
command first.
-/

namespace ImportPolicy.Command

/-- How the program ends: its exit code and what it writes. -/
structure Outcome where
  /-- The exit code. -/
  code : Nat := 0
  /-- What is written to the standard output. -/
  output : String := ""
  /-- What is written to the standard error. -/
  errors : String := ""
  deriving DecidableEq, Repr

/-- How the program ends before it has a request. -/
inductive Ending where
  | outcome (o : Outcome)
  | interruption (i : Interruption)
  deriving DecidableEq, Repr

/-- The exit code when all is well. -/
def codeFine : Nat := 0

/-- The exit code when there is something to report. -/
def codeProblems : Nat := 1

/-- The exit code when the request cannot be met. -/
def codeUsage : Nat := 2

/-- The version of the program. -/
def version : String := "0.3.0"

/-- A complaint about the arguments. -/
def Grammar.complain (g : Grammar) (f : Fault) : Ending :=
  .outcome { code := codeUsage,
             errors := g.usage ++ g.program ++ ": error: " ++ f.message ++ "\n" }

/-- How reports are written. -/
inductive Format where
  | text
  | json
  deriving DecidableEq, Repr

/-- The formats as they are written. -/
def Format.choices : List (String × Format) := [("text", .text), ("json", .json)]

/-- The settings of a command. -/
structure Settings where
  /-- The root of the project. -/
  path : String := "."
  /-- The file to explain. -/
  file : String := ""
  /-- How reports are written. -/
  format : Format := .text
  /-- Whether tests are checked too. -/
  includeTests : Bool := false
  /-- The file with the policy. -/
  config : Option String := none
  /-- Whether only grave remarks are wanted. -/
  quiet : Bool := false
  /-- Whether all remarks are wanted. -/
  verbose : Bool := false
  deriving DecidableEq, Repr

/-- The settings after an option. -/
def applyFlag (g : Grammar) (s : Settings) (f : Flag) (value : Option String) :
    Except Ending Settings :=
  if f.takesValue && value = some "--" then .error (.interruption .lostValue)
  else match f with
  | .help => .error (.outcome { output := g.help })
  | .version => .error (.outcome { output := g.program ++ " " ++ version ++ "\n" })
  | .format =>
    let value := value.getD ""
    match Format.choices.lookup value with
    | some format => .ok { s with format }
    | none => .error (g.complain (.choice f.shown value (Format.choices.map (·.1))))
  | .includeTests => .ok { s with includeTests := true }
  | .config => .ok { s with config := value }
  | .quiet => .ok { s with quiet := true }
  | .verbose => .ok { s with verbose := true }

/-- The settings of a command after an event. -/
def applyEvent (g : Grammar) (s : Settings) : Event → Except Ending Settings
  | .flag f value => applyFlag g s f value
  | .positional p values => match p, values with
    | .path, value :: _ => .ok { s with path := value }
    | .file, value :: _ => .ok { s with file := value }
    | _, _ => .ok s

/-- The settings of a command and what is left over of its arguments. -/
def settings (name : Name) (arguments : List String) :
    Except Ending (Settings × List String) := do
  let g := Grammar.ofName name
  let reading := read g arguments
  let s ← reading.events.foldlM (applyEvent g) {}
  match reading.fault with
  | some f => .error (g.complain f)
  | none => .ok (s, reading.extras)

/-- A command with its settings. -/
structure Request where
  /-- The command; without one, an overview is asked for. -/
  name : Name := .help
  /-- Its settings. -/
  settings : Settings := {}
  deriving DecidableEq, Repr

/-- A request and what is left over of the arguments, after an event. -/
def requestEvent (g : Grammar) (got : Request × List String) :
    Event → Except Ending (Request × List String)
  | .flag f value => do
    let _ ← applyFlag g {} f value
    .ok got
  | .positional _ [] => .ok got
  | .positional _ (text :: arguments) =>
    match Name.ofString? text with
    | some name => do
      let (settings, extras) ← settings name arguments
      .ok ({ name, settings }, extras)
    | none =>
      .error (g.complain (.choice Positional.command.shown text (Name.all.map Name.toString)))

/-- What the arguments ask for, or how the program ends without it. -/
def request (arguments : List String) : Except Ending Request := do
  let g := Grammar.main
  let reading := read g arguments
  let (request, inner) ← reading.events.foldlM (requestEvent g) ({}, [])
  match reading.fault, reading.extras ++ inner with
  | some f, _ => .error (g.complain f)
  | none, [] => .ok request
  | none, extras => .error (g.complain (.unrecognized extras))

end ImportPolicy.Command
