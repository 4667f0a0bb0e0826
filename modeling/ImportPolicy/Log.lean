import ImportPolicy.Text.Blank
import ImportPolicy.Text.Ranges

/-!
# Logging

Remarks on a run go to loggers, which form a tree by their dotted names. A
logger passes on what is at least as grave as its level; a level of zero
means that the nearest logger above it decides.

A variable of the environment names the level. It counts until the command
line has set the levels of the loggers it knows; from then on they stay as
they are until it sets them again.
-/

namespace ImportPolicy.Log

/-- How grave a remark is. -/
inductive Severity where
  | debug
  | info
  | warning
  | error
  | critical
  deriving DecidableEq, Repr

/-- The number of a severity. -/
def Severity.level : Severity → Nat
  | .debug => 10
  | .info => 20
  | .warning => 30
  | .error => 40
  | .critical => 50

/-- The name of a severity. -/
def Severity.name : Severity → String
  | .debug => "DEBUG"
  | .info => "INFO"
  | .warning => "WARNING"
  | .error => "ERROR"
  | .critical => "CRITICAL"

/-- A remark. -/
structure Record where
  /-- How grave it is. -/
  severity : Severity
  /-- The logger it goes to. -/
  logger : String
  /-- What it says. -/
  message : String
  deriving DecidableEq, Repr

/-- The variable of the environment that names a level. -/
def levelName : String := "IMPORTGUARD_LOG_LEVEL"

/-- The logger above all others of this program. -/
def topName : String := "importguard"

/-- The full name of a logger. -/
def fullName (name : String) : String := topName ++ "." ++ name

/-- The level that counts where no logger decides. -/
def rootLevel : Nat := Severity.warning.level

/-! ## Levels from the environment -/

/-- What a name stands for if it does not stand for a level. -/
inductive LevelFault where
  /-- The format of a remark. -/
  | format
  /-- The table of the formats, by style. -/
  | styles
  deriving DecidableEq, Repr

/-- The wording of a fault. -/
def LevelFault.message : LevelFault → String
  | .format => "Unknown level: '%(levelname)s:%(name)s:%(message)s'"
  | .styles => "Level not an integer or a valid string: \x7b"
      ++ "'%': (<class 'logging.PercentStyle'>, '%(levelname)s:%(name)s:%(message)s'), "
      ++ "'\x7b': (<class 'logging.StrFormatStyle'>, "
      ++ "'\x7blevelname\x7d:\x7bname\x7d:\x7bmessage\x7d'), "
      ++ "'$': (<class 'logging.StringTemplateStyle'>, "
      ++ "'$\x7blevelname\x7d:$\x7bname\x7d:$\x7bmessage\x7d')\x7d"

/-- A character in upper case, as far as it can become part of a name that
stands for something: Latin letters, the dotless i, the long s and its
ligatures with a t. -/
def upper (c : Char) : List Char :=
  if c = 'ı' then ['I']
  else if c = 'ſ' then ['S']
  else if c = 'ﬅ' ∨ c = 'ﬆ' then ['S', 'T']
  else [c.toUpper]

/-- The level that a name stands for. Names that are not known mean the same
as `INFO`. -/
def levelNamed (name : String) : Except LevelFault Nat :=
  match name with
  | "DEBUG" => .ok Severity.debug.level
  | "INFO" => .ok Severity.info.level
  | "WARN" | "WARNING" => .ok Severity.warning.level
  | "ERROR" => .ok Severity.error.level
  | "CRITICAL" | "FATAL" => .ok Severity.critical.level
  | "NOTSET" => .ok 0
  | "BASIC_FORMAT" => .error .format
  | "_STYLES" => .error .styles
  | _ => .ok Severity.info.level

/-- The name in the variable of the environment, without blanks around it and
in upper case. -/
def nameIn (setting : Option String) : String :=
  String.ofList ((Text.trim (setting.getD "").toList).flatMap upper)

/-- The level that the variable of the environment asks for. -/
def levelFrom (setting : Option String) : Except LevelFault Nat := levelNamed (nameIn setting)

/-- Where a level of zero leaves the decision to the root. -/
def effective (level : Nat) : Nat := if level = 0 then rootLevel else level

/-- The remarks that are passed on at a level. -/
def passed (level : Nat) (records : List Record) : List Record :=
  records.filter fun r => effective level ≤ r.severity.level

/-- The remarks that get through when only the environment sets the level,
which is not looked at before there is a remark. -/
def emitted (setting : Option String) : List Record → Except LevelFault (List Record)
  | [] => .ok []
  | records => do
    let level ← levelFrom setting
    .ok (passed level records)

/-! ## The state of the loggers -/

/-- The loggers that the command line sets. -/
def knownNames : List String := ["cli", "config", "host", "checks", "glob"]

/-- The state of the loggers. -/
structure Loggers where
  /-- The variable of the environment. -/
  setting : Option String := none
  /-- The levels of the loggers that were asked for. -/
  levels : List (String × Nat) := []
  /-- The number of handlers of the top logger. -/
  handlers : Nat := 0
  /-- Whether the top logger passes remarks on to other programs' handlers. -/
  propagate : Bool := true
  /-- Whether the command line has set levels. -/
  configured : Bool := false
  deriving DecidableEq, Repr

namespace Loggers

/-- A change of the loggers. One that fails leaves them as they are at that
moment. -/
abbrev Change := EStateM LevelFault Loggers

/-- The level of a logger by itself. -/
def level (s : Loggers) (name : String) : Nat := (s.levels.lookup name).getD 0

/-- The loggers with another level for one of them. -/
def withLevel (s : Loggers) (name : String) (level : Nat) : Loggers :=
  { s with levels := (name, level) :: s.levels.filter (·.1 ≠ name) }

/-- Sets the level of a logger. What is not a level is refused. -/
def setLevel (name : String) : Except LevelFault Nat → Change Unit
  | .ok level => modify (·.withLevel name level)
  | .error f => throw f

/-- The level of the top logger, the number of its handlers, and whether it
passes remarks on to other programs' handlers. -/
structure Top where
  /-- The level. -/
  level : Nat
  /-- The number of handlers. -/
  handlers : Nat
  /-- Whether remarks are passed on. -/
  propagate : Bool
  deriving DecidableEq, Repr

/-- The state of the top logger. -/
def top (s : Loggers) : Top where
  level := s.level topName
  handlers := s.handlers
  propagate := s.propagate

/-- The loggers with a handler of the top logger, which then keeps its
remarks. There may be one already. -/
def withHandler (s : Loggers) : Loggers :=
  if s.handlers = 0 then { s with handlers := s.handlers + 1, propagate := false } else s

/-- The level that the flags of the command line ask for; the environment
counts when there are none. -/
def wanted (quiet verbose : Bool) (setting : Option String) : Except LevelFault Nat :=
  if verbose then .ok Severity.debug.level
  else if quiet then .ok Severity.warning.level
  else levelFrom setting

/-- Sets the levels from the flags of the command line. -/
def configure (quiet verbose : Bool) : Change Unit := do
  let level := wanted quiet verbose (← get).setting
  setLevel topName level
  modify withHandler
  knownNames.forM fun name => setLevel (fullName name) level
  modify fun s => { s with configured := true }

/-- Asks for a logger. Until levels are set, it gets the level that the
environment asks for. -/
def request (name : String) : Change Unit := do
  let s ← get
  if !s.configured then setLevel (fullName name) (levelFrom s.setting)

/-- What changes the state of the loggers. -/
inductive Step where
  /-- Sets the variable of the environment, or removes it. -/
  | setting (value : Option String)
  | configure (quiet verbose : Bool)
  | get (name : String)
  deriving DecidableEq, Repr

/-- What a step does. -/
def Step.perform : Step → Change Unit
  | .setting value => modify fun s => { s with setting := value }
  | .configure quiet verbose => Loggers.configure quiet verbose
  | .get name => request name

/-- The state after a step that succeeds. -/
def step (s : Loggers) (change : Step) : Except LevelFault Loggers :=
  match change.perform s with
  | .ok _ next => .ok next
  | .error f _ => .error f

/-- The state after a step, whether it succeeds or not. -/
def after (s : Loggers) (change : Step) : Loggers :=
  match change.perform s with
  | .ok _ next => next
  | .error _ next => next

/-- The state after some steps. -/
def run (s : Loggers) (changes : List Step) : Loggers := changes.foldl after s

/-- The names above a dotted name, the nearest first: what stands before its
last dot, then what stands before the last dot of that, and so on. A dot
right before another one is passed over. The name is given in reverse, and
the first argument bounds how many dots are looked for. -/
def above : Nat → List Char → List (List Char)
  | 0, _ => []
  | n + 1, reversed =>
    match reversed.dropWhile (· ≠ '.') with
    | '.' :: c :: rest => (c :: rest).reverse :: above n rest
    | _ => []

/-- The level that counts for a logger: the first one that is not zero among
its own and those of the loggers above it. -/
def effectiveLevel (s : Loggers) (name : String) : Nat :=
  let names := name :: (above name.length name.toList.reverse).map String.ofList
  match (names.map s.level).find? (· ≠ 0) with
  | some level => level
  | none => rootLevel

end Loggers

end ImportPolicy.Log
