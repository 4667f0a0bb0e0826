import ImportPolicy.Environment.Basic
import ImportPolicy.Files.Workspace
import ImportPolicy.Glob.Path
import ImportPolicy.Log

/-!
# Interruptions

Nearly everything that can go wrong has an answer: a pattern that matches
nothing, a file that is left out, a configuration that is refused. What is
left ends a run without an answer.
-/

namespace ImportPolicy

/-- What ends a run without an answer. -/
inductive Interruption where
  /-- A pattern has no answer. -/
  | overflow (o : Glob.Overflow)
  /-- Nothing can be asked about a path. -/
  | path (t : PathTrouble)
  /-- A file with settings is not in UTF-8. -/
  | encoding (f : Text.Utf8.Fault)
  /-- A number in a configuration has too many digits to be read or shown. -/
  | number (message : String)
  /-- The environment asks for something else than a level. -/
  | level (f : Log.LevelFault)
  /-- A variable of the environment cannot be set. -/
  | environment (f : Environment.Fault)
  /-- An option is left without the value it was written with. -/
  | lostValue
  deriving DecidableEq, Repr

/-- The wording of an interruption. -/
def Interruption.message : Interruption → String
  | .overflow o => o.message
  | .path t => t.message
  | .encoding f => f.message
  | .number message => message
  | .level f => f.message
  | .environment f => f.message
  | .lostValue => "not enough values to unpack (expected 1, got 0)"

end ImportPolicy
