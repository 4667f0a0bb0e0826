import ImportPolicy.Policy.Basic
import ImportPolicy.Glob.Path

/-!
# Evaluating a policy

`Policy.evaluate` lists the imports of a file that a policy does not allow.
It is a function of the policy, the name of the file and the imports alone.
An import whose place is not known is passed over, since nothing could be
reported about it. The answer is missing only when a pattern has none.

Patterns that cannot be expanded match nothing, and are worth a note to
whoever wrote them: `Policy.evaluationNotes` lists the patterns that an
evaluation meets and rejects, in the order in which it meets them.
-/

namespace ImportPolicy

open Glob (Overflow isMatch)

/-- The import patterns of those rules that match a file, in order and with
repetitions. -/
def allowedBy (file : String) : List Policy.Rule → Except Overflow (List String)
  | [] => pure []
  | rule :: more => do
    let hit ← isMatch file rule.filePattern
    let later ← allowedBy file more
    pure (if hit then rule.allowed ++ later else later)

/-- What a file may import. -/
def Policy.allowedFor (policy : Policy) (file : String) : Except Overflow (List String) :=
  allowedBy file policy.rules

/-- Whether a specifier matches one of the patterns. -/
def isAllowed (specifier : String) : List String → Except Overflow Bool
  | [] => pure false
  | pattern :: more => do
    if ← isMatch specifier pattern then pure true else isAllowed specifier more

/-- The message for a file for which nothing is configured. -/
def unconfiguredMessage : String :=
  "No imports specified for current file. "
    ++ "Use `imports` option in importguard config ([tool.importguard.imports] in pyproject.toml)"

/-- The message that lists what is allowed. -/
def disallowedMessage (allowed : List String) : String :=
  "Import not allowed. Only imports below allowed from this file: \n"
    ++ String.intercalate ", \n" allowed ++ "\n"

/-- The code and the message of the violations in a file. -/
def verdict (allowed : List String) : Violation.Code × String :=
  if allowed.isEmpty then (.unconfigured, unconfiguredMessage)
  else (.disallowed, disallowedMessage allowed)

/-- The violation that an import is, unless its place is unknown or it is
allowed. -/
def violation? (policy : Policy) (file : String) (allowed : List String) (o : Occurrence) :
    Except Overflow (Option Violation) := do
  if !o.isKnown then pure none
  else if ← isAllowed o.specifier allowed then pure none
  else
    let (code, message) := verdict allowed
    pure (some { file, start := o.start, stop := max o.start o.stop, message, code,
                 source := policy.name })

/-- The violations among some imports. -/
def violations (policy : Policy) (file : String) (allowed : List String) :
    List Occurrence → Except Overflow (List Violation)
  | [] => pure []
  | o :: more => do
    let found ← violation? policy file allowed o
    let later ← violations policy file allowed more
    pure (found.toList ++ later)

/-- The violations of a policy in a file, in the order of the imports. -/
def Policy.evaluate (policy : Policy) (file : String) (imports : List Occurrence) :
    Except Overflow (List Violation) := do
  let allowed ← policy.allowedFor file
  violations policy file allowed imports

/-! ## Notes on rejected patterns -/

/-- A pattern that was rejected, with the reason. -/
structure Rejection where
  /-- The pattern. -/
  pattern : String
  /-- Why it cannot be expanded. -/
  reason : Glob.Failure
  deriving DecidableEq, Repr

/-- The rejection of a pattern, if it is rejected. -/
def rejectionOf? (pattern : String) : Option Rejection :=
  (Glob.rejection? pattern).map (⟨pattern, ·⟩)

/-- The patterns rejected while looking for the rules of a file. -/
def Policy.ruleNotes (policy : Policy) : List Rejection :=
  policy.rules.filterMap (rejectionOf? ·.filePattern)

/-- The patterns rejected while looking whether a specifier is allowed: those
before the first pattern that matches. -/
def allowedNotes (specifier : String) (allowed : List String) : List Rejection :=
  (allowed.takeWhile fun pattern =>
    match isMatch specifier pattern with
    | .ok answer => !answer
    | .error _ => false).filterMap rejectionOf?

/-- The patterns rejected during an evaluation. -/
def Policy.evaluationNotes (policy : Policy) (file : String) (imports : List Occurrence) :
    List Rejection :=
  let allowed := match policy.allowedFor file with
    | .ok allowed => allowed
    | .error _ => []
  policy.ruleNotes
    ++ (imports.filter (·.isKnown)).flatMap fun o => allowedNotes o.specifier allowed

end ImportPolicy
