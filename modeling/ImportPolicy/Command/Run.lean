import ImportPolicy.Command.Request
import ImportPolicy.Environment.Assignments
import ImportPolicy.Policy.Load
import ImportPolicy.Report.Check
import ImportPolicy.Report.Json

/-!
# Running a command

`run` is the whole program as a function: from a file tree, an environment
and the arguments to what is written and the exit code. A file of assignments
in the working folder is read first, then the arguments, and then the level
of remarks is set; so a complaint about the arguments comes before one about
the level.

Whatever ends the program without an outcome is an `Interruption`.
-/

namespace ImportPolicy.Command

/-! ## The file of assignments -/

/-- The name of the file of assignments. -/
def assignmentsFile : String := ".env"

/-- The remark on a line of the file of assignments that cannot be read. -/
def unreadableLine (line : Nat) : String :=
  "python-dotenv could not parse statement starting at line " ++ toString line ++ "\n"

/-- The text of the file of assignments; empty if there is none. -/
def assignmentsText (w : Workspace) : Except Interruption (List Char) :=
  match w.readBytes ⟨.relative, [assignmentsFile]⟩ with
  | .error _ => .ok []
  | .ok bytes => match Text.Utf8.decode bytes with
    | .ok chars => .ok (Text.Lines.unify chars)
    | .error f => .error (.encoding f)

/-- The environment with the assignments of the file, and the remarks on
it. -/
def prepare (w : Workspace) (env : Environment) : Except Interruption (Environment × String) :=
  if env.isSwitchedOff then .ok (env, "")
  else do
    let text ← assignmentsText w
    let statements := Environment.Statement.readAll text
    let remarks := String.join ((Environment.unreadableLines statements).map unreadableLine)
    match Environment.Assignments.apply env (.ofStatements env statements) with
    | .ok env => .ok (env, remarks)
    | .error f => .error (.environment f)

/-! ## Commands -/

/-- What a command says: its exit code, what it prints, and its remarks. -/
structure Answer where
  /-- The exit code. -/
  code : Nat
  /-- What it prints. -/
  output : String := ""
  /-- Its remarks. -/
  records : List Log.Record := []
  deriving DecidableEq, Repr

/-- The remark on what is wrong with a request. -/
def errorRecord (message : String) : Log.Record where
  severity := .error
  logger := Log.fullName "cli"
  message := "importguard: " ++ message

/-- The answer to a request that cannot be met. -/
def Answer.refusal (message : String) : Answer where
  code := codeUsage
  records := [errorRecord message]

/-- The text of the overview. -/
def overview : String :=
  "importguard: per-file import policy checks\n\n"
    ++ "  importguard check [path]      report imports not allowed by the policy\n"
    ++ "  importguard explain FILE      show which imports FILE may use\n\n"
    ++ "Policy lives in [tool.importguard.imports] (pyproject.toml) or .importguard.toml:\n"
    ++ "  \"src/ui/**\" = [\"react\", \"./*.css\"]\n\n"

/-- What is wrong with the root of a project, if something is. -/
def rootProblem? (w : Workspace) (root : Path) : Option String :=
  if !w.exists? root then some ("path does not exist: " ++ root.toString)
  else if !w.isFolder root then some ("not a directory: " ++ root.toString)
  else none

/-- Finds the project and loads its policy, and then goes on with both. -/
def withPolicy (w : Workspace) (env : Environment) (s : Settings)
    (go : Project → Policy → Except Interruption Answer) : Except Interruption Answer :=
  match Project.atPath w (.ofString s.path) with
  | .error t => .error (.path t)
  | .ok p => match rootProblem? w p.root with
    | some problem => .ok (.refusal problem)
    | none => match Policy.load w env p.root (s.config.map Path.ofString) with
      | .error (.refused f) => .ok (.refusal f.message)
      | .error (.interrupted i) => .error i
      | .ok (policy, record) => do
        let answer ← go p policy
        .ok { answer with records := record :: answer.records }

/-- The text of some reports in a format. -/
def reportText (policy : Policy) (reports : List Report) : Format → String
  | .json => Report.toJson reports
  | .text =>
    let text := Report.render reports
    if text = "" then
      "importguard: no policy violations (" ++ toString policy.rules.length ++ " rule(s))"
    else text

/-- Checks a project. -/
def check [CharacterNames] (s : Settings) (p : Project) (policy : Policy) :
    Except Interruption Answer := do
  let found ← Check.project p policy s.includeTests
  .ok { code := if found.reports.isEmpty then codeFine else codeProblems,
        output := reportText policy found.reports s.format ++ "\n",
        records := found.records }

/-- The rules of a policy that match a file. -/
def rulesFor (file : String) : List Policy.Rule → Except Glob.Overflow (List Policy.Rule)
  | [] => .ok []
  | rule :: more => do
    let hit ← Glob.isMatch file rule.filePattern
    let later ← rulesFor file more
    .ok (if hit then rule :: later else later)

/-- The line on a rule that matches. -/
def ruleLine (rule : Policy.Rule) : String :=
  let allowed := String.intercalate ", " rule.allowed
  "  rule " ++ Text.quoted rule.filePattern ++ ": "
    ++ (if allowed = "" then "(empty)" else allowed) ++ "\n"

/-- The lines on what is allowed. -/
def allowedLines (allowed : List String) : String :=
  if allowed.isEmpty then "  " ++ unconfiguredMessage ++ "\n"
  else "  allowed imports:\n" ++ String.join (allowed.map fun a => "    - " ++ a ++ "\n")

/-- Explains what a file may import. The rules are looked through twice, for
themselves and for what they allow together. -/
def explain (s : Settings) (p : Project) (policy : Policy) : Except Interruption Answer := do
  Check.guardPath (p.identityTrouble? s.file)
  let file := p.identity s.file
  let rules ← Check.counted (rulesFor file policy.rules)
  let allowed ← Check.counted (policy.allowedFor file)
  .ok { code := codeFine,
        output := file ++ "\n" ++ String.join (rules.map ruleLine) ++ allowedLines allowed,
        records := (policy.ruleNotes ++ policy.ruleNotes).map Check.rejectionRecord }

/-- The answer to a request. -/
def answer [CharacterNames] (w : Workspace) (env : Environment) (r : Request) :
    Except Interruption Answer :=
  match r.name with
  | .help => .ok { code := codeFine, output := overview ++ Grammar.main.usage }
  | .check => withPolicy w env r.settings (check r.settings)
  | .explain => withPolicy w env r.settings (explain r.settings)

/-- The level of remarks that a request asks for. -/
def levelOf (env : Environment) (s : Settings) : Except Interruption Nat :=
  let start : Log.Loggers := { setting := env.lookup Log.levelName }
  match Log.Loggers.configure s.quiet s.verbose start with
  | .ok _ loggers => .ok loggers.top.level
  | .error f _ => .error (.level f)

/-- The lines of the remarks that get through at a level. -/
def remarkLines (level : Nat) (records : List Log.Record) : String :=
  String.join ((Log.passed level records).map fun r => r.message ++ "\n")

/-- Runs the program. -/
def run [CharacterNames] (w : Workspace) (env : Environment) (arguments : List String) :
    Except Interruption Outcome := do
  let (env, remarks) ← prepare w env
  match request arguments with
  | .error (.outcome outcome) => .ok { outcome with errors := remarks ++ outcome.errors }
  | .error (.interruption i) => .error i
  | .ok r => do
    let level ← levelOf env r.settings
    let a ← answer w env r
    .ok { code := a.code, output := a.output,
          errors := remarks ++ remarkLines level a.records }

end ImportPolicy.Command
