import ImportPolicy.Host.Project
import ImportPolicy.Interruption
import ImportPolicy.Report.Basic

/-!
# Checking a project

All source files of a project are checked against a policy, each on its own.
The result is a report for every file about which there is something to say,
in the order of the files, and the remarks made on the way.
-/

namespace ImportPolicy

namespace Project

/-- Folders whose files are never checked. -/
def skippedFolders : List String :=
  ["__pycache__", ".git", ".venv", "venv", ".tox", ".mypy_cache", ".pytest_cache",
    "node_modules", "build", "dist"]

/-- Whether a name is that of a source file. -/
def isSourceName (name : String) : Bool := ['y', 'p', '.'].isPrefixOf name.toList.reverse

/-- Whether a row of names comes no later than another one, name by name. -/
def inOrder : Place → Place → Bool
  | [], _ => true
  | _ :: _, [] => false
  | a :: as, b :: bs => a < b || (a == b && inOrder as bs)

/-- Whether a file is checked, by its path from the root. -/
def isChecked (includeTests : Bool) (place : Place) : Bool :=
  !place.any skippedFolders.contains && (includeTests || place.head? ≠ some "tests")

/-- The source files of a project, by their paths from the root. -/
def sourcePlaces (p : Project) (includeTests : Bool) : List Place :=
  match p.work.files.at? p.root.parts with
  | some node =>
    let found := (node.placesBelow []).filter fun place =>
      match place.getLast? with
      | some name => isSourceName name
      | none => false
    (found.mergeSort inOrder).filter (isChecked includeTests)
  | none => []

/-- The source files of a project, by their whole paths. -/
def targets (p : Project) (includeTests : Bool) : List String :=
  (p.sourcePlaces includeTests).map fun place =>
    (p.root.join ⟨.relative, place⟩).toString

end Project

namespace Check

/-- The result of a check: reports, and the remarks made on the way. -/
structure Outcome where
  /-- The reports. -/
  reports : List Report := []
  /-- The remarks. -/
  records : List Log.Record := []
  deriving DecidableEq, Repr

/-- Two results one after the other. -/
def Outcome.append (a b : Outcome) : Outcome :=
  ⟨a.reports ++ b.reports, a.records ++ b.records⟩

/-- The remark on a rejected pattern. -/
def rejectionRecord (r : Rejection) : Log.Record where
  severity := .debug
  logger := Log.fullName "glob"
  message := "glob pattern " ++ Text.quoted r.pattern ++ " rejected: " ++ r.reason.message

/-- The remark on a file with violations. -/
def violationRecord (count : Nat) (file : String) : Log.Record where
  severity := .debug
  logger := Log.fullName "host"
  message := "importguard: " ++ toString count ++ " policy violation(s) in " ++ file

/-- The remark on a file that cannot be read. -/
def unreadableRecord (name : String) : Log.Record where
  severity := .warning
  logger := Log.fullName "checks"
  message := "importguard: cannot read " ++ name

/-- The remarks made while a file is judged. -/
def judgingRecords (policy : Policy) (file : SourceFile) (count : Nat) : List Log.Record :=
  (policy.evaluationNotes file.name file.imports).map rejectionRecord
    ++ if count = 0 then [] else [violationRecord count file.name]

/-- Goes on unless there is trouble with a path. -/
def guardPath : Option PathTrouble → Except Interruption Unit
  | none => .ok ()
  | some t => .error (.path t)

/-- Turns an overflow into an interruption. -/
def counted (answer : Except Glob.Overflow α) : Except Interruption α :=
  match answer with
  | .ok a => .ok a
  | .error o => .error (.overflow o)

variable [CharacterNames]

/-- Checks one file. -/
def file (p : Project) (policy : Policy) (target : String) : Except Interruption Outcome := do
  guardPath (p.identityTrouble? target)
  let name := p.identity target
  guardPath (p.trouble? name)
  match p.sourceFile name with
  | none => .ok { records := [unreadableRecord name] }
  | some source => do
    let violations ← counted (policy.evaluate source.name source.imports)
    let diagnostics ← counted ((p.service.guard policy).diagnostics name)
    let reports := if diagnostics.isEmpty then []
      else [{ path := source.name, text := source.text, diagnostics }]
    .ok { reports, records := judgingRecords policy source violations.length }

/-- Checks several files. -/
def files (p : Project) (policy : Policy) : List String → Except Interruption Outcome
  | [] => .ok {}
  | target :: more => do
    let first ← file p policy target
    let later ← files p policy more
    .ok (first.append later)

/-- Checks the source files of a project. -/
def project (p : Project) (policy : Policy) (includeTests : Bool) : Except Interruption Outcome :=
  files p policy (p.targets includeTests)

end Check

end ImportPolicy
