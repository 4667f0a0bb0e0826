import ImportPolicy.Policy.Basic

/-!
# Diagnostics and source files

What a host knows about a file: its text with the imports in it, and the
diagnostics about it. A diagnostic names the tool it comes from, if there is
one; the diagnostics of a policy carry the policy's name.
-/

namespace ImportPolicy

/-- How grave a diagnostic is. -/
inductive Diagnostic.Category where
  | error
  | warning
  | message
  deriving DecidableEq, Repr

/-- The name of a category. -/
def Diagnostic.Category.name : Diagnostic.Category → String
  | .error => "error"
  | .warning => "warning"
  | .message => "message"

/-- A remark about a stretch of a file. -/
structure Diagnostic where
  /-- The file it is about. -/
  file : String
  /-- The first character it is about. -/
  start : Int
  /-- How many characters it is about. -/
  length : Int
  /-- What it says. -/
  message : String
  /-- How grave it is. -/
  category : Diagnostic.Category
  /-- A number for the kind of remark. -/
  code : Int
  /-- The tool it comes from. -/
  source : Option String
  deriving DecidableEq, Repr

/-- A violation as a diagnostic. -/
def Violation.toDiagnostic (v : Violation) : Diagnostic where
  file := v.file
  start := v.start
  length := v.length
  message := v.message
  category := .error
  code := v.code.number
  source := some v.source

/-- A file as a host sees it. -/
structure SourceFile where
  /-- The name of the file. -/
  name : String
  /-- Its text. -/
  text : String
  /-- The imports in its text. -/
  imports : List Occurrence
  deriving DecidableEq, Repr

end ImportPolicy
