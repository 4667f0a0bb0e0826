import ImportPolicy.Report.Basic
import ImportPolicy.Document.Json

/-!
# Reports for programs

Reports are written as one JSON array with an object for each diagnostic.
Every member stands on a line of its own, two blanks deeper than the bracket
around it.
-/

namespace ImportPolicy.Report

open Document (Json.writeString)

/-- A whole number in decimal digits. -/
def writeInt (n : Int) : List Char := (toString n).toList

/-- The members of the object of a diagnostic, in order. -/
def members (report : Report) (d : Diagnostic) : List (String × List Char) :=
  let (line, column) := lineColumn report.text.toList d.start
  [("file", Json.writeString report.path),
    ("start", writeInt d.start),
    ("length", writeInt d.length),
    ("line", writeInt line),
    ("column", writeInt column),
    ("category", Json.writeString d.category.name),
    ("code", writeInt d.code),
    ("source", match d.source with
      | some source => Json.writeString source
      | none => "null".toList),
    ("message", Json.writeString d.message)]

/-- A member on a line of its own. -/
def writeMember (m : String × List Char) : List Char :=
  "\n    ".toList ++ Json.writeString m.1 ++ ": ".toList ++ m.2

/-- Texts with commas between them. -/
def commas : List (List Char) → List Char
  | [] => []
  | [text] => text
  | text :: more => text ++ ',' :: commas more

/-- The object of a diagnostic. -/
def writeObject (ms : List (String × List Char)) : List Char :=
  "\n  \x7b".toList ++ commas (ms.map writeMember) ++ "\n  \x7d".toList

/-- The diagnostics of some reports, each with the report it is in. -/
def all (reports : List Report) : List (Report × Diagnostic) :=
  reports.flatMap fun r => r.diagnostics.map (r, ·)

/-- Reports for programs. -/
def toJson (reports : List Report) : String :=
  match all reports with
  | [] => "[]"
  | found =>
    String.ofList ('[' :: commas (found.map fun (r, d) => writeObject (r.members d)) ++ ['\n', ']'])

end ImportPolicy.Report
