import ImportPolicy.Host.Diagnostic

/-!
# Reports

A report lists what there is to say about one file. Reports are written for
people, one entry for each diagnostic and a last line that counts them, or as
JSON for programs.

Diagnostics count characters of the text, and a reader wants a line and a
column. Lines are cut at line feeds alone here, which are the only breaks in
a text that was read from a file.
-/

namespace ImportPolicy

/-- What there is to say about a file. -/
structure Report where
  /-- The name of the file. -/
  path : String
  /-- Its text. -/
  text : String
  /-- What there is to say. -/
  diagnostics : List Diagnostic
  deriving DecidableEq, Repr

namespace Report

/-- The offset that is nearest to a number. -/
def clamp (length : Nat) (offset : Int) : Nat := min offset.toNat length

/-- How many characters stand behind the last line feed. -/
def lastLineLength (text : List Char) : Nat := (text.reverse.takeWhile (· ≠ '\n')).length

/-- The line and the column of an offset, both counted from one. An offset
outside the text has the place of the nearest end. -/
def lineColumn (text : List Char) (offset : Int) : Nat × Nat :=
  let before := text.take (clamp text.length offset)
  (before.count '\n' + 1, lastLineLength before + 1)

/-- A bound of a slice: a negative one counts from the end. -/
def sliceBound (length : Nat) (bound : Int) : Nat :=
  if bound < 0 then (bound + length).toNat else min bound.toNat length

/-- The characters between two bounds. -/
def slice (text : List Char) (start stop : Int) : List Char :=
  let start := sliceBound text.length start
  (text.take (sliceBound text.length stop)).drop start

/-- The text that a diagnostic is about. -/
def quoted (text : List Char) (d : Diagnostic) : List Char :=
  slice text d.start (d.start + d.length)

/-- The tool and the number of a diagnostic. -/
def origin (d : Diagnostic) : String :=
  match d.source with
  | some source =>
    if source = "" then "error"
    else if d.code = 0 then source
    else source ++ "(" ++ toString d.code ++ ")"
  | none => "error"

/-- Puts blanks behind every line break. -/
def indented : List Char → List Char
  | [] => []
  | '\n' :: rest => '\n' :: ' ' :: ' ' :: ' ' :: ' ' :: indented rest
  | c :: rest => c :: indented rest

/-- A message without the line breaks at its end, its further lines
indented. -/
def indentedMessage (message : String) : String :=
  String.ofList (indented (message.toList.reverse.dropWhile (· = '\n')).reverse)

/-- The entry of a diagnostic. -/
def entry (report : Report) (d : Diagnostic) : String :=
  let text := report.text.toList
  let (line, column) := lineColumn text d.start
  let head := report.path ++ ":" ++ toString line ++ ":" ++ toString column ++ ": "
    ++ d.category.name ++ " " ++ origin d
  let about := match quoted text d with
    | [] => ""
    | chars => " '" ++ String.ofList chars ++ "'"
  head ++ about ++ ": " ++ indentedMessage d.message

/-- How many diagnostics some reports hold. -/
def total (reports : List Report) : Nat := (reports.flatMap (·.diagnostics)).length

/-- The line that counts problems and files. -/
def summary (reports : List Report) : String :=
  toString (total reports) ++ " problem(s) in " ++ toString reports.length ++ " file(s)"

/-- Reports for people: empty if there is nothing to say. -/
def render (reports : List Report) : String :=
  let entries := reports.flatMap fun r => r.diagnostics.map r.entry
  let entries := if total reports = 0 then entries else entries ++ ["", summary reports]
  String.intercalate "\n" entries

end Report

end ImportPolicy
