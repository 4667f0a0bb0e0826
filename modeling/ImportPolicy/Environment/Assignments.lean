import ImportPolicy.Environment.Basic

/-!
# Files of assignments

A file of assignments sets variables of the environment that are not set.
An assignment is a name, an equals sign and a value; the word `export` may
stand before it. A value in quotes may span lines and holds escapes; a value
without quotes ends with its line or with a comment. A name alone is an
assignment of no value, which takes back earlier ones.

A value may refer to variables, as `$` with a name in braces, where `:-`
leads to what counts if the variable is missing. A variable that is set in
the environment counts before an assignment of the same name.

What is not an assignment is passed over up to the end of its line, and the
number of the line is kept for a remark.
-/

namespace ImportPolicy.Environment

open Text (isBlank)

/-- A statement of a file of assignments. -/
inductive Statement where
  /-- A comment, or blank lines. -/
  | nothing
  /-- A name with its value, if it has one. -/
  | assignment (name : List Char) (value : Option (List Char))
  /-- What starts at a line and cannot be read. -/
  | unreadable (line : Nat)
  deriving DecidableEq, Repr

namespace Statement

/-- Whether a character is a blank inside a line. -/
def isGap (c : Char) : Bool := isBlank c && c ≠ '\n'

/-- Whether a character can stand in a name without quotes. -/
def isNameChar (c : Char) : Bool := c ≠ '=' && c ≠ '#' && !isBlank c

/-- Whether a character stands inside a line. Line feeds are the only line
breaks here. -/
def isInLine (c : Char) : Bool := c ≠ '\n'

/-- What stands behind a line break or the end of the text. -/
def behindLine? : List Char → Option (List Char)
  | [] => some []
  | c :: rest => if isInLine c then none else some rest

/-- What stands behind the rest of a line. -/
def skipLine (text : List Char) : List Char := (text.dropWhile isInLine).drop 1

/-- What stands behind the word `export`, if blanks follow it. -/
def skipExport (text : List Char) : List Char :=
  let word := ['e', 'x', 'p', 'o', 'r', 't']
  let behind := text.drop word.length
  if word.isPrefixOf text && behind.head?.any isGap then behind.dropWhile isGap else text

/-- What stands behind a comment, if there is one. -/
def skipComment (text : List Char) : List Char :=
  match text.dropWhile isGap with
  | '#' :: rest => rest.dropWhile isInLine
  | _ => text

/-- What stands before a quote that closes and behind it. A backslash keeps
the quote behind it from closing. -/
def untilQuote (quote : Char) : List Char → Option (List Char × List Char)
  | [] => none
  | '\\' :: c :: rest =>
    if c = quote then (untilQuote quote rest).map fun (body, behind) => ('\\' :: c :: body, behind)
    else (untilQuote quote (c :: rest)).map fun (body, behind) => ('\\' :: body, behind)
  | c :: rest =>
    if c = quote then some ([], rest)
    else (untilQuote quote rest).map fun (body, behind) => (c :: body, behind)

/-- What stands before the last quote and behind it. -/
def untilLastQuote (quote : Char) : List Char → Option (List Char × List Char)
  | [] => none
  | c :: rest => match untilLastQuote quote rest with
    | some (body, behind) => some (c :: body, behind)
    | none => if c = quote then some ([], rest) else none

/-- The body of a quoted value and what stands behind it. Where no quote is
free to close the value, the last one in the text does. -/
def quotedBody (quote : Char) (text : List Char) : Option (List Char × List Char) :=
  match untilQuote quote text with
  | some found => some found
  | none => untilLastQuote quote text

/-- The character that an escape stands for between quotes of a kind: in
single quotes only a backslash and the quote itself are escaped. -/
def escaped? (quote c : Char) : Option Char :=
  if c = '\\' ∨ c = '\'' then some c
  else if quote = '\'' then none
  else match c with
    | '"' => some '"'
    | 'a' => some '\x07'
    | 'b' => some '\x08'
    | 'f' => some '\x0c'
    | 'n' => some '\n'
    | 'r' => some '\r'
    | 't' => some '\t'
    | 'v' => some '\x0b'
    | _ => none

/-- The text that the body of a quoted value stands for. -/
def unescape (quote : Char) : List Char → List Char
  | [] => []
  | '\\' :: c :: rest => match escaped? quote c with
    | some d => d :: unescape quote rest
    | none => '\\' :: unescape quote (c :: rest)
  | c :: rest => c :: unescape quote rest

/-- A line up to the first number sign that stands behind a blank. -/
def beforeComment : List Char → List Char
  | [] => []
  | c :: rest =>
    if isBlank c && rest.head? = some '#' then [] else c :: beforeComment rest

/-- A name and what stands behind it; no name before a comment. -/
def name (text : List Char) : Option (Option (List Char) × List Char) :=
  match text with
  | '#' :: _ => some (none, text)
  | '\'' :: rest => match rest.span (· ≠ '\'') with
    | (body@(_ :: _), _ :: behind) => some (some body, behind)
    | _ => none
  | _ => match text.span isNameChar with
    | (body@(_ :: _), behind) => some (some body, behind)
    | _ => none

/-- A value and what stands behind it. -/
def value (text : List Char) : Option (List Char × List Char) :=
  match text with
  | [] => some ([], [])
  | c :: rest =>
    if c = '\'' ∨ c = '"' then
      (quotedBody c rest).map fun (body, behind) => (unescape c body, behind)
    else if !isInLine c then some ([], text)
    else
      let (line, behind) := text.span isInLine
      some (Text.trimRight (beforeComment line), behind)

/-- The value behind a name, if an equals sign follows, and what stands
behind it. -/
def assigned (text : List Char) : Option (Option (List Char) × List Char) :=
  match text.dropWhile isGap with
  | '=' :: rest => (value (rest.dropWhile isGap)).map fun (v, behind) => (some v, behind)
  | rest => some (none, rest)

/-- What is found up to where a statement cannot be read. -/
abbrev Found := Except (List Char) (Statement × List Char)

/-- The end of a statement. -/
def finish (s : Statement) (text : List Char) : Found :=
  let behind := (skipComment text).dropWhile isGap
  match behindLine? behind with
  | some rest => .ok (s, rest)
  | none => .error (skipComment text)

/-- The statement behind the blanks before it. Without one, the place is told
where reading came to a halt. -/
def readHere (text : List Char) : Found :=
  let text := skipExport text
  match name text with
  | none => .error text
  | some (found, behind) => match assigned behind with
    | none => .error ((behind.dropWhile isGap).drop 1 |>.dropWhile isGap)
    | some (v, behind) => finish (match found with
        | some key => .assignment key v
        | none => .nothing) behind

/-- The next statement, which starts at a line, and what stands behind it. -/
def read (line : Nat) (text : List Char) : Statement × List Char :=
  match text.dropWhile isBlank with
  | [] => (.nothing, [])
  | start => match readHere start with
    | .ok found => found
    | .error halt => (.unreadable line, skipLine halt)

/-- The statements of a text, at most as many as the first argument says. -/
def readFrom : Nat → Nat → List Char → List Statement
  | 0, _, _ => []
  | _ + 1, _, [] => []
  | n + 1, line, text =>
    let (s, rest) := read line text
    s :: readFrom n (line + (text.take (text.length - rest.length)).count '\n') rest

/-- The statements of a text. Each one takes at least one character. -/
def readAll (text : List Char) : List Statement := readFrom text.length 1 text

end Statement

/-! ## References to variables -/

/-- A piece of a value. -/
inductive Piece where
  | plain (c : Char)
  /-- A reference to a variable, with what counts if it is missing. -/
  | reference (name : List Char) (fallback : List Char)
  deriving DecidableEq, Repr

namespace Piece

/-- The reference behind `$` and an opening brace, and what stands behind
it. -/
def reference? (text : List Char) : Option (Piece × List Char) :=
  match text.span fun c => c ≠ '\x7d' && c ≠ ':' with
  | (name, '\x7d' :: rest) => some (.reference name [], rest)
  | (name, ':' :: '-' :: rest) => match rest.span (· ≠ '\x7d') with
    | (fallback, _ :: rest) => some (.reference name fallback, rest)
    | _ => none
  | _ => none

/-- The pieces of a value, at most as many as the first argument says. -/
def split : Nat → List Char → List Piece
  | 0, _ => []
  | _ + 1, [] => []
  | n + 1, '$' :: '\x7b' :: rest => match reference? rest with
    | some (piece, rest) => piece :: split n rest
    | none => .plain '$' :: split n ('\x7b' :: rest)
  | n + 1, c :: rest => .plain c :: split n rest

end Piece

/-- The assignments of a file so far: names with their values, if any. -/
abbrev Assignments := List (String × Option String)

namespace Assignments

/-- Sets the value of a name. A name that is there keeps its place. -/
def set (name : String) (value : Option String) : Assignments → Assignments
  | [] => [(name, value)]
  | (key, old) :: more =>
    if key = name then (key, value) :: more else (key, old) :: set name value more

/-- What a reference stands for: the variable of the environment, or else an
assignment, or else what counts if both are missing. -/
def resolve (done : Assignments) (env : Environment) (name fallback : String) : String :=
  match env.lookup name, done.lookup name with
  | some value, _ => value
  | none, some value => value.getD ""
  | none, none => fallback

/-- A value with its references resolved. -/
def expand (done : Assignments) (env : Environment) (value : List Char) : String :=
  (Piece.split value.length value).foldl
    (fun text piece => text ++ match piece with
      | .plain c => c.toString
      | .reference name fallback =>
        resolve done env (String.ofList name) (String.ofList fallback)) ""

/-- The assignments after one more statement. -/
def step (env : Environment) (done : Assignments) : Statement → Assignments
  | .assignment name value => set (String.ofList name) (value.map (expand done env)) done
  | _ => done

/-- The assignments of some statements. -/
def ofStatements (env : Environment) (statements : List Statement) : Assignments :=
  statements.foldl (step env) []

/-- The environment with the assignments of variables that are not set. -/
def apply (env : Environment) : Assignments → Except Fault Environment
  | [] => .ok env
  | (name, value) :: more => match value with
    | some text => do
      let env ← if env.has name then .ok env else env.add name text
      apply env more
    | none => apply env more

end Assignments

/-- The lines of a file of assignments that cannot be read. -/
def unreadableLines (statements : List Statement) : List Nat :=
  statements.filterMap fun
    | .unreadable line => some line
    | _ => none

/-- The variables that a statement mentions. Of the environment, only these
matter to it. -/
def Statement.mentioned : Statement → List String
  | .assignment name value =>
    let pieces := match value with
      | some text => Piece.split text.length text
      | none => []
    String.ofList name :: pieces.filterMap fun
      | .reference name _ => some (String.ofList name)
      | .plain _ => none
  | _ => []

/-- The variable of the environment that keeps files of assignments from
being read. -/
def switchName : String := "PYTHON_DOTENV_DISABLED"

/-- Whether files of assignments are not to be read. -/
def isSwitchedOff (env : Environment) : Bool :=
  match env.lookup switchName with
  | some value => ["1", "true", "t", "yes", "y"].contains value.toLower
  | none => false

end ImportPolicy.Environment
