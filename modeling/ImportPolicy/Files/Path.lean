import ImportPolicy.Text.Ranges

/-!
# Paths

A path is a row of names, absolute or relative. Empty names and single dots
are dropped when a path is read, so two spellings of a path that differ only
in them are the same path; a double dot is kept, because what it means
depends on links.

An absolute path that is written with exactly two slashes at its start is
kept apart from one with a single slash.
-/

namespace ImportPolicy

/-- Where a path starts. -/
inductive Path.Anchor where
  | relative
  | absolute
  /-- Absolute, with two slashes at the start. -/
  | doubled
  deriving DecidableEq, Repr

/-- A path. -/
structure Path where
  /-- Where it starts. -/
  anchor : Path.Anchor
  /-- The names on it. -/
  parts : List String
  deriving DecidableEq, Repr

namespace Path

/-- The names between the slashes of a text, empty ones included. -/
def names (text : String) : List String :=
  (Text.pieces (· == '/') text.toList).map String.ofList

/-- Whether a name can stand on a path: empty names and single dots are
dropped, and a slash would end the name. -/
def isName (name : String) : Bool := name ≠ "" ∧ name ≠ "." ∧ '/' ∉ name.toList

/-- Reads a path. -/
def ofString (text : String) : Path where
  anchor := match text.toList with
    | '/' :: '/' :: '/' :: _ => .absolute
    | '/' :: '/' :: _ => .doubled
    | '/' :: _ => .absolute
    | _ => .relative
  parts := (names text).filter isName

/-- A path as it is written. -/
def toString (p : Path) : String :=
  let row := String.intercalate "/" p.parts
  match p.anchor with
  | .relative => if p.parts.isEmpty then "." else row
  | .absolute => "/" ++ row
  | .doubled => "//" ++ row

/-- Whether a path is absolute. -/
def isAbsolute (p : Path) : Bool := p.anchor ≠ .relative

/-- The absolute path to a place. -/
def ofParts (parts : List String) : Path := ⟨.absolute, parts⟩

/-- A path seen from another one. -/
def join (base p : Path) : Path :=
  if p.isAbsolute then p else { base with parts := base.parts ++ p.parts }

/-- The last name on a path, empty if there is none. -/
def name (p : Path) : String := p.parts.getLast?.getD ""

/-- A path without its last name. -/
def parent (p : Path) : Path := { p with parts := p.parts.dropLast }

/-- A path with one more name. -/
def child (p : Path) (name : String) : Path := { p with parts := p.parts ++ [name] }

/-- The last name from its last dot on, unless the dot is its first or its
last character. -/
def suffix (p : Path) : String :=
  let name := p.name.toList
  let tail := name.reverse.takeWhile (· ≠ '.')
  if tail.length + 1 < name.length ∧ tail ≠ [] then String.ofList ('.' :: tail.reverse) else ""

/-- A path seen from a base that it starts with. -/
def relativeTo? (p base : Path) : Option Path :=
  if p.anchor = base.anchor ∧ base.parts.isPrefixOf p.parts then
    some ⟨.relative, p.parts.drop base.parts.length⟩
  else none

/-- Takes double dots out of a row of names that starts at the root. -/
def lexical (done : List String) : List String → List String
  | [] => done
  | part :: more => if part = ".." then lexical done.dropLast more else lexical (done ++ [part]) more

/-- An absolute path without double dots, links not considered. -/
def normal (p : Path) : Path := { p with parts := lexical [] p.parts }

end Path

end ImportPolicy
