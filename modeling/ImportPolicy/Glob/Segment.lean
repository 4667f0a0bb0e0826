import ImportPolicy.Glob.Class

/-!
# Matching one segment

A segment of a pattern is read as a row of pieces, each of which accepts one
character, except for `*`, which accepts any number of them. A name matches
if it can be cut so that every piece accepts its part.

Escapes are resolved before pieces are read (`resolve`): a backslash before a
character that means something becomes a class of that one character, and
`[^` becomes `[!`. Resolving does not look at where it is, so it also takes
place inside a class.

Whether the pieces match is computed from the right. `Row` holds, for every
suffix of the name, whether the pieces read so far match it; so no cut is
tried twice.
-/

namespace ImportPolicy.Glob

/-- A piece of a pattern. -/
inductive Piece where
  /-- The character itself. -/
  | char (c : Char)
  /-- Any one character. -/
  | any
  /-- Any number of characters. -/
  | run
  /-- One character of a class. -/
  | oneOf (k : CharClass)
  deriving DecidableEq, Repr

/-- Whether a piece accepts a single character. -/
def Piece.accepts : Piece → Char → Bool
  | .char c, d => c = d
  | .any, _ => true
  | .run, _ => false
  | .oneOf k, d => k.contains d

/-- Whether a character means something in a pattern. -/
def isSpecial (c : Char) : Bool := c = '*' ∨ c = '?' ∨ c = '[' ∨ c = ']' ∨ c = '\\'

/-- Puts classes in the place of escapes, and `[!` in the place of `[^`. -/
def resolve : List Char → List Char
  | [] => []
  | '\\' :: c :: rest => if isSpecial c then '[' :: c :: ']' :: resolve rest else c :: resolve rest
  | '[' :: '^' :: rest => '[' :: '!' :: resolve rest
  | c :: rest => c :: resolve rest

/-- Splits a text at its first closing bracket. -/
def untilBracket : List Char → Option (List Char × List Char)
  | [] => none
  | c :: rest =>
    if c = ']' then some ([], rest)
    else (untilBracket rest).map fun (inside, behind) => (c :: inside, behind)

/-- Splits what follows an opening bracket at the bracket that closes the
class. A closing bracket at the start, also behind an exclamation mark, is a
member of the class. -/
def splitClass : List Char → Option (List Char × List Char)
  | '!' :: ']' :: rest =>
    (untilBracket rest).map fun (inside, behind) => ('!' :: ']' :: inside, behind)
  | ']' :: rest => (untilBracket rest).map fun (inside, behind) => (']' :: inside, behind)
  | rest => untilBracket rest

/-- Reads at most the given number of pieces. -/
def piecesWithin : Nat → List Char → List Piece
  | 0, _ => []
  | _ + 1, [] => []
  | n + 1, c :: rest =>
    if c = '*' then .run :: piecesWithin n rest
    else if c = '?' then .any :: piecesWithin n rest
    else if c = '[' then
      match splitClass rest with
      | some (inside, behind) => .oneOf (CharClass.ofInside inside) :: piecesWithin n behind
      | none => .char '[' :: piecesWithin n rest
    else .char c :: piecesWithin n rest

/-- The pieces of a segment whose escapes are resolved. -/
def pieces (part : List Char) : List Piece := piecesWithin part.length part

/-- For every suffix of a name, the longest first, whether something matches
it. -/
abbrev Row := List Bool

/-- The row of what matches the empty text alone. -/
def Row.finish (α : Type) : List α → Row
  | [] => [true]
  | _ :: rest => false :: Row.finish α rest

/-- Whether the whole name matches. -/
def Row.whole (row : Row) : Bool := row.headD false

/-- The row of one step that takes a single item, before what `row`
matches. -/
def Row.single (accepts : α → Bool) : List α → Row → Row
  | c :: rest, _ :: row => (accepts c && row.headD false) :: Row.single accepts rest row
  | _, _ => [false]

/-- The row of a step that takes any number of items that may be skipped,
before what `row` matches. -/
def Row.skipping (skips : α → Bool) : List α → Row → Row
  | c :: rest, here :: row =>
    let later := Row.skipping skips rest row
    (here || (skips c && later.headD false)) :: later
  | _, row => row

/-- The row of a piece before what `row` matches. -/
def Piece.row (name : List Char) (p : Piece) (row : Row) : Row :=
  match p with
  | .run => Row.skipping (fun _ => true) name row
  | p => Row.single p.accepts name row

/-- Whether pieces match a name. -/
def matchPieces (ps : List Piece) (name : List Char) : Bool :=
  (ps.foldr (Piece.row name) (Row.finish Char name)).whole

/-- Whether a segment starts with a dot. -/
def isDotted (segment : List Char) : Bool := segment.head? = some '.'

/-- Whether a name matches a segment of a pattern. A name that starts with a
dot matches only a segment that does. -/
def matchSegment (name part : List Char) : Bool :=
  (!isDotted name || isDotted part) && matchPieces (pieces (resolve part)) name

end ImportPolicy.Glob
