import ImportPolicy.Glob.Brace
import ImportPolicy.Glob.Segment
import ImportPolicy.Text.Ranges

/-!
# Matching paths

A pattern and a candidate are compared segment by segment, with slashes
between the segments. The segment `**` takes any number of segments that do
not start with a dot; every other segment takes exactly one.

`isMatch` is the answer for a whole pattern. Leading exclamation marks negate
it; a pattern that starts with a number sign matches nothing, and neither
does one that cannot be expanded, negated or not. A sequence that cannot
even be counted is the one case without an answer (`Overflow`).
-/

namespace ImportPolicy.Glob

/-- The segments of a path. -/
def segments (path : List Char) : List (List Char) := Text.pieces (· == '/') path

/-- The segment that takes any number of segments. -/
def globstar : List Char := ['*', '*']

/-- Makes one of every run of `**`. -/
def collapse : List (List Char) → List (List Char)
  | [] => []
  | part :: more => match collapse more with
    | [] => [part]
    | next :: rest =>
      if part = globstar ∧ next = globstar then next :: rest else part :: next :: rest

/-- The row of a segment of a pattern before what `row` matches. -/
def segmentRow (names : List (List Char)) (part : List Char) (row : Row) : Row :=
  if part = globstar then Row.skipping (fun name => !isDotted name) names row
  else Row.single (matchSegment · part) names row

/-- Whether the segments of a pattern match those of a candidate. -/
def matchSegments (names parts : List (List Char)) : Bool :=
  (parts.foldr (segmentRow names) (Row.finish _ names)).whole

/-- Whether a candidate matches a pattern without groups. -/
def matchPlain (candidate pattern : List Char) : Bool :=
  matchSegments (segments candidate) (collapse (segments pattern))

/-- Takes the exclamation marks off a pattern: whether their number is odd,
and the rest. -/
def negation : List Char → Bool × List Char
  | '!' :: rest =>
    let (odd, core) := negation rest
    (!odd, core)
  | pattern => (false, pattern)

/-- Whether a candidate matches a pattern, or why the pattern cannot be
expanded. -/
def judge (candidate : List Char) : List Char → Except Failure Bool
  | [] => .ok (candidate = [])
  | '#' :: _ => .ok false
  | pattern =>
    let (negated, core) := negation pattern
    match expand core with
    | .ok plain => .ok (plain.any (matchPlain candidate) != negated)
    | .error e => .error e

/-- The failure that leaves no answer: a sequence whose items cannot be
counted. -/
inductive Overflow where
  | uncountable
  deriving DecidableEq, Repr

/-- The wording of an overflow. -/
def Overflow.message : Overflow → String
  | .uncountable => Failure.overflow.message

/-- Whether a candidate matches a pattern. A pattern that cannot be expanded
matches nothing. The recursion limit is put aside: where calls can be nested
to some depth only, a pattern or a candidate so long that the depth does not
suffice has the answer `false`, as if the pattern could not be expanded. -/
def isMatch (candidate pattern : String) : Except Overflow Bool :=
  match judge candidate.toList pattern.toList with
  | .ok answer => .ok answer
  | .error .overflow => .error .uncountable
  | .error _ => .ok false

/-- Why a pattern is rejected, if it is: it then matches nothing, whatever
the candidate. -/
def rejection? (pattern : String) : Option Failure :=
  match judge [] pattern.toList with
  | .ok _ => none
  | .error .overflow => none
  | .error e => some e

end ImportPolicy.Glob
