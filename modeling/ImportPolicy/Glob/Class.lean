/-!
# Character classes

What stands between the brackets of a class is a row of characters and
ranges. A hyphen makes a range of its two neighbours, except at either end
of the class and right behind a range. A range whose ends are in the wrong
order holds nothing and is taken out, and the characters around it move
together; a class that becomes empty matches nothing.

An exclamation mark at the start negates the class. It is looked for after
empty ranges have been taken out, so one that moves to the start counts.
-/

namespace ImportPolicy.Glob

/-- A class of characters: whether it is negated, and the ranges it is made
of. A single character is a range of its own. -/
structure CharClass where
  /-- Whether the class holds the characters outside its ranges. -/
  negated : Bool
  /-- The ranges, as pairs of their first and last character. -/
  ranges : List (Char × Char)
  deriving DecidableEq, Repr

namespace CharClass

/-- Whether a class holds a character. -/
def contains (k : CharClass) (c : Char) : Bool :=
  k.negated != k.ranges.any fun (low, high) => low ≤ c && c ≤ high

/-- Splits the inside of a class at the hyphens that make ranges. A hyphen
makes one only if at least `least` characters stand before it in its
chunk; `chunk` holds these in reverse. -/
def chunksFrom : Nat → List Char → List Char → List (List Char)
  | _, chunk, [] => [chunk.reverse]
  | least, chunk, c :: rest =>
    if c = '-' ∧ least ≤ chunk.length then chunk.reverse :: chunksFrom 2 [] rest
    else chunksFrom least (c :: chunk) rest

/-- A hyphen at the end makes no range: it belongs to the last chunk. -/
def mendLast : List (List Char) → List (List Char)
  | [] => []
  | [chunk, []] => [chunk ++ ['-']]
  | chunk :: more => chunk :: mendLast more

/-- The chunks between the hyphens that make ranges. -/
def chunks (inside : List Char) : List (List Char) :=
  mendLast (chunksFrom (if inside.head? = some '!' then 2 else 1) [] inside)

/-- Whether the last character of a chunk comes behind the first one of
another, so that the range between them is empty. -/
def emptyBetween (left right : List Char) : Bool :=
  match left.getLast?, right.head? with
  | some low, some high => high < low
  | _, _ => false

/-- Takes out the empty ranges between chunks, from the right. -/
def dropEmpty : List (List Char) → List (List Char)
  | [] => []
  | chunk :: more => match dropEmpty more with
    | [] => [chunk]
    | next :: rest =>
      if emptyBetween chunk next then (chunk.dropLast ++ next.drop 1) :: rest
      else chunk :: next :: rest

/-- A part of a class: a character that stands for itself, or a hyphen that
makes a range. -/
inductive Mark where
  | char (c : Char)
  | hyphen
  deriving DecidableEq, Repr

/-- The marks of some chunks, with hyphens between the chunks. -/
def marks : List (List Char) → List Mark
  | [] => []
  | [chunk] => chunk.map .char
  | chunk :: more => chunk.map .char ++ .hyphen :: marks more

/-- The character that a mark stands for by itself. -/
def Mark.toChar : Mark → Char
  | .char c => c
  | .hyphen => '-'

/-- The ranges that a row of marks stands for. -/
def rangesOf : List Mark → List (Char × Char)
  | [] => []
  | low :: .hyphen :: high :: rest => (low.toChar, high.toChar) :: rangesOf rest
  | m :: rest => (m.toChar, m.toChar) :: rangesOf rest

/-- The class whose brackets hold the given characters. -/
def ofInside (inside : List Char) : CharClass :=
  match marks (dropEmpty (chunks inside)) with
  | .char '!' :: rest => ⟨true, rangesOf rest⟩
  | all => ⟨false, rangesOf all⟩

end CharClass

end ImportPolicy.Glob
