/-!
# Lines of a text

A line ends with a line feed, a carriage return, or the two together, and
the break belongs to the line before it. So the lines of a text concatenate
to the text, and a text that ends with a break has an empty last line.

Trees give places as a line and a column counted in bytes of UTF-8, and
occurrences are counted in characters of the whole text; `offset` leads from
the first to the second.
-/

namespace ImportPolicy.Text.Lines

/-- The lines of a text, each with the break at its end. -/
def split : List Char → List (List Char)
  | [] => [[]]
  | '\r' :: '\n' :: rest => ['\r', '\n'] :: split rest
  | c :: rest =>
    if c = '\n' ∨ c = '\r' then [c] :: split rest
    else match split rest with
      | [] => [[c]]
      | line :: more => (c :: line) :: more

/-- Where some lines start, when the first one starts at `at`. -/
def startsFrom (first : Nat) : List (List Char) → List Nat
  | [] => []
  | line :: more => first :: startsFrom (first + line.length) more

/-- Where the lines of a text start. -/
def starts (text : List Char) : List Nat := startsFrom 0 (split text)

/-- How many characters lie wholly in the first `bytes` bytes of a line. -/
def wholeCharacters : List Char → Nat → Nat
  | [], _ => 0
  | c :: rest, bytes =>
    if c.utf8Size ≤ bytes then wholeCharacters rest (bytes - c.utf8Size) + 1 else 0

/-- The character of a text at a line, counted from one, and a byte column,
counted from zero. A column inside a character is the character's, and one
behind the line is the line's end. -/
def offset (text : List Char) (line column : Nat) : Nat :=
  let lines := split text
  (lines.take (line - 1)).flatten.length
    + wholeCharacters (lines.getD (line - 1) []) column

/-- A text with a line feed for every line break. -/
def unify : List Char → List Char
  | [] => []
  | '\r' :: '\n' :: rest => '\n' :: unify rest
  | c :: rest => (if c = '\r' then '\n' else c) :: unify rest

end ImportPolicy.Text.Lines
