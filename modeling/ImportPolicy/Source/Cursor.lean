/-!
# A reading position in a source text

A `Cursor` stands between two characters of a text whose lines all end in a
line feed. It knows how far its line has been read, in bytes of UTF-8.

A line is *opened* when its first character is read, not when the line
before it is finished: behind a line feed the cursor still belongs to the
line that the line feed ended, and at the end of the text it stays there.
-/

namespace ImportPolicy.Source

/-- A reading position. -/
structure Cursor where
  /-- The characters still to be read. -/
  rest : List Char
  /-- How many characters have been read. -/
  index : Nat
  /-- The line that was read last, counted from one. -/
  line : Nat
  /-- How many bytes of that line have been read. -/
  column : Nat
  /-- How many bytes have been read since the last line that was opened
  outside a token. -/
  span : Nat
  /-- Whether the character read last ended its line. -/
  ended : Bool
  /-- Whether the cursor is inside a token. -/
  held : Bool
  deriving Repr, Inhabited

namespace Cursor

/-- The position before a text whose first line has the given number. -/
def start (text : List Char) (firstLine : Nat) : Cursor where
  rest := text
  index := 0
  line := firstLine - 1
  column := 0
  span := 0
  ended := true
  held := false

/-- Opens the next line if the last one was ended and there is one. -/
def opened (c : Cursor) : Cursor :=
  if c.ended && !c.rest.isEmpty then
    { c with line := c.line + 1, column := 0, span := if c.held then c.span else 0, ended := false }
  else c

/-- Reads one character, opening its line first. -/
def next? (c : Cursor) : Option (Char × Cursor) :=
  let c := c.opened
  match c.rest with
  | [] => none
  | ch :: rest =>
    some (ch, { c with
      rest := rest
      index := c.index + 1
      column := c.column + ch.utf8Size
      span := c.span + ch.utf8Size
      ended := ch == '\n' })

/-- The character that would be read next. -/
def peek? (c : Cursor) : Option Char := c.rest.head?

/-- Whether the next character satisfies a test. -/
def sees (c : Cursor) (test : Char → Bool) : Bool :=
  match c.rest with
  | ch :: _ => test ch
  | [] => false

/-- Whether the given characters come next. -/
def seesText (c : Cursor) (text : String) : Bool :=
  text.toList.isPrefixOf c.rest

/-- Reads up to `n` characters. -/
def skip (c : Cursor) : Nat → Cursor
  | 0 => c
  | n + 1 => match c.next? with
    | some (_, c') => c'.skip n
    | none => c

/-- Reads the characters that satisfy a test. -/
def skipWhile (c : Cursor) (test : Char → Bool) : Cursor :=
  c.skip (c.rest.takeWhile test).length

/-- The characters between an earlier position and this one. -/
def textFrom (stop start : Cursor) : String :=
  String.ofList (start.rest.take (stop.index - start.index))

end Cursor

end ImportPolicy.Source
