/-!
# Sets of characters as code point ranges

A character property is a finite union of ranges of code points. The tables
are written as lines of hexadecimal words, `a` for a single code point
and `a-b` for the code points from `a` to `b`, and read once.
-/

namespace ImportPolicy.Text

/-- The value of a hexadecimal digit. -/
def hexValue? (c : Char) : Option Nat :=
  if '0' ≤ c ∧ c ≤ '9' then some (c.toNat - '0'.toNat)
  else if 'a' ≤ c ∧ c ≤ 'f' then some (c.toNat - 'a'.toNat + 10)
  else if 'A' ≤ c ∧ c ≤ 'F' then some (c.toNat - 'A'.toNat + 10)
  else none

/-- The number a run of hexadecimal digits stands for; other characters are
passed over. -/
def hexNumber (digits : List Char) : Nat :=
  digits.foldl (fun n c => match hexValue? c with
    | some d => 16 * n + d
    | none => n) 0

/-- The pieces of a list between the elements that satisfy `isCut`, in
order; there is always one more piece than there are cuts. -/
def pieces (isCut : Char → Bool) : List Char → List (List Char)
  | [] => [[]]
  | c :: rest =>
    if isCut c then [] :: pieces isCut rest
    else match pieces isCut rest with
      | [] => [[c]]
      | piece :: more => (c :: piece) :: more

/-- The words of a line, which stand between blanks. -/
def wordsOf (line : String) : List (List Char) :=
  (pieces (· == ' ') line.toList).filter (· ≠ [])

/-- A union of ranges of code points, both ends included. -/
structure Ranges where
  /-- The ranges, as pairs of their first and last code point. -/
  spans : List (Nat × Nat)

namespace Ranges

/-- Whether some range holds the code point. -/
def contains (r : Ranges) (code : Nat) : Bool :=
  r.spans.any fun span => span.1 ≤ code && code ≤ span.2

/-- The range a word stands for. -/
def readSpan (word : List Char) : Nat × Nat :=
  match pieces (· == '-') word with
  | [low, high] => (hexNumber low, hexNumber high)
  | _ => (hexNumber word, hexNumber word)

/-- The ranges written in lines of words. -/
def read (lines : List String) : Ranges where
  spans := (lines.flatMap wordsOf).map readSpan

end Ranges

end ImportPolicy.Text
