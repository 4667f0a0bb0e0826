import ImportPolicy.Text.Ranges
import ImportPolicy.Text.Normal.Data

/-!
# Compatibility normalisation of identifiers

Two spellings of an identifier name the same thing when their compatibility
normal forms agree: a ligature is its letters, a full-width letter is the
plain one, a letter followed by an accent is the accented letter. The normal
form is reached in three steps: every character is decomposed, each run of
combining characters is sorted by combining class (a stable sort), and what
can be composed again is composed.

Hangul syllables are decomposed and composed by arithmetic; everything else
comes from the tables of `ImportPolicy.Text.Normal.Data`.
-/

namespace ImportPolicy.Text.Normal

/-- The two sides of a word `from:to`. -/
def sides (word : List Char) : List Char × List Char :=
  match pieces (· == ':') word with
  | [left, right] => (left, right)
  | _ => (word, [])

/-- The words of a table, each with its two sides. -/
def rows (lines : List String) : List (List Char × List Char) :=
  (lines.flatMap wordsOf).map sides

/-- Blocks of code points and the code point the first of each maps to. -/
def shifts : Array ((Nat × Nat) × Nat) :=
  ((rows shiftWords).map fun row => (Ranges.readSpan row.1, hexNumber row.2)).toArray

/-- Code points with a decomposition of several characters. -/
def expansions : Array (Nat × List Nat) :=
  ((rows expansionWords).map fun row =>
    (hexNumber row.1, (pieces (· == '+') row.2).map hexNumber)).toArray

/-- Blocks of code points with one combining class each. -/
def classes : Array ((Nat × Nat) × Nat) :=
  ((rows classWords).map fun row => (Ranges.readSpan row.1, hexNumber row.2)).toArray

/-- Pairs of code points and what they compose to. -/
def compositions : Array ((Nat × Nat) × Nat) :=
  ((rows compositionWords).map fun row =>
    (match pieces (· == '+') row.1 with
      | [first, second] => (hexNumber first, hexNumber second)
      | _ => (0, 0), hexNumber row.2)).toArray

/-- The first Hangul syllable. -/
def syllableBase : Nat := 0xAC00

/-- The number of Hangul syllables. -/
def syllableCount : Nat := 11172

/-- The parts of a Hangul syllable: a leading consonant, a vowel and, in
two of three cases or more, a trailing consonant. -/
def splitSyllable (index : Nat) : List Nat :=
  let lead := 0x1100 + index / 588
  let vowel := 0x1161 + index % 588 / 28
  let trail := index % 28
  if trail = 0 then [lead, vowel] else [lead, vowel, 0x11A7 + trail]

/-- The full decomposition of a code point. -/
def decompose (code : Nat) : List Nat :=
  if code < 0x80 then [code]
  else if syllableBase ≤ code ∧ code < syllableBase + syllableCount then
    splitSyllable (code - syllableBase)
  else match expansions.find? (·.1 == code) with
    | some (_, parts) => parts
    | none =>
      match shifts.find? fun row => row.1.1 ≤ code && code ≤ row.1.2 with
      | some ((low, _), target) => [target + (code - low)]
      | none => [code]

/-- The combining class of a code point; a character of class zero is a
starter. -/
def combiningClass (code : Nat) : Nat :=
  match classes.find? fun row => row.1.1 ≤ code && code ≤ row.1.2 with
  | some (_, value) => value
  | none => 0

/-- Inserts a combining character behind those of a lower or equal class. -/
def insertMark (code cls : Nat) : List (Nat × Nat) → List (Nat × Nat)
  | [] => [(code, cls)]
  | (other, otherCls) :: rest =>
    if otherCls ≤ cls then (other, otherCls) :: insertMark code cls rest
    else (code, cls) :: (other, otherCls) :: rest

/-- Sorts each run of combining characters by class; starters stay. The
second argument holds the sorted run being built. -/
def reorder : List Nat → List (Nat × Nat) → List (Nat × Nat)
  | [], run => run
  | code :: rest, run =>
    let cls := combiningClass code
    if cls = 0 then run ++ (code, 0) :: reorder rest []
    else reorder rest (insertMark code cls run)

/-- What two code points compose to, if anything. -/
def composePair (first second : Nat) : Option Nat :=
  if 0x1100 ≤ first ∧ first < 0x1113 ∧ 0x1161 ≤ second ∧ second < 0x1176 then
    some (syllableBase + ((first - 0x1100) * 21 + (second - 0x1161)) * 28)
  else if syllableBase ≤ first ∧ first < syllableBase + syllableCount
      ∧ (first - syllableBase) % 28 = 0 ∧ 0x11A8 ≤ second ∧ second < 0x11C3 then
    some (first + (second - 0x11A7))
  else (compositions.find? fun row => row.1.1 == first && row.1.2 == second).map (·.2)

/-- Composes from left to right. `starter` is the last starter seen,
`passed` the characters kept since then in order and `highest` the combining
class of the last of them; a character is blocked when a kept character of
its own class or a higher one stands between it and the starter. -/
def compose : List (Nat × Nat) → Option Nat → List Nat → Nat → List Nat
  | [], starter, passed, _ => starter.toList ++ passed
  | (code, cls) :: rest, none, _, _ =>
    if cls = 0 then compose rest (some code) [] 0 else code :: compose rest none [] 0
  | (code, cls) :: rest, some starter, passed, highest =>
    let free := passed.isEmpty || highest < cls
    match if free then composePair starter code else none with
    | some whole => compose rest (some whole) passed highest
    | none =>
      if cls = 0 then starter :: passed ++ compose rest (some code) [] 0
      else compose rest (some starter) (passed ++ [code]) cls

/-- The compatibility normal form of an identifier. A text of ASCII
characters is its own normal form. -/
def normalize (s : String) : String :=
  if s.toList.all fun c => c.toNat < 0x80 then s
  else
    let parts := s.toList.flatMap fun c => decompose c.toNat
    String.ofList ((compose (reorder parts []) none [] 0).map Char.ofNat)

end ImportPolicy.Text.Normal
