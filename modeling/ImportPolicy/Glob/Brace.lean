import ImportPolicy.Text.Digit

/-!
# Brace expansion

A pattern can hold groups in braces: alternatives with commas between them,
or a sequence of numbers or letters given by its ends. Expansion replaces
the leftmost group that can be expanded by each of its parts in turn and
expands what comes out; a group that is neither form stays as it is.

A part is put into the pattern as text, and the whole pattern is read again.
That is why an unclosed brace in front of a group does not hide the group,
and why the result is *fully expanded*: nothing in it can be expanded again.
Each step makes the pattern shorter, so the length of the pattern bounds the
number of steps (`expandWithin`).

A backslash and the character behind it stand for that character, and take
no part in any of this.

The recursion limit is put aside: one expansion calls the next, and a pattern
with so many groups that calls cannot be nested deep enough for them is
expanded here like all others.
-/

namespace ImportPolicy.Glob

/-- Why a pattern cannot be expanded. -/
inductive Failure where
  /-- The pattern stands for more than `mostPatterns` patterns. -/
  | patterns
  /-- A sequence has more than `mostPatterns` items. -/
  | items
  /-- A number is written with more digits than can be read. -/
  | digits (count : Nat)
  /-- A sequence has more items than can be counted. -/
  | overflow
  deriving DecidableEq, Repr

/-- The most patterns that one pattern can stand for. -/
def mostPatterns : Nat := 1024

/-- The most digits that a number can be written with. -/
def mostDigits : Nat := 4300

/-- The number of items from which on a sequence cannot be counted. -/
def countLimit : Nat := 0x8000000000000000

/-- The wording of a failure. -/
def Failure.message : Failure → String
  | .patterns => "brace expansion exceeds " ++ toString mostPatterns ++ " patterns"
  | .items => "brace sequence exceeds " ++ toString mostPatterns ++ " items"
  | .digits count =>
    "Exceeds the limit (" ++ toString mostDigits
      ++ " digits) for integer string conversion: value has " ++ toString count
      ++ " digits; use sys.set_int_max_str_digits() to increase the limit"
  | .overflow => "Python int too large to convert to C ssize_t"

/-! ## Sequences -/

/-- A whole number as it is written: a sign and the values of its digits. -/
structure Numeral where
  /-- Whether a minus stands before the digits. -/
  negative : Bool
  /-- The values of the digits, the first one first. -/
  digits : List Nat
  deriving DecidableEq, Repr

namespace Numeral

/-- The number that some digits stand for. -/
def natOf (digits : List Nat) : Nat := digits.foldl (fun n d => 10 * n + d) 0

/-- The number a numeral stands for, unless it has too many digits. -/
def value (n : Numeral) : Except Failure Int :=
  if n.digits.length > mostDigits then .error (.digits n.digits.length)
  else if n.negative then .ok (-(natOf n.digits : Int))
  else .ok (natOf n.digits)

/-- The digits at the start of a text, and what is behind them. -/
def takeDigits : List Char → List Nat × List Char
  | [] => ([], [])
  | c :: rest => match Text.digitValue? c with
    | some d =>
      let (more, behind) := takeDigits rest
      (d :: more, behind)
    | none => ([], c :: rest)

/-- A numeral at the start of a text, and what is behind it. -/
def read? (text : List Char) : Option (Numeral × List Char) :=
  let (negative, text) := match text with
    | '-' :: rest => (true, rest)
    | other => (false, other)
  match takeDigits text with
  | ([], _) => none
  | (digits, behind) => some (⟨negative, digits⟩, behind)

end Numeral

/-- What stands behind two dots at the start of a text. -/
def behindDots? : List Char → Option (List Char)
  | '.' :: '.' :: rest => some rest
  | _ => none

/-- Whether a body ends here: nothing is left, or a last line break. -/
def atEnd (text : List Char) : Bool := text = [] ∨ text = ['\n']

/-- The end of a sequence: its step if one is given. -/
def readStep? (text : List Char) : Option (Option Numeral) :=
  if atEnd text then some none
  else do
    let rest ← behindDots? text
    let (step, rest) ← Numeral.read? rest
    if atEnd rest then some (some step) else none

/-- The ends and the step of a sequence of numbers. -/
def readNumbers? (body : List Char) : Option (Numeral × Numeral × Option Numeral) := do
  let (first, rest) ← Numeral.read? body
  let rest ← behindDots? rest
  let (last, rest) ← Numeral.read? rest
  let step ← readStep? rest
  some (first, last, step)

/-- Whether a character is a letter of the Latin alphabet without marks. -/
def isLetter (c : Char) : Bool := ('a' ≤ c && c ≤ 'z') || ('A' ≤ c && c ≤ 'Z')

/-- The ends and the step of a sequence of letters. -/
def readLetters? (body : List Char) : Option (Char × Char × Option Numeral) :=
  match body with
  | first :: '.' :: '.' :: last :: rest =>
    if isLetter first && isLetter last then do
      let step ← readStep? rest
      some (first, last, step)
    else none
  | _ => none

/-- The size of a step: at least one, and one if no step is given. -/
def stride (step : Option Numeral) : Except Failure Nat :=
  match step with
  | none => .ok 1
  | some n => do
    let value ← n.value
    .ok (max 1 value.natAbs)

/-- How many items there are from one number to another, by steps. -/
def itemCount (first last : Int) (step : Nat) : Nat := (last - first).natAbs / step + 1

/-- The numbers from one number towards another, by steps. -/
def progression (first last : Int) (step : Nat) : Except Failure (List Int) :=
  let count := itemCount first last step
  if count ≥ countLimit then .error .overflow
  else if count > mostPatterns then .error .items
  else .ok ((List.range count).map fun k =>
    if first ≤ last then first + (k * step : Nat) else first - (k * step : Nat))

/-- A number in decimal digits. -/
def decimal (n : Int) : List Char :=
  if n < 0 then '-' :: Nat.toDigits 10 n.natAbs else Nat.toDigits 10 n.natAbs

/-- The items of a sequence, `none` if the body is not one. -/
def sequence (body : List Char) : Except Failure (Option (List (List Char))) :=
  match readNumbers? body with
  | some (first, last, step) => do
    let first ← first.value
    let last ← last.value
    let items ← progression first last (← stride step)
    .ok (some (items.map decimal))
  | none =>
    match readLetters? body with
    | some (first, last, step) => do
      let items ← progression first.toNat last.toNat (← stride step)
      .ok (some (items.map fun n => [Char.ofNat n.toNat]))
    | none => .ok none

/-! ## Groups -/

/-- Splits what follows an opening brace at the brace that closes it.
`depth` counts the braces opened since. -/
def splitClose : Nat → List Char → Option (List Char × List Char)
  | _, [] => none
  | depth, '\\' :: rest => match rest with
    | [] => none
    | c :: rest => (splitClose depth rest).map fun (body, behind) => ('\\' :: c :: body, behind)
  | depth, '{' :: rest =>
    (splitClose (depth + 1) rest).map fun (body, behind) => ('{' :: body, behind)
  | 0, '}' :: rest => some ([], rest)
  | depth + 1, '}' :: rest =>
    (splitClose depth rest).map fun (body, behind) => ('}' :: body, behind)
  | depth, c :: rest => (splitClose depth rest).map fun (body, behind) => (c :: body, behind)

/-- Puts characters before the first of some parts. -/
def extendFirst (chars : List Char) : List (List Char) → List (List Char)
  | [] => [chars]
  | part :: more => (chars ++ part) :: more

/-- Splits a body at the commas that are in no braces. -/
def splitTop : Int → List Char → List (List Char)
  | _, [] => [[]]
  | depth, '\\' :: c :: rest => extendFirst ['\\', c] (splitTop depth rest)
  | depth, c :: rest =>
    if c = '{' then extendFirst [c] (splitTop (depth + 1) rest)
    else if c = '}' then extendFirst [c] (splitTop (depth - 1) rest)
    else if c = ',' ∧ depth = 0 then [] :: splitTop depth rest
    else extendFirst [c] (splitTop depth rest)

/-- A group of a pattern: what stands before it, its parts, and what stands
behind it. -/
structure Group where
  /-- The text before the group. -/
  before : List Char
  /-- What the group can be replaced by. -/
  parts : List (List Char)
  /-- The text behind the group. -/
  behind : List Char
  deriving DecidableEq, Repr

namespace Group

/-- The same group with more text before it. -/
def after (chars : List Char) (g : Group) : Group := { g with before := chars ++ g.before }

/-- The pattern with a part in the place of the group. -/
def replacedBy (g : Group) (part : List Char) : List Char := g.before ++ part ++ g.behind

end Group

/-- The parts of a group with the given body, `none` if it stays as it
is. -/
def partsOf (body : List Char) : Except Failure (Option (List (List Char))) :=
  match splitTop 0 body with
  | parts@(_ :: _ :: _) => .ok (some parts)
  | _ => sequence body

/-- The leftmost group that can be expanded. -/
def findGroup : List Char → Except Failure (Option Group)
  | [] => .ok none
  | '\\' :: rest => match rest with
    | [] => .ok none
    | c :: rest => do
      let found ← findGroup rest
      .ok (found.map (.after ['\\', c]))
  | '{' :: rest => do
    let parts ← match splitClose 0 rest with
      | some (body, behind) => do
        let parts ← partsOf body
        .ok (parts.map fun parts => Group.mk [] parts behind)
      | none => .ok none
    match parts with
    | some group => .ok (some group)
    | none => do
      let found ← findGroup rest
      .ok (found.map (.after ['{']))
  | c :: rest => do
    let found ← findGroup rest
    .ok (found.map (.after [c]))

/-- Puts together the expansions of several patterns, as long as there are
not too many of them. -/
def gather (expand : List Char → Except Failure (List (List Char))) :
    List (List Char) → List (List Char) → Except Failure (List (List Char))
  | [], got => .ok got
  | p :: more, got => do
    let new ← expand p
    let got := got ++ new
    if got.length > mostPatterns then .error .patterns else gather expand more got

/-- Expands a pattern in at most the given number of steps. -/
def expandWithin : Nat → List Char → Except Failure (List (List Char))
  | 0, pattern => .ok [pattern]
  | steps + 1, pattern => do
    match ← findGroup pattern with
    | none => .ok [pattern]
    | some group => gather (expandWithin steps) (group.parts.map group.replacedBy) []

/-- The patterns without groups that a pattern stands for, in order. -/
def expand (pattern : List Char) : Except Failure (List (List Char)) :=
  expandWithin pattern.length pattern

end ImportPolicy.Glob
