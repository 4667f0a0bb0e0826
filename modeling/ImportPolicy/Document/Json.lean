import ImportPolicy.Document.Value

/-!
# JSON

A reader and a writer. The reader takes the whole text or says at which
character it stopped and what it expected there. Besides what the format
itself allows it takes `NaN`, `Infinity` and `-Infinity`; of a key that is
given twice the last value counts, at the place of the first.

A reader works on the characters that are left, so the place of a fault is
known by how many there are (`Fault.left`).
-/

namespace ImportPolicy.Document.Json

/-- What a text lacks. -/
inductive Problem where
  | byteOrderMark
  | value
  | key
  | colon
  | comma
  | extra
  | unterminated
  | control
  | escape
  | codePoint
  /-- A whole number with too many digits. -/
  | digits (count : Nat)
  deriving DecidableEq, Repr

/-- The wording of a problem, without its place. -/
def Problem.wording : Problem → String
  | .byteOrderMark => "Unexpected UTF-8 BOM (decode using utf-8-sig)"
  | .value => "Expecting value"
  | .key => "Expecting property name enclosed in double quotes"
  | .colon => "Expecting ':' delimiter"
  | .comma => "Expecting ',' delimiter"
  | .extra => "Extra data"
  | .unterminated => "Unterminated string starting at"
  | .control => "Invalid control character at"
  | .escape => "Invalid \\escape"
  | .codePoint => "Invalid \\uXXXX escape"
  | .digits count =>
    "Exceeds the limit (4300 digits) for integer string conversion: value has "
      ++ toString count ++ " digits; use sys.set_int_max_str_digits() to increase the limit"

/-- A problem, and how many characters were left where it was noticed. -/
structure Fault where
  /-- What the text lacks. -/
  problem : Problem
  /-- How many characters were left. -/
  left : Nat
  deriving DecidableEq, Repr

/-- The wording of a fault with its place in the text. -/
def Fault.message (f : Fault) (text : List Char) : String :=
  match f.problem with
  | .digits _ => f.problem.wording
  | _ =>
    let before := text.take (text.length - f.left)
    let column := (before.reverse.takeWhile (· ≠ '\n')).length + 1
    f.problem.wording ++ ": line " ++ toString (before.count '\n' + 1) ++ " column "
      ++ toString column ++ " (char " ++ toString before.length ++ ")"

/-- A reader: a value and the characters behind it. -/
abbrev Reader (α : Type) := List Char → Except Fault (α × List Char)

/-- Stops at the given characters. -/
def stop (problem : Problem) (rest : List Char) : Except Fault α :=
  .error ⟨problem, rest.length⟩

/-- Skips blanks and line breaks. -/
def skip (text : List Char) : List Char :=
  text.dropWhile fun c => c = ' ' ∨ c = '\t' ∨ c = '\n' ∨ c = '\r'

/-- The value of a hexadecimal digit. -/
def hexValue? (c : Char) : Option Nat :=
  if '0' ≤ c ∧ c ≤ '9' then some (c.toNat - '0'.toNat)
  else if 'a' ≤ c ∧ c ≤ 'f' then some (c.toNat - 'a'.toNat + 10)
  else if 'A' ≤ c ∧ c ≤ 'F' then some (c.toNat - 'A'.toNat + 10)
  else none

/-- Four hexadecimal digits with at least one more character behind them. -/
def fourDigits? : List Char → Option (Nat × List Char)
  | a :: b :: c :: d :: e :: rest => do
    let a ← hexValue? a
    let b ← hexValue? b
    let c ← hexValue? c
    let d ← hexValue? d
    some (((a * 16 + b) * 16 + c) * 16 + d, e :: rest)
  | _ => none

/-- What a letter behind a backslash stands for. -/
def escaped? : Char → Option Char
  | '"' => some '"'
  | '\\' => some '\\'
  | '/' => some '/'
  | 'b' => some '\x08'
  | 'f' => some '\x0c'
  | 'n' => some '\n'
  | 'r' => some '\r'
  | 't' => some '\t'
  | _ => none

/-- The second half of a character given by two code units. -/
def lowHalf? (rest : List Char) : Except Fault (Option (Nat × List Char)) :=
  match rest with
  | '\\' :: 'u' :: digits =>
    if digits.length < 5 then .ok none
    else match fourDigits? digits with
      | some (low, behind) =>
        if 0xDC00 ≤ low ∧ low ≤ 0xDFFF then .ok (some (low, behind)) else .ok none
      | none => stop .codePoint ('u' :: digits)
  | _ => .ok none

/-- A character given by its code, behind `\u`. Half of a pair that is not
followed by the other half is no character, and becomes the replacement
character. -/
def codePoint (digits : List Char) : Except Fault (Char × List Char) :=
  match fourDigits? digits with
  | none => stop .codePoint ('u' :: digits)
  | some (code, rest) =>
    if 0xD800 ≤ code ∧ code ≤ 0xDBFF then do
      match ← lowHalf? rest with
      | some (low, rest) =>
        .ok (Char.ofNat (0x10000 + (code - 0xD800) * 0x400 + (low - 0xDC00)), rest)
      | none => .ok ('\uFFFD', rest)
    else if 0xDC00 ≤ code ∧ code ≤ 0xDFFF then .ok ('\uFFFD', rest)
    else .ok (Char.ofNat code, rest)

/-- Reads a text behind its opening quote, in at most the given number of
steps. `begin` is how many characters were left before that quote. -/
def stringWithin (begin : Nat) : Nat → List Char → List Char →
    Except Fault (List Char × List Char)
  | 0, _, _ => .error ⟨.unterminated, begin⟩
  | _ + 1, _, [] => .error ⟨.unterminated, begin⟩
  | n + 1, got, c :: rest =>
    if c = '"' then .ok (got.reverse, rest)
    else if c.toNat ≤ 0x1F then stop .control (c :: rest)
    else if c ≠ '\\' then stringWithin begin n (c :: got) rest
    else match rest with
      | [] => .error ⟨.unterminated, begin⟩
      | 'u' :: digits => do
        let (d, behind) ← codePoint digits
        stringWithin begin n (d :: got) behind
      | e :: behind => match escaped? e with
        | some d => stringWithin begin n (d :: got) behind
        | none => stop .escape (c :: rest)

/-- Reads a text behind its opening quote. -/
def string (rest : List Char) : Except Fault (String × List Char) := do
  let (chars, behind) ← stringWithin (rest.length + 1) (rest.length + 1) [] rest
  .ok (String.ofList chars, behind)

/-- The digits at the start of a text, and what is behind them. -/
def digits (text : List Char) : List Char × List Char :=
  (text.takeWhile Char.isDigit, text.dropWhile Char.isDigit)

/-- The number that decimal digits stand for. -/
def natOf (digits : List Char) : Nat :=
  digits.foldl (fun n c => 10 * n + (c.toNat - '0'.toNat)) 0

/-- The exponent of a number, if there is one. -/
def exponent (text : List Char) : Option (Int × List Char) :=
  match text with
  | e :: rest =>
    if e = 'e' ∨ e = 'E' then
      let (negative, rest) := match rest with
        | '-' :: more => (true, more)
        | '+' :: more => (false, more)
        | other => (false, other)
      match digits rest with
      | ([], _) => none
      | (ds, behind) => some (if negative then -(natOf ds : Int) else natOf ds, behind)
    else none
  | [] => none

/-- The fraction of a number, if there is one. -/
def fraction (text : List Char) : Option (List Char × List Char) :=
  match text with
  | '.' :: rest => match digits rest with
    | ([], _) => none
    | found => some found
  | _ => none

/-- The digits of a whole number: a single zero, or digits of which the
first is not zero. -/
def wholeDigits (text : List Char) : Option (List Char × List Char) :=
  match text with
  | '0' :: rest => some (['0'], rest)
  | rest => match digits rest with
    | ([], _) => none
    | found => some found

/-- A number. -/
def number : Reader Value := fun text =>
  let (negative, body) := match text with
    | '-' :: rest => (true, rest)
    | other => (false, other)
  match wholeDigits body with
  | none => stop .value text
  | some (whole, rest) =>
    let part := fraction rest
    let (places, rest) := part.getD ([], rest)
    let power := exponent rest
    let (scale, rest) := power.getD (0, rest)
    if part.isSome || power.isSome then
      .ok (.real (.ofDecimal negative (natOf (whole ++ places)) (scale - places.length)), rest)
    else if whole.length > Value.mostDigits then stop (.digits whole.length) rest
    else .ok (.int (if negative then -(natOf whole : Int) else natOf whole), rest)

/-- A word with a fixed value at the start of a text. -/
def word? (text : List Char) : Option (Value × List Char) :=
  let words : List (String × Value) :=
    [("null", .null), ("true", .bool true), ("false", .bool false), ("NaN", .real .nan),
      ("Infinity", .real (.infinite false)), ("-Infinity", .real (.infinite true))]
  (words.find? fun (w, _) => w.toList.isPrefixOf text).map fun (w, v) =>
    (v, text.drop w.toList.length)

mutual

/-- A value. The first argument bounds how deep values can be nested and how
many of them there can be. -/
def value : Nat → Reader Value
  | 0, text => stop .value text
  | n + 1, text =>
    match text with
    | '"' :: rest => do
      let (s, behind) ← string rest
      .ok (.text s, behind)
    | '{' :: rest =>
      match skip rest with
      | '}' :: behind => .ok (.table [], behind)
      | inside => members n [] inside
    | '[' :: rest =>
      match skip rest with
      | ']' :: behind => .ok (.array [], behind)
      | inside => elements n [] inside
    | other => match word? other with
      | some found => .ok found
      | none => number other

/-- The entries of an object up to its closing brace. -/
def members : Nat → Entries → Reader Value
  | 0, _, text => stop .value text
  | n + 1, got, text =>
    match text with
    | '"' :: rest => do
      let (key, rest) ← string rest
      match skip rest with
      | ':' :: rest => do
        let (v, rest) ← value n (skip rest)
        let got := got.set key v
        match skip rest with
        | '}' :: behind => .ok (.table got, behind)
        | ',' :: more => members n got (skip more)
        | other => stop .comma other
      | other => stop .colon other
    | other => stop .key other

/-- The items of an array up to its closing bracket; `got` holds them in
reverse. -/
def elements : Nat → List Value → Reader Value
  | 0, _, text => stop .value text
  | n + 1, got, text => do
    let (v, rest) ← value n text
    match skip rest with
    | ']' :: behind => .ok (.array (v :: got).reverse, behind)
    | ',' :: more => elements n (v :: got) (skip more)
    | other => stop .comma other

end

/-- Reads a whole text. A value takes at most two steps for each character: one
for the value itself, and one for its place among the items around it. -/
def read (text : List Char) : Except Fault Value :=
  if text.head? = some '\uFEFF' then stop .byteOrderMark text
  else do
    let (v, rest) ← value (2 * text.length + 1) (skip text)
    match skip rest with
    | [] => .ok v
    | other => stop .extra other

/-! ## Writing -/

/-- A character as it is written in a text. -/
def writeChar (c : Char) : List Char :=
  if c = '"' then ['\\', '"']
  else if c = '\\' then ['\\', '\\']
  else if c = '\n' then ['\\', 'n']
  else if c = '\r' then ['\\', 'r']
  else if c = '\t' then ['\\', 't']
  else if c = '\x08' then ['\\', 'b']
  else if c = '\x0c' then ['\\', 'f']
  else if c.toNat < 0x20 then '\\' :: 'u' :: Text.hexDigits 4 c.toNat
  else [c]

/-- A text in quotes. -/
def writeString (s : String) : List Char := '"' :: s.toList.flatMap writeChar ++ ['"']

end ImportPolicy.Document.Json
