import ImportPolicy.Document.Value

/-!
# TOML

A reader for the other document format. A document is a row of statements:
an assignment, or the header of the table or of the array item to which the
assignments after it belong.

What a header or a dotted key may still change is kept beside the table that
is being built. A table that has a header of its own, or was made by a dotted
key of an earlier section, cannot get another header (`Marks.closed`); a
value that was written inline cannot be changed at all (`Marks.frozen`).

A reader works on the characters that are left, so the place of a fault is
known by how many there are.
-/

namespace ImportPolicy.Document.Toml

/-- The path of a table or value. -/
abbrev Key := List String

/-- What is wrong with a document. -/
inductive Problem where
  | statement
  | lineEnd
  | expected (what : String)
  | invalidChar (c : Char)
  | illegalChar (c : Char)
  | twice (key : Key)
  | overwrite
  | tableEnd
  | arrayTableEnd
  | immutable (key : Key)
  | namespaceRedefined (key : Key)
  | equals
  | keyStart
  | openArray
  | openTable
  | duplicateKey (key : String)
  | backslash
  | hexadecimal
  | notScalar
  | unterminated
  | dateOrTime
  | value
  /-- A whole number with too many digits. -/
  | digits (count : Nat)
  deriving DecidableEq, Repr

/-- A path as it is written in messages. -/
def showKey (key : Key) : String :=
  match key with
  | [k] => "(" ++ Text.quoted k ++ ",)"
  | _ => "(" ++ String.intercalate ", " (key.map Text.quoted) ++ ")"

/-- The wording of a problem, without its place. -/
def Problem.wording : Problem → String
  | .statement => "Invalid statement"
  | .lineEnd => "Expected newline or end of document after a statement"
  | .expected what => "Expected " ++ Text.quoted what
  | .invalidChar c => "Found invalid character " ++ Text.quoted c.toString
  | .illegalChar c => "Illegal character " ++ Text.quoted c.toString
  | .twice key => "Cannot declare " ++ showKey key ++ " twice"
  | .overwrite => "Cannot overwrite a value"
  | .tableEnd => "Expected ']' at the end of a table declaration"
  | .arrayTableEnd => "Expected ']]' at the end of an array declaration"
  | .immutable key => "Cannot mutate immutable namespace " ++ showKey key
  | .namespaceRedefined key => "Cannot redefine namespace " ++ showKey key
  | .equals => "Expected '=' after a key in a key/value pair"
  | .keyStart => "Invalid initial character for a key part"
  | .openArray => "Unclosed array"
  | .openTable => "Unclosed inline table"
  | .duplicateKey key => "Duplicate inline table key " ++ Text.quoted key
  | .backslash => "Unescaped '\\' in a string"
  | .hexadecimal => "Invalid hex value"
  | .notScalar => "Escaped character is not a Unicode scalar value"
  | .unterminated => "Unterminated string"
  | .dateOrTime => "Invalid date or datetime"
  | .value => "Invalid value"
  | .digits count =>
    "Exceeds the limit (4300 digits) for integer string conversion: value has "
      ++ toString count ++ " digits; use sys.set_int_max_str_digits() to increase the limit"

/-- A problem, and how many characters were left where it was noticed. -/
structure Fault where
  /-- What is wrong. -/
  problem : Problem
  /-- How many characters were left. -/
  left : Nat
  deriving DecidableEq, Repr

/-- The wording of a fault with its place in the text. -/
def Fault.message (f : Fault) (text : List Char) : String :=
  match f.problem with
  | .digits _ => f.problem.wording
  | _ =>
    if f.left = 0 then f.problem.wording ++ " (at end of document)"
    else
      let before := text.take (text.length - f.left)
      let column := (before.reverse.takeWhile (· ≠ '\n')).length + 1
      f.problem.wording ++ " (at line " ++ toString (before.count '\n' + 1) ++ ", column "
        ++ toString column ++ ")"

/-- A reader: a value and the characters behind it. -/
abbrev Reader (α : Type) := List Char → Except Fault (α × List Char)

/-- Stops at the given characters. -/
def stop (problem : Problem) (rest : List Char) : Except Fault α :=
  .error ⟨problem, rest.length⟩

/-! ## Characters -/

/-- Whether a character is a blank inside a line. -/
def isSpace (c : Char) : Bool := c = ' ' ∨ c = '\t'

/-- Whether a character is a control character other than a tab. -/
def isControl (c : Char) : Bool := (c.toNat < 0x20 || c.toNat == 0x7F) && c ≠ '\t'

/-- Whether a character cannot stand in a text of several lines. -/
def isControlInLines (c : Char) : Bool := isControl c && c ≠ '\n'

/-- Whether a character can stand in a key without quotes. -/
def isBare (c : Char) : Bool :=
  ('a' ≤ c && c ≤ 'z') || ('A' ≤ c && c ≤ 'Z') || ('0' ≤ c && c ≤ '9') || c = '-' || c = '_'

/-- Skips blanks. -/
def skipSpace (text : List Char) : List Char := text.dropWhile isSpace

/-- Skips blanks and line breaks. -/
def skipLines (text : List Char) : List Char := text.dropWhile fun c => isSpace c || c = '\n'

/-- Whether a text starts with some characters. -/
def starts (text : List Char) (what : String) : Bool := what.toList.isPrefixOf text

/-- Stops at the first character that satisfies the test, within the first
`count` characters. -/
def refuse (bad : Char → Bool) : Nat → List Char → Except Fault Unit
  | 0, _ => .ok ()
  | _ + 1, [] => .ok ()
  | n + 1, c :: rest => if bad c then stop (.invalidChar c) (c :: rest) else refuse bad n rest

/-- Skips a comment up to the end of its line. -/
def skipComment (text : List Char) : Except Fault (List Char) :=
  match text with
  | '#' :: rest => do
    let inside := rest.takeWhile (· ≠ '\n')
    refuse isControl inside.length rest
    .ok (rest.drop inside.length)
  | _ => .ok text

/-- Skips blanks, line breaks and comments, in at most the given number of
rounds. -/
def skipFiller : Nat → List Char → Except Fault (List Char)
  | 0, text => .ok text
  | n + 1, text => do
    let rest ← skipComment (skipLines text)
    if rest.length = text.length then .ok rest else skipFiller n rest

/-! ## Texts -/

/-- How many characters stand before the first place where a text starts
with `what`. -/
def find? (what : List Char) : List Char → Option Nat
  | [] => if what.isEmpty then some 0 else none
  | c :: rest =>
    if what.isPrefixOf (c :: rest) then some 0 else (find? what rest).map (· + 1)

/-- A text without escapes, up to the given end. -/
def literalUntil (finish : String) (bad : Char → Bool) (text : List Char) :
    Except Fault (List Char × List Char) :=
  match find? finish.toList text with
  | none => stop (.expected finish) []
  | some count => do
    refuse bad count text
    .ok (text.take count, text.drop (count + finish.length))

/-- The value of a hexadecimal digit. -/
def hexValue? (c : Char) : Option Nat :=
  if '0' ≤ c ∧ c ≤ '9' then some (c.toNat - '0'.toNat)
  else if 'a' ≤ c ∧ c ≤ 'f' then some (c.toNat - 'a'.toNat + 10)
  else if 'A' ≤ c ∧ c ≤ 'F' then some (c.toNat - 'A'.toNat + 10)
  else none

/-- The number that hexadecimal digits stand for. -/
def hexNumber? (digits : List Char) : Option Nat :=
  digits.foldlM (fun n c => (hexValue? c).map (16 * n + ·)) 0

/-- A character given by its code in a fixed number of digits. -/
def codePoint (width : Nat) (text : List Char) : Except Fault (Char × List Char) :=
  let digits := text.take width
  match hexNumber? digits with
  | some code =>
    if digits.length ≠ width then stop .hexadecimal text
    else
      let rest := text.drop width
      if code < 0xD800 ∨ (0xE000 ≤ code ∧ code ≤ 0x10FFFF) then .ok (Char.ofNat code, rest)
      else stop .notScalar rest
  | none => stop .hexadecimal text

/-- What a letter behind a backslash stands for. -/
def escaped? : Char → Option Char
  | 'b' => some '\x08'
  | 't' => some '\t'
  | 'n' => some '\n'
  | 'f' => some '\x0c'
  | 'r' => some '\r'
  | '"' => some '"'
  | '\\' => some '\\'
  | _ => none

/-- An escape, behind its backslash. In a text of several lines a backslash
at the end of a line skips the blanks and line breaks behind it. -/
def escape (lines : Bool) (text : List Char) : Except Fault (List Char × List Char) :=
  match text with
  | [] => stop .backslash []
  | c :: rest =>
    if lines && c = '\n' then .ok ([], skipLines rest)
    else if lines && isSpace c then
      match skipSpace rest with
      | [] => .ok ([], [])
      | '\n' :: more => .ok ([], skipLines more)
      | other => stop .backslash other
    else if c = 'u' then do
      let (d, behind) ← codePoint 4 rest
      .ok ([d], behind)
    else if c = 'U' then do
      let (d, behind) ← codePoint 8 rest
      .ok ([d], behind)
    else match escaped? c with
      | some d => .ok ([d], rest)
      | none => stop .backslash rest

/-- A text with escapes, behind its opening quotes, in at most the given
number of steps. -/
def basicWithin (lines : Bool) : Nat → List Char → List Char →
    Except Fault (List Char × List Char)
  | 0, _, text => stop .unterminated text
  | _ + 1, _, [] => stop .unterminated []
  | n + 1, got, c :: rest =>
    if c = '"' then
      if !lines then .ok (got.reverse, rest)
      else if starts rest "\"\"" then .ok (got.reverse, rest.drop 2)
      else basicWithin lines n (c :: got) rest
    else if c = '\\' then do
      let (new, behind) ← escape lines rest
      basicWithin lines n (new.reverse ++ got) behind
    else if (if lines then isControlInLines c else isControl c) then
      stop (.illegalChar c) (c :: rest)
    else basicWithin lines n (c :: got) rest

/-- A text with escapes, behind its opening quotes. -/
def basic (lines : Bool) (text : List Char) : Except Fault (List Char × List Char) :=
  basicWithin lines (text.length + 1) [] text

/-- Up to two quotes right before the closing ones belong to the text. -/
def extraQuotes (quote : Char) (got rest : List Char) : List Char × List Char :=
  match rest with
  | a :: b :: more =>
    if a = quote then if b = quote then (got ++ [quote, quote], more) else (got ++ [quote], b :: more)
    else (got, rest)
  | [a] => if a = quote then (got ++ [quote], []) else (got, rest)
  | [] => (got, rest)

/-- A text of several lines, behind its opening quotes. -/
def multiline (literal : Bool) (text : List Char) : Except Fault (List Char × List Char) := do
  let text := match text with
    | '\n' :: rest => rest
    | other => other
  if literal then
    let (got, rest) ← literalUntil "'''" isControlInLines text
    .ok (extraQuotes '\'' got rest)
  else
    let (got, rest) ← basic true text
    .ok (extraQuotes '"' got rest)

/-! ## Keys -/

/-- A part of a key. -/
def keyPart : Reader String := fun text =>
  match text with
  | '\'' :: rest => do
    let (got, behind) ← literalUntil "'" isControl rest
    .ok (String.ofList got, behind)
  | '"' :: rest => do
    let (got, behind) ← basic false rest
    .ok (String.ofList got, behind)
  | _ =>
    match text.takeWhile isBare with
    | [] => stop .keyStart text
    | part => .ok (String.ofList part, text.drop part.length)

/-- The parts of a key, in at most the given number of steps. -/
def keyWithin : Nat → Reader Key
  | 0, text => stop .keyStart text
  | n + 1, text => do
    let (part, rest) ← keyPart text
    match skipSpace rest with
    | '.' :: more => do
      let (parts, behind) ← keyWithin n (skipSpace more)
      .ok (part :: parts, behind)
    | other => .ok ([part], other)

/-- A key, with the blanks behind it. -/
def key : Reader Key := fun text => keyWithin (text.length + 1) text

/-! ## Numbers, dates and times -/

/-- The number that decimal digits stand for. -/
def natOf (digits : List Char) : Nat :=
  digits.foldl (fun n c => 10 * n + (c.toNat - '0'.toNat)) 0

/-- Further digits of a number, each of which may have an underscore before
it. -/
def moreDigits (isDigit : Char → Bool) : List Char → List Char × List Char
  | '_' :: d :: rest =>
    if isDigit d then
      let (ds, behind) := moreDigits isDigit rest
      (d :: ds, behind)
    else ([], '_' :: d :: rest)
  | d :: rest =>
    if isDigit d then
      let (ds, behind) := moreDigits isDigit rest
      (d :: ds, behind)
    else ([], d :: rest)
  | [] => ([], [])

/-- Digits at the start of a text, with single underscores between them. -/
def digitRun (isDigit : Char → Bool) : List Char → List Char × List Char
  | c :: rest =>
    if isDigit c then
      let (ds, behind) := moreDigits isDigit rest
      (c :: ds, behind)
    else ([], c :: rest)
  | [] => ([], [])

/-- The value of some digits in a base. -/
def inBase (base : Nat) (digits : List Char) : Nat :=
  digits.foldl (fun n c => base * n + (hexValue? c).getD 0) 0

/-- A number in another base than ten. -/
def based? (text : List Char) : Option (Nat × List Char) :=
  let digitsIn (base : Nat) (c : Char) : Bool :=
    match hexValue? c with
    | some d => d < base
    | none => false
  let read (base : Nat) (rest : List Char) : Option (Nat × List Char) :=
    match digitRun (digitsIn base) rest with
    | ([], _) => none
    | (ds, behind) => some (inBase base ds, behind)
  match text with
  | '0' :: 'x' :: rest => read 16 rest
  | '0' :: 'b' :: rest => read 2 rest
  | '0' :: 'o' :: rest => read 8 rest
  | _ => none

/-- The digits of the whole part of a number. -/
def wholeDigits (text : List Char) : List Char × List Char :=
  match text with
  | '0' :: rest => (['0'], rest)
  | rest => digitRun Char.isDigit rest

/-- The fraction of a number, if there is one. -/
def fraction (text : List Char) : Option (List Char × List Char) :=
  match text with
  | '.' :: rest => match digitRun Char.isDigit rest with
    | ([], _) => none
    | found => some found
  | _ => none

/-- The exponent of a number, if there is one. -/
def exponent (text : List Char) : Option (Int × List Char) :=
  match text with
  | e :: rest =>
    if e = 'e' ∨ e = 'E' then
      let (negative, rest) := match rest with
        | '-' :: more => (true, more)
        | '+' :: more => (false, more)
        | other => (false, other)
      match digitRun Char.isDigit rest with
      | ([], _) => none
      | (ds, behind) => some (if negative then -(natOf ds : Int) else natOf ds, behind)
    else none
  | [] => none

/-- A number at the start of a text. -/
def number? (text : List Char) : Option (Except Fault (Value × List Char)) :=
  match based? text with
  | some (n, rest) => some (.ok (.int n, rest))
  | none =>
    let (negative, body) := match text with
      | '-' :: rest => (true, rest)
      | '+' :: rest => (false, rest)
      | other => (false, other)
    match wholeDigits body with
    | ([], _) => none
    | (whole, rest) =>
      let part := fraction rest
      let (places, rest) := part.getD ([], rest)
      let power := exponent rest
      let (scale, rest) := power.getD (0, rest)
      some <|
        if part.isSome || power.isSome then
          .ok (.real (.ofDecimal negative (natOf (whole ++ places)) (scale - places.length)), rest)
        else if whole.length > Value.mostDigits then stop (.digits whole.length) rest
        else .ok (.int (if negative then -(natOf whole : Int) else natOf whole), rest)

/-- Two digits that stand for a number in a range. -/
def twoDigits? (low high : Nat) : List Char → Option (Nat × List Char)
  | a :: b :: rest =>
    let n := natOf [a, b]
    if a.isDigit && b.isDigit && low ≤ n && n ≤ high then some (n, rest) else none
  | _ => none

/-- What stands behind a given character at the start of a text. -/
def behind? (c : Char) : List Char → Option (List Char)
  | d :: rest => if d = c then some rest else none
  | [] => none

/-- The millionths of a second, if they are given: of more than six digits
the further ones are dropped. -/
def micros (text : List Char) : Nat × List Char :=
  match text with
  | '.' :: rest => match rest.takeWhile Char.isDigit with
    | [] => (0, text)
    | ds =>
      let kept := ds.take 6
      (natOf (kept ++ List.replicate (6 - kept.length) '0'), rest.drop ds.length)
  | _ => (0, text)

/-- A time of the day at the start of a text. -/
def clock? (text : List Char) : Option (Clock × List Char) := do
  let (hour, rest) ← twoDigits? 0 23 text
  let rest ← behind? ':' rest
  let (minute, rest) ← twoDigits? 0 59 rest
  let rest ← behind? ':' rest
  let (second, rest) ← twoDigits? 0 59 rest
  let (micro, rest) := micros rest
  some (⟨hour, minute, second, micro⟩, rest)

/-- The distance from universal time, in minutes, if it is given. -/
def offset? (text : List Char) : Option Int × List Char :=
  match text with
  | [] => (none, text)
  | c :: rest =>
    if c = 'Z' ∨ c = 'z' then (some 0, rest)
    else if c = '+' ∨ c = '-' then
      let found : Option (Nat × List Char) := do
        let (hours, rest) ← twoDigits? 0 23 rest
        let rest ← behind? ':' rest
        let (minutes, rest) ← twoDigits? 0 59 rest
        some (hours * 60 + minutes, rest)
      match found with
      | some (n, behind) => (some (if c = '-' then -(n : Int) else n), behind)
      | none => (none, text)
    else (none, text)

/-- Whether a year has a leap day. -/
def isLeap (year : Nat) : Bool := year % 4 == 0 && (year % 100 != 0 || year % 400 == 0)

/-- The number of days of a month. -/
def daysIn (year month : Nat) : Nat :=
  if month = 2 then if isLeap year then 29 else 28
  else if month = 4 ∨ month = 6 ∨ month = 9 ∨ month = 11 then 30 else 31

/-- Whether there is such a day. -/
def isDate (d : Date) : Bool := 1 ≤ d.year && d.day ≤ daysIn d.year d.month

/-- A date at the start of a text, whether there is such a day or not. -/
def date? (text : List Char) : Option (Date × List Char) := do
  let (century, rest) ← twoDigits? 0 99 text
  let (year, rest) ← twoDigits? 0 99 rest
  let rest ← behind? '-' rest
  let (month, rest) ← twoDigits? 1 12 rest
  let rest ← behind? '-' rest
  let (day, rest) ← twoDigits? 1 31 rest
  some (⟨century * 100 + year, month, day⟩, rest)

/-- A date, or a date with a time. -/
def dateTime? (text : List Char) : Option (Except Fault (Value × List Char)) := do
  let (date, rest) ← date? text
  let timed : Option (Clock × List Char) := match rest with
    | c :: more => if c = 'T' ∨ c = 't' ∨ c = ' ' then clock? more else none
    | [] => none
  if !isDate date then some (stop .dateOrTime text)
  else match timed with
    | some (time, more) =>
      let (offset, behind) := offset? more
      some (.ok (.dateTime date time offset, behind))
    | none => some (.ok (.date date, rest))

/-- A number that is not finite. -/
def special? (text : List Char) : Option (Value × List Char) :=
  let words : List (String × Value) :=
    [("inf", .real (.infinite false)), ("nan", .real .nan), ("-inf", .real (.infinite true)),
      ("+inf", .real (.infinite false)), ("-nan", .real .nan), ("+nan", .real .nan)]
  (words.find? fun (w, _) => starts text w).map fun (w, v) => (v, text.drop w.length)

/-- A value that holds no others and is not a text. -/
def scalar : Reader Value := fun text =>
  if starts text "true" then .ok (.bool true, text.drop 4)
  else if starts text "false" then .ok (.bool false, text.drop 5)
  else match dateTime? text with
    | some found => found
    | none => match clock? text with
      | some (t, rest) => .ok (.time t, rest)
      | none => match number? text with
        | some found => found
        | none => match special? text with
          | some found => .ok found
          | none => stop .value text

/-! ## Tables -/

/-- Changes the table at a path, making the tables on the way to it; nothing
if something else than a table is on the way. With `throughArrays`, the
last item of an array of tables stands for the array. -/
def changeAt (throughArrays : Bool) (change : Entries → Option Entries) :
    Key → Entries → Option Entries
  | [], entries => change entries
  | k :: path, entries =>
    match entries.get? k with
    | none => do
      let inner ← changeAt throughArrays change path []
      some (entries.set k (.table inner))
    | some (.table inner) => do
      let inner ← changeAt throughArrays change path inner
      some (entries.set k (.table inner))
    | some (.array items) =>
      if throughArrays then
        match items.reverse with
        | .table inner :: earlier => do
          let inner ← changeAt throughArrays change path inner
          some (entries.set k (.array (earlier.reverse ++ [.table inner])))
        | _ => none
      else none
    | some _ => none

/-- Adds a key that is not there yet. -/
def addKey (k : String) (v : Value) (entries : Entries) : Option Entries :=
  match entries.get? k with
  | none => some (entries.set k v)
  | some _ => none

/-- Adds an empty table at the end of an array of tables, which is made if it
is not there. -/
def addItem (k : String) (entries : Entries) : Option Entries :=
  match entries.get? k with
  | none => some (entries.set k (.array [.table []]))
  | some (.array items) => some (entries.set k (.array (items ++ [.table []])))
  | some _ => none

/-- The part of a key before its last part, and the last part. -/
def splitKey : Key → Key × String
  | [] => ([], "")
  | [k] => ([], k)
  | k :: more =>
    let (path, last) := splitKey more
    (k :: path, last)

/-- Which tables and values can no longer be changed, and how. -/
structure Marks where
  /-- Tables that cannot get a header any more. -/
  closed : List Key := []
  /-- Values that cannot be changed any more, with all that is in them. -/
  frozen : List Key := []
  /-- Tables that will be closed when the next header comes. -/
  pending : List Key := []

namespace Marks

/-- Whether a table cannot get a header. -/
def isClosed (m : Marks) (key : Key) : Bool := m.closed.contains key

/-- Whether a value cannot be changed. -/
def isFrozen (m : Marks) (key : Key) : Bool := m.frozen.any (·.isPrefixOf key)

/-- Closes a table. -/
def close (m : Marks) (key : Key) : Marks := { m with closed := key :: m.closed }

/-- Freezes a value. -/
def freeze (m : Marks) (key : Key) : Marks := { m with frozen := key :: m.frozen }

/-- Closes a table from the next header on. -/
def closeLater (m : Marks) (key : Key) : Marks := { m with pending := key :: m.pending }

/-- Closes what was to be closed at the next header. -/
def settle (m : Marks) : Marks := { m with closed := m.pending ++ m.closed, pending := [] }

/-- Forgets the marks of a table and of all that is in it. -/
def free (m : Marks) (key : Key) : Marks :=
  { m with closed := m.closed.filter fun k => !key.isPrefixOf k,
           frozen := m.frozen.filter fun k => !key.isPrefixOf k }

end Marks

/-- Whether a value holds others. -/
def isContainer : Value → Bool
  | .array _ | .table _ => true
  | _ => false

mutual

/-- A value. The first argument bounds how deep values can be nested and how
many of them there can be. -/
def value : Nat → Reader Value
  | 0, text => stop .value text
  | n + 1, text =>
    match text with
    | '"' :: '"' :: '"' :: rest => do
      let (got, behind) ← multiline false rest
      .ok (.text (String.ofList got), behind)
    | '"' :: rest => do
      let (got, behind) ← basic false rest
      .ok (.text (String.ofList got), behind)
    | '\'' :: '\'' :: '\'' :: rest => do
      let (got, behind) ← multiline true rest
      .ok (.text (String.ofList got), behind)
    | '\'' :: rest => do
      let (got, behind) ← literalUntil "'" isControl rest
      .ok (.text (String.ofList got), behind)
    | '[' :: rest => do
      match ← skipFiller (rest.length + 1) rest with
      | ']' :: behind => .ok (.array [], behind)
      | inside => items n [] inside
    | '{' :: rest =>
      match skipSpace rest with
      | '}' :: behind => .ok (.table [], behind)
      | inside => pairs n [] {} inside
    | other => scalar other

/-- The items of an array up to its closing bracket; `got` holds them in
reverse. -/
def items : Nat → List Value → Reader Value
  | 0, _, text => stop .value text
  | n + 1, got, text => do
    let (v, rest) ← value n text
    let got := v :: got
    match ← skipFiller (rest.length + 1) rest with
    | ']' :: behind => .ok (.array got.reverse, behind)
    | ',' :: more => do
      match ← skipFiller (more.length + 1) more with
      | ']' :: behind => .ok (.array got.reverse, behind)
      | next => items n got next
    | other => stop .openArray other

/-- The entries of an inline table up to its closing brace. -/
def pairs : Nat → Entries → Marks → Reader Value
  | 0, _, _, text => stop .value text
  | n + 1, got, marks, text => do
    let (k, rest) ← key text
    match rest with
    | '=' :: rest => do
      let (v, rest) ← value n (skipSpace rest)
      if marks.isFrozen k then stop (.immutable k) rest
      else
        let (path, last) := splitKey k
        match changeAt false some path got with
        | none => stop .overwrite rest
        | some _ =>
          match changeAt false (addKey last v) path got with
          | none => stop (.duplicateKey last) rest
          | some got =>
            match skipSpace rest with
            | '}' :: behind => .ok (.table got, behind)
            | ',' :: more =>
              let marks := if isContainer v then marks.freeze k else marks
              pairs n got marks (skipSpace more)
            | other => stop .openTable other
    | other => stop .equals other

end

/-! ## Documents -/

/-- What has been read of a document. -/
structure State where
  /-- The whole table. -/
  table : Entries := []
  /-- What can no longer be changed. -/
  marks : Marks := {}
  /-- The table to which assignments belong. -/
  header : Key := []

/-- The proper beginnings of a key, the shortest first. -/
def beginnings (key : Key) : List Key :=
  (List.range key.length).drop 1 |>.map (key.take ·)

/-- Marks the tables that a dotted key passes, unless one is closed. -/
def passThrough (rest : List Char) : List Key → Marks → Except Fault Marks
  | [], marks => .ok marks
  | path :: more, marks =>
    if marks.isClosed path then stop (.namespaceRedefined path) rest
    else passThrough rest more (marks.closeLater path)

/-- An assignment. Its value takes at most two steps for each character: one
for the value itself, and one for its place among the items around it. -/
def assignment (s : State) (text : List Char) : Except Fault (State × List Char) := do
  let (k, rest) ← key text
  match rest with
  | '=' :: rest => do
    let (v, rest) ← value (2 * rest.length + 1) (skipSpace rest)
    let (path, last) := splitKey k
    let parent := s.header ++ path
    let marks ← passThrough rest ((beginnings k).map (s.header ++ ·)) s.marks
    if marks.isFrozen parent then stop (.immutable parent) rest
    else match changeAt true (addKey last v) parent s.table with
      | none => stop .overwrite rest
      | some table =>
        let marks := if isContainer v then marks.freeze (s.header ++ k) else marks
        .ok ({ s with table, marks }, rest)
  | other => stop .equals other

/-- The header of a table, behind its bracket. -/
def tableHeader (s : State) (text : List Char) : Except Fault (State × List Char) := do
  let (k, rest) ← key (skipSpace text)
  if s.marks.isClosed k || s.marks.isFrozen k then stop (.twice k) rest
  else match changeAt true some k s.table with
    | none => stop .overwrite rest
    | some table => match rest with
      | ']' :: behind => .ok ({ table, marks := s.marks.close k, header := k }, behind)
      | other => stop .tableEnd other

/-- The header of an item of an array of tables, behind its brackets. -/
def itemHeader (s : State) (text : List Char) : Except Fault (State × List Char) := do
  let (k, rest) ← key (skipSpace text)
  if s.marks.isFrozen k then stop (.immutable k) rest
  else
    let (path, last) := splitKey k
    match changeAt true (addItem last) path s.table with
    | none => stop .overwrite rest
    | some table => match rest with
      | ']' :: ']' :: behind =>
        .ok ({ table, marks := (s.marks.free k).close k, header := k }, behind)
      | other => stop .arrayTableEnd other

/-- Reads at most the given number of statements. -/
def statements : Nat → State → List Char → Except Fault Entries
  | 0, s, _ => .ok s.table
  | n + 1, s, text =>
    match skipSpace text with
    | [] => .ok s.table
    | '\n' :: rest => statements n s rest
    | c :: rest => do
      let (s, rest) ←
        if isBare c || c = '"' || c = '\'' then do
          let (s, rest) ← assignment s (c :: rest)
          .ok (s, skipSpace rest)
        else if c = '[' then do
          let s := { s with marks := s.marks.settle }
          let (s, rest) ← match rest with
            | '[' :: rest => itemHeader s rest
            | rest => tableHeader s rest
          .ok (s, skipSpace rest)
        else if c = '#' then .ok (s, c :: rest)
        else stop .statement (c :: rest)
      match ← skipComment rest with
      | [] => .ok s.table
      | '\n' :: more => statements n s more
      | other => stop .lineEnd other

/-- Reads a whole document, whose lines end with line feeds. -/
def read (text : List Char) : Except Fault Entries :=
  statements (text.length + 1) {} text

end ImportPolicy.Document.Toml
