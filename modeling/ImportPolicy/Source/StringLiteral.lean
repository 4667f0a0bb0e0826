import ImportPolicy.Source.Fault
import ImportPolicy.Text.CharacterNames
import ImportPolicy.Text.Ranges

/-!
# String literals

A string literal is a few prefix letters, a quote (one or three of them), a
body and the same quote. The body stands for a text or for bytes. Unless the
literal is raw a backslash starts an escape, and a bad escape is a fault
whose wording counts positions in the body as if every character outside
ASCII were spelled as an escape of ten characters (`StringLiteral.width`).

An escape can name a character. Which names there are is up to a table
(`CharacterNames`), and a name that it does not have is a fault.
-/

namespace ImportPolicy.Source.StringLiteral

/-- A string literal taken apart. -/
structure Quoted where
  /-- Whether escapes stand for themselves. -/
  raw : Bool
  /-- Whether the literal stands for bytes. -/
  bytes : Bool
  /-- Whether the literal has replacement fields. -/
  formatted : Bool
  /-- The prefix letters and the opening quote. -/
  lead : List Char
  /-- What stands between the quotes. -/
  body : List Char
  deriving Repr

/-- Takes a string literal apart. -/
def Quoted.ofText (text : String) : Quoted :=
  let chars := text.toList
  let letters := chars.takeWhile fun c => c ≠ '\'' && c ≠ '"'
  let rest := chars.drop letters.length
  let has (c : Char) : Bool := letters.any fun l => l.toLower == c
  let size := match rest with
    | a :: b :: c :: _ :: _ :: _ :: _ => if a == b && b == c then 3 else 1
    | _ => 1
  { raw := has 'r', bytes := has 'b', formatted := has 'f', lead := letters ++ rest.take size,
    body := (rest.drop size).take (rest.length - 2 * size) }

/-- The number of bytes of a character once characters outside ASCII are
spelled as escapes. -/
def width (c : Char) : Nat := if c.toNat < 128 then 1 else 10

/-- The number of bytes of several characters, counted in the same way. -/
def widths : List Char → Nat
  | [] => 0
  | c :: rest => width c + widths rest

/-- The wording of a bad escape that starts at `start` and ends before
`stop`. -/
def escapeFault (start stop : Nat) (reason : String) : Cause :=
  if stop = start + 1 then
    .badEscape ("byte 0x5c in position " ++ toString start ++ ": " ++ reason)
  else
    .badEscape ("bytes in position " ++ toString start ++ "-" ++ toString (stop - 1)
      ++ ": " ++ reason)

/-- The character with a code point. Half of a surrogate pair is a code point
too, but texts are made of characters here, and it is none: it becomes the
replacement character. -/
def charOf (code : Nat) : Char :=
  if 0xD800 ≤ code ∧ code ≤ 0xDFFF then '\ufffd' else Char.ofNat code

/-- The escapes of one letter. -/
def simpleEscape? : Char → Option Char
  | '\\' => some '\\'
  | '\'' => some '\''
  | '"' => some '"'
  | 'b' => some '\x08'
  | 'f' => some '\x0c'
  | 't' => some '\t'
  | 'n' => some '\n'
  | 'r' => some '\r'
  | 'v' => some '\x0b'
  | 'a' => some '\x07'
  | _ => none

/-- Whether a character is an octal digit. -/
def isOctal (c : Char) : Bool := '0' ≤ c && c ≤ '7'

/-- The text that the body of a literal stands for. `pos` is the position of
the first character. -/
def decodeFrom (names : CharacterNames) : Nat → Nat → List Char → Except Cause (List Char)
  | 0, _, _ => .ok []
  | _, _, [] => .ok []
  | _ + 1, _, ['\\'] => .ok ['\\']
  | fuel + 1, pos, '\\' :: c :: rest =>
    if c.toNat ≥ 128 then do
      let more ← decodeFrom names fuel (pos + 16) rest
      pure ('\\' :: c :: more)
    else if c == '\n' then decodeFrom names fuel (pos + 2) rest
    else match simpleEscape? c with
      | some plain => do
        let more ← decodeFrom names fuel (pos + 2) rest
        pure (plain :: more)
      | none =>
        if isOctal c then do
          let digits := (c :: rest).take 3 |>.takeWhile isOctal
          let value := digits.foldl (fun n d => 8 * n + (d.toNat - '0'.toNat)) 0
          let more ← decodeFrom names fuel (pos + 1 + digits.length)
            ((c :: rest).drop digits.length)
          pure (charOf value :: more)
        else
          let hex (count : Nat) (reason : String) : Except Cause (List Char) :=
            let digits := (rest.take count).takeWhile fun d => (Text.hexValue? d).isSome
            if digits.length < count then
              .error (escapeFault pos (pos + 2 + digits.length) reason)
            else
              let value := Text.hexNumber digits
              if value > 0x10FFFF then
                .error (escapeFault pos (pos + 2 + count) "illegal Unicode character")
              else do
                let more ← decodeFrom names fuel (pos + 2 + count) (rest.drop count)
                pure (charOf value :: more)
          match c with
          | 'x' => hex 2 "truncated \\xXX escape"
          | 'u' => hex 4 "truncated \\uXXXX escape"
          | 'U' => hex 8 "truncated \\UXXXXXXXX escape"
          | 'N' =>
            match rest with
            | '{' :: behind =>
              let name := behind.takeWhile (· ≠ '}')
              let size := widths name
              if name.length = behind.length then
                .error (escapeFault pos (pos + 3 + size) "malformed \\N character escape")
              else if name.isEmpty then
                .error (escapeFault pos (pos + 3) "malformed \\N character escape")
              else match names.named? name with
                | none =>
                  .error (escapeFault pos (pos + 4 + size) "unknown Unicode character name")
                | some named => do
                  let more ← decodeFrom names fuel (pos + 4 + size) (behind.drop (name.length + 1))
                  pure (named :: more)
            | _ => .error (escapeFault pos (pos + 2) "malformed \\N character escape")
          | _ => do
            let more ← decodeFrom names fuel (pos + 2) rest
            pure ('\\' :: c :: more)
  | fuel + 1, pos, c :: rest => do
    let more ← decodeFrom names fuel (pos + width c) rest
    pure (c :: more)

/-- The text that the body of a literal stands for. -/
def decode (names : CharacterNames) (raw : Bool) (body : List Char) :
    Except Cause (List Char) :=
  if raw then .ok body else decodeFrom names (body.length + 1) 0 body

/-- Checks the body of a literal that stands for bytes: every escape `\x`
has two hexadecimal digits. -/
def checkBytesFrom : Nat → Nat → List Char → Except Cause Unit
  | 0, _, _ => .ok ()
  | fuel + 1, pos, '\\' :: 'x' :: rest =>
    if ((rest.take 2).takeWhile fun d => (Text.hexValue? d).isSome).length < 2 then
      .error (.badByteEscape pos)
    else checkBytesFrom fuel (pos + 4) (rest.drop 2)
  | fuel + 1, pos, '\\' :: _ :: rest => checkBytesFrom fuel (pos + 2) rest
  | fuel + 1, pos, _ :: rest => checkBytesFrom fuel (pos + 1) rest
  | _, _, [] => .ok ()

/-- Checks the body of a literal that stands for bytes. -/
def checkBytes (raw : Bool) (body : List Char) : Except Cause Unit :=
  if raw then .ok () else checkBytesFrom (body.length + 1) 0 body

/-! ### Replacement fields

The body of a formatted literal is read from the left: literal text up to a
brace, then a field. A field is an expression, an optional `=`, an optional
conversion and an optional format, which is again a body with fields. The
expression ends at the first mark that is neither inside a string nor inside
brackets. -/

/-- How far a literal has been read: the line ends passed, and the bytes
since the last of them. -/
structure Spot where
  /-- How many line ends have been passed. -/
  lines : Nat
  /-- How many bytes have been passed since the last line end or since the
  start of the literal. -/
  column : Nat
  deriving Repr, Inhabited

/-- The spot behind a character. -/
def Spot.step (s : Spot) (c : Char) : Spot :=
  if c == '\n' then { lines := s.lines + 1, column := 0 }
  else { s with column := s.column + c.utf8Size }

/-- The spot behind several characters. -/
def Spot.past (s : Spot) (chars : List Char) : Spot := chars.foldl Spot.step s

/-- What stops a piece of literal text. -/
inductive PieceEnd where
  /-- The end of the body. -/
  | finish
  /-- A doubled brace, which stands for a single one. -/
  | doubled
  /-- A single brace. -/
  | brace

/-- Splits off a piece of literal text: its characters, what stops it, and
the rest, which starts at the brace unless the brace was doubled. Braces are
doubled only outside formats (`nested`). -/
def piece (raw nested : Bool) : Nat → List Char → List Char →
    Except FieldFault (List Char × PieceEnd × List Char)
  | 0, got, rest => .ok (got.reverse, .finish, rest)
  | _, got, [] => .ok (got.reverse, .finish, [])
  | fuel + 1, got, c :: rest =>
    let stopAt (got : List Char) (ch : Char) (behind : List Char) :
        Except FieldFault (List Char × PieceEnd × List Char) :=
      if !nested && behind.head? == some ch then
        .ok ((ch :: got).reverse, .doubled, behind.drop 1)
      else if !nested && ch == '}' then .error .singleBrace
      else .ok (got.reverse, .brace, ch :: behind)
    if !raw && c == '\\' then
      match rest with
      | [] => piece raw nested fuel ('\\' :: got) []
      | 'N' :: '{' :: behind =>
        let name := behind.takeWhile (· ≠ '}')
        let taken := name ++ (behind.drop name.length).take 1
        piece raw nested fuel (taken.reverse ++ '{' :: 'N' :: '\\' :: got)
          (behind.drop taken.length)
      | 'N' :: other :: behind => piece raw nested fuel (other :: 'N' :: '\\' :: got) behind
      | ch :: behind =>
        if ch == '{' || ch == '}' then stopAt ('\\' :: got) ch behind
        else piece raw nested fuel (ch :: '\\' :: got) behind
    else if c == '{' || c == '}' then stopAt got c rest
    else piece raw nested fuel (c :: got) rest

/-- The closing bracket of an opening one. -/
def closes (opening closing : Char) : Bool :=
  (opening == '(' && closing == ')') || (opening == '[' && closing == ']')
    || (opening == '{' && closing == '}')

/-- Reads to the end of the expression of a field. `quote` is the quote of
the string being read, with its size, and `brackets` the open brackets. The
result is the expression and the rest, which starts at the mark that ended
it. -/
def fieldExpression : Nat → List Char → Option (Char × Nat) → List Char → List Char →
    Except FieldFault (List Char × List Char)
  | 0, got, _, _, rest => .ok (got.reverse, rest)
  | _, got, quote, brackets, [] =>
    if quote.isSome then .error .unterminated
    else match brackets with
      | opening :: _ => .error (.unmatched opening)
      | [] => .ok (got.reverse, [])
  | fuel + 1, got, quote, brackets, c :: rest =>
    let tripled := match rest with
      | a :: b :: _ => a == c && b == c
      | _ => false
    if c == '\\' then .error .backslash
    else match quote with
      | some (q, size) =>
        if c == q then
          if size = 3 then
            if tripled then fieldExpression fuel (c :: c :: c :: got) none brackets (rest.drop 2)
            else fieldExpression fuel (c :: got) quote brackets rest
          else fieldExpression fuel (c :: got) none brackets rest
        else fieldExpression fuel (c :: got) quote brackets rest
      | none =>
        if c == '\'' || c == '"' then
          if tripled then
            fieldExpression fuel (c :: c :: c :: got) (some (c, 3)) brackets (rest.drop 2)
          else fieldExpression fuel (c :: got) (some (c, 1)) brackets rest
        else if c == '[' || c == '{' || c == '(' then
          if brackets.length ≥ 200 then .error .tooManyParens
          else fieldExpression fuel (c :: got) none (c :: brackets) rest
        else if c == '#' then .error .comment
        else if brackets.isEmpty
            && (c == '!' || c == ':' || c == '}' || c == '=' || c == '>' || c == '<') then
          match rest with
          | '=' :: behind =>
            if c == '!' || c == '=' || c == '<' || c == '>' then
              fieldExpression fuel ('=' :: c :: got) none brackets behind
            else .ok (got.reverse, c :: rest)
          | _ =>
            if c == '>' || c == '<' then fieldExpression fuel (c :: got) none brackets rest
            else .ok (got.reverse, c :: rest)
        else if c == ']' || c == '}' || c == ')' then
          match brackets with
          | [] => .error (.unmatched c)
          | opening :: outer =>
            if closes opening c then fieldExpression fuel (c :: got) none outer rest
            else .error (.mismatched c opening)
        else fieldExpression fuel (c :: got) none brackets rest

/-- Whether only blanks stand between the brace of a field and the end of
its line or of the field. -/
def startsBlank (expression : List Char) : Bool :=
  match expression.dropWhile fun c => c == ' ' || c == '\t' || c == '\x0c' with
  | [] => true
  | c :: _ => c == '\n'

/-- Whether an expression is blank, and so no expression. -/
def isBlankExpression (expression : List Char) : Bool :=
  expression.all fun c => c == ' ' || c == '\t' || c == '\n' || c == '\x0c'

end ImportPolicy.Source.StringLiteral
