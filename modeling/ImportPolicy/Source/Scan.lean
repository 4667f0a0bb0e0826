import ImportPolicy.Source.Cursor
import ImportPolicy.Source.Fault
import ImportPolicy.Source.Token
import ImportPolicy.Text.Identifier
import ImportPolicy.Text.Printable

/-!
# Reading a text as tokens

`Scan.read` turns a text into its tokens. Reading stops at the end of the
text or at the first place that no token can cover; the tokens before that
place are kept, because a parser that gives up earlier reports its own
fault.

A stop has two forms. Most say what is wrong at once. The others – the end
of the text inside a bracket or behind a backslash, and faults of the
indentation – are only reported to a parser that gets there, and do not
take precedence over a fault the parser found before (`Stop.urgent`).
-/

namespace ImportPolicy.Source

/-- A place in a text: a line and a column counted from one, in bytes of
UTF-8 or, where it is already known, in characters. -/
inductive Site where
  | bytes (line column : Nat)
  | characters (line : Nat) (column : Int)
  deriving Repr, Inhabited, DecidableEq

/-- The line of a place. -/
def Site.line : Site → Nat
  | .bytes line _ | .characters line _ => line

/-- An open bracket and where it stands. -/
structure Bracket where
  /-- The opening bracket. -/
  mark : Char
  /-- The line it stands on. -/
  line : Nat
  /-- The byte column it stands at. -/
  column : Nat
  deriving Repr, Inhabited

/-- The bracket that closes an opening bracket. -/
def Bracket.closing (b : Bracket) : Char :=
  match b.mark with
  | '(' => ')'
  | '[' => ']'
  | _ => '}'

/-- The fault of a bracket that is never closed. -/
def Bracket.unclosed (b : Bracket) : Cause × Site :=
  (.neverClosed b.mark, .bytes b.line (b.column + 1))

/-- Why reading stopped before the end of the text. -/
structure Stop where
  /-- What is wrong. -/
  cause : Cause
  /-- Where it is wrong. -/
  site : Site
  /-- Whether the stop takes precedence over a fault found before it. -/
  urgent : Bool
  /-- The innermost open bracket. -/
  bracket : Option Bracket
  deriving Repr

/-- What reading a text gives: its tokens, and the stop if there was one. -/
structure Scan where
  /-- The tokens in order. -/
  tokens : Array Token
  /-- The stop behind the last token; without one the last token ends the
  text. -/
  stop : Option Stop

namespace Scan

/-- The deepest nesting of brackets. -/
def maxBrackets : Nat := 200

/-- The deepest nesting of indented blocks, the outermost level included. -/
def maxIndents : Nat := 100

/-- The state of the reader between two tokens. -/
structure State where
  /-- More than the number of characters that are left. -/
  limit : Nat
  /-- Where the reader stands. -/
  cursor : Cursor
  /-- Whether a line starts here, so that its indentation counts. -/
  lineStart : Bool
  /-- The widths of the open blocks, innermost first: with a tab up to the
  next multiple of eight and with a tab of width one. -/
  indents : List (Nat × Nat)
  /-- How many marks of opened blocks are still to be given. -/
  opened : Nat
  /-- How many marks of closed blocks are still to be given. -/
  closed : Nat
  /-- The open brackets, innermost first. -/
  brackets : List Bracket

/-- A fault that is reported at once, at the last character read. -/
def State.halt (s : State) (c : Cursor) (cause : Cause) : Stop :=
  { cause, site := .bytes c.line c.column, urgent := true, bracket := s.brackets.head? }

/-- A fault that waits for the parser. -/
def State.wait (s : State) (cause : Cause) (site : Site) : Stop :=
  { cause, site, urgent := false, bracket := s.brackets.head? }

/-- The end of the text where more is needed. -/
def State.atEnd (s : State) (c : Cursor) : Stop :=
  match s.brackets.head? with
  | some bracket => s.wait bracket.unclosed.1 bracket.unclosed.2
  | none => s.wait .unexpectedEnd (.bytes c.line c.column)

/-- Whether a character can start a name, as far as its first byte tells. -/
def isNameStart (c : Char) : Bool :=
  c.isAlpha || c == '_' || c.toNat ≥ 128

/-- Whether a character can continue a name, as far as its first byte
tells. -/
def isNamePart (c : Char) : Bool :=
  isNameStart c || c.isDigit

/-- Reads past a backslash that joins two lines. -/
def joinLines (s : State) (c : Cursor) : Except Stop Cursor :=
  match c.next? with
  | some ('\n', c') => if c'.rest.isEmpty then .error (s.atEnd c') else .ok c'.opened
  | _ => .error (s.wait .strayContinuation (.bytes c.line (c.span + 1)))

/-- The widths of the indentation of a line. -/
structure Indentation where
  /-- The width with a tab up to the next multiple of eight. -/
  wide : Nat
  /-- The width with a tab of width one. -/
  narrow : Nat
  /-- The width before the first backslash that joins lines, zero if there
  is none. -/
  joined : Nat

/-- Reads the blanks a line starts with. -/
def indentation (s : State) : Nat → Cursor → Indentation → Except Stop (Cursor × Indentation)
  | 0, c, i => .ok (c, i)
  | fuel + 1, c, i =>
    let c := c.opened
    match c.next? with
    | some (' ', c') => indentation s fuel c' { i with wide := i.wide + 1, narrow := i.narrow + 1 }
    | some ('\t', c') =>
      indentation s fuel c' { i with wide := (i.wide / 8 + 1) * 8, narrow := i.narrow + 1 }
    | some ('\x0c', c') => indentation s fuel c' { i with wide := 0, narrow := 0 }
    | some ('\\', c') => do
      let c' ← joinLines s c'
      indentation s fuel c' { i with joined := if i.joined = 0 then i.wide else i.joined }
    | _ => .ok (c, i)

/-- Closes the blocks that are wider than the new line. -/
def closeBlocks (wide : Nat) : List (Nat × Nat) → Nat → List (Nat × Nat) × Nat
  | top :: below :: rest, count =>
    if wide < top.1 then closeBlocks wide (below :: rest) (count + 1)
    else (top :: below :: rest, count)
  | stack, count => (stack, count)

/-- Compares the indentation of a line with the open blocks. -/
def compareIndent (s : State) (c : Cursor) (i : Indentation) : Except Stop State :=
  let wide := if i.joined = 0 then i.wide else i.joined
  let narrow := if i.joined = 0 then i.narrow else i.joined
  let s := { s with cursor := c }
  let tabs : Stop := s.wait .mixedTabs (.bytes c.line 1)
  match s.indents with
  | [] => .ok s
  | top :: below =>
    if wide = top.1 then
      if narrow = top.2 then .ok s else .error tabs
    else if top.1 < wide then
      if s.indents.length ≥ maxIndents then
        .error (s.wait .tooManyIndents (.bytes c.line 1))
      else if narrow ≤ top.2 then .error tabs
      else .ok { s with indents := (wide, narrow) :: top :: below, opened := 1 }
    else
      let (stack, count) := closeBlocks wide (top :: below) 0
      match stack with
      | [] => .ok s
      | level :: _ =>
        if wide ≠ level.1 then
          let lineEnd := (c.rest.takeWhile (· ≠ '\n')).foldl (fun n ch => n + ch.utf8Size) c.column
          .error (s.wait .badDedent (.bytes c.line (lineEnd + 1)))
        else if narrow ≠ level.2 then .error tabs
        else .ok { s with indents := stack, closed := count }

/-- A token that takes room: everything between two positions. -/
def token (s : State) (kind : TokenKind) (start stop : Cursor) (depth : Nat) : Token × State :=
  ({ kind, text := stop.textFrom start, line := start.line, column := some start.column,
     endLine := stop.line, endColumn := stop.column, reach := stop.column, depth },
   { s with cursor := stop })

/-- A token that takes no room. -/
def mark (s : State) (kind : TokenKind) : Token × State :=
  let c := s.cursor
  ({ kind, text := "", line := c.line, column := none, endLine := c.line, endColumn := c.column,
     reach := c.column, depth := s.brackets.length }, s)

/-- Reads digits with single low lines between them; the cursor stands
behind the first digit. -/
def digits (s : State) : Nat → Cursor → Except Stop Cursor
  | 0, c => .ok c
  | fuel + 1, c =>
    let c := c.skipWhile Char.isDigit
    if c.sees (· == '_') then
      let c := c.skip 1
      if c.sees Char.isDigit then digits s fuel c else .error (s.halt c (.badNumber .decimal))
    else .ok c

/-- Whether the text behind a number starts with one of the keywords that
may follow a number without a blank. -/
def keywordFollows (c : Cursor) : Bool :=
  let ends (word : String) : Bool :=
    c.seesText word && !((c.skip word.length).sees isNamePart)
  ends "and" || ends "else" || ends "for" || ends "or" || ends "not"
    || c.seesText "if" || c.seesText "in" || c.seesText "is"

/-- Refuses a name that starts right behind a number. -/
def numberEnd (s : State) (c : Cursor) (how : NumberForm) : Except Stop Cursor :=
  if keywordFollows c then .ok c
  else if c.sees isNamePart then .error (s.halt c (.badNumber how))
  else .ok c

/-- Reads the end of a decimal number: the mark of an imaginary number or
nothing. -/
def imaginaryEnd (s : State) (c : Cursor) : Except Stop Cursor :=
  if c.sees fun ch => ch == 'j' || ch == 'J' then numberEnd s (c.skip 1) .imaginary
  else numberEnd s c .decimal

/-- Reads what can follow the digits of a fraction. -/
def exponent (s : State) (fuel : Nat) (c : Cursor) : Except Stop Cursor :=
  if c.sees fun ch => ch == 'e' || ch == 'E' then
    let behind := c.skip 1
    if behind.sees fun ch => ch == '+' || ch == '-' then
      let behind := behind.skip 1
      if behind.sees Char.isDigit then do imaginaryEnd s (← digits s fuel behind)
      else .error (s.halt behind (.badNumber .decimal))
    else if behind.sees Char.isDigit then do imaginaryEnd s (← digits s fuel behind)
    else if c.seesText "else" && !((c.skip 4).sees isNamePart) then .ok c
    else .error (s.halt c (.badNumber .decimal))
  else imaginaryEnd s c

/-- Reads what can follow a decimal point. -/
def fraction (s : State) (fuel : Nat) (c : Cursor) : Except Stop Cursor := do
  let c ← if c.sees Char.isDigit then digits s fuel c else .ok c
  exponent s fuel c

/-- Reads what can follow the digits before a decimal point. -/
def decimalRest (s : State) (fuel : Nat) (c : Cursor) : Except Stop Cursor :=
  if c.sees (· == '.') then fraction s fuel (c.skip 1) else exponent s fuel c

/-- Reads the digits behind the mark of another base. -/
def basedDigits (s : State) (how : NumberForm) (isDigit : Char → Bool) :
    Nat → Cursor → Except Stop Cursor
  | 0, c => .ok c
  | fuel + 1, c =>
    let c := if c.sees (· == '_') then c.skip 1 else c
    if c.sees isDigit then
      let c := c.skipWhile isDigit
      if c.sees (· == '_') then basedDigits s how isDigit fuel c
      else match c.peek? with
        | some ch =>
          if ch.isDigit && how ≠ .hexadecimal then
            .error (s.halt (c.skip 1) (.badDigit ch how))
          else numberEnd s c how
        | none => .ok c
    else match c.peek? with
      | some ch =>
        if ch.isDigit && how ≠ .hexadecimal then .error (s.halt (c.skip 1) (.badDigit ch how))
        else .error (s.halt c (.badNumber how))
      | none => .error (s.halt c (.badNumber how))

/-- Reads the zeros, with single low lines between them, behind a leading
zero. -/
def zeros (s : State) : Nat → Cursor → Except Stop Cursor
  | 0, c => .ok c
  | fuel + 1, c =>
    if c.sees (· == '_') then
      let c := c.skip 1
      if c.sees Char.isDigit then
        if c.sees (· == '0') then zeros s fuel (c.skip 1) else .ok c
      else .error (s.halt c (.badNumber .decimal))
    else if c.sees (· == '0') then zeros s fuel (c.skip 1)
    else .ok c

/-- Reads a number that starts with a zero; `start` stands before it. -/
def zeroNumber (s : State) (fuel : Nat) (start : Cursor) : Except Stop Cursor := do
  let c := start.skip 1
  match c.peek? with
  | some 'x' | some 'X' =>
    basedDigits s .hexadecimal (fun ch => ch.isDigit || ('a' ≤ ch.toLower && ch.toLower ≤ 'f'))
      fuel (c.skip 1)
  | some 'o' | some 'O' => basedDigits s .octal (fun ch => '0' ≤ ch && ch < '8') fuel (c.skip 1)
  | some 'b' | some 'B' => basedDigits s .binary (fun ch => ch == '0' || ch == '1') fuel (c.skip 1)
  | _ =>
    let c ← zeros s fuel c
    let nonzero := c.sees Char.isDigit
    let c ← if nonzero then digits s fuel c else .ok c
    if c.sees fun ch => ch == '.' || ch == 'e' || ch == 'E' || ch == 'j' || ch == 'J' then
      decimalRest s fuel c
    else if nonzero then
      .error { s.halt c .leadingZeros with site := .characters start.line (start.column + 1) }
    else numberEnd s c .decimal

/-- Reads a number; the cursor stands before its first digit. -/
def number (s : State) (fuel : Nat) (start : Cursor) : Except Stop Cursor :=
  if start.sees (· == '0') then zeroNumber s fuel start
  else do decimalRest s fuel (← digits s fuel start)

/-- Reads to the end of a string literal. `run` counts the quotes read in a
row. The result is where the literal ends, or where it breaks off. -/
def stringEnd (quote : Char) (triple : Bool) : Nat → Cursor → Nat → Except Cursor Cursor
  | 0, c, _ => .error c
  | fuel + 1, c, run =>
    match c.next? with
    | none => .error c
    | some (ch, c') =>
      if ch == '\n' && !triple then .error c'
      else if ch == quote then
        if !triple || run = 2 then .ok c' else stringEnd quote triple fuel c' (run + 1)
      else if ch == '\\' then
        match c'.next? with
        | some (_, c'') => stringEnd quote triple fuel c'' 0
        | none => .error c'
      else stringEnd quote triple fuel c' 0

/-- Reads a string literal; `start` stands before its prefix letters and
`c` before the opening quote. -/
def string (s : State) (fuel : Nat) (start c : Cursor) : Except Stop Cursor :=
  match c.next? with
  | none => .ok c
  | some (quote, c) =>
    let twice := c.sees (· == quote)
    let triple := twice && (c.skip 1).sees (· == quote)
    if twice && !triple then .ok (c.skip 1)
    else
      match stringEnd quote triple fuel (if triple then c.skip 2 else c) 0 with
      | .ok c => .ok c
      | .error broken =>
        let cause : Cause :=
          if triple then .unterminatedTriple broken.line else .unterminatedString broken.line
        .error { s.halt start cause with site := .bytes start.line (start.column + 1) }

/-- The letters that may stand before the opening quote of a string
literal, in lower case. -/
def stringPrefixes : List String := ["", "b", "br", "rb", "u", "r", "f", "fr", "rf"]

/-- Where the opening quote of a string literal stands, if one starts
here. -/
def quoteAt (c : Cursor) : Option Cursor :=
  let letters := (c.rest.take 2).takeWhile Char.isAlpha
  let quote := c.skip letters.length
  if stringPrefixes.contains (String.ofList (letters.map Char.toLower))
      && quote.sees (fun ch => ch == '\'' || ch == '"') then some quote
  else none

/-- Checks the characters of a name. The result is the position behind the
first character that may not stand there, and that character. -/
def strayPart : Nat → Cursor → Bool → Option (Cursor × Char)
  | 0, _, _ => none
  | n + 1, c, first =>
    match c.next? with
    | none => none
    | some (ch, c') =>
      if if first then Text.isIdentifierStart ch else Text.isIdentifierPart ch then
        strayPart n c' false
      else some (c', ch)

/-- Reads a name or a keyword; the cursor stands before it. -/
def name (s : State) (start : Cursor) : Except Stop (Token × State) :=
  let stop := start.skipWhile isNamePart
  let text := stop.textFrom start
  let length := stop.index - start.index
  let stray := if text.toList.any (·.toNat ≥ 128) then strayPart length start true else none
  match stray with
  | some (c, ch) =>
    .error (s.halt c (if Text.isPrintable ch then .strayCharacter ch else .nonPrintable ch))
  | none =>
    let kind := if keywords.contains text then TokenKind.keyword else .name
    .ok (token s kind start stop s.brackets.length)

/-- Operators of two characters. -/
def pairs : List String :=
  ["!=", "%=", "&=", "**", "*=", "+=", "-=", "->", "//", "/=", ":=", "<<", "<=", "<>", "==",
    ">=", ">>", "@=", "^=", "|="]

/-- Operators of three characters. -/
def triples : List String := ["**=", "//=", "<<=", ">>=", "..."]

/-- Reads a bracket, an operator or a character that is neither. -/
def operator (s : State) (start : Cursor) : Except Stop (Token × State) :=
  let depth := s.brackets.length
  if triples.any start.seesText then .ok (token s .operator start (start.skip 3) depth)
  else if pairs.any start.seesText then .ok (token s .operator start (start.skip 2) depth)
  else match start.next? with
    | none => .ok (token s .operator start start depth)
    | some (ch, stop) =>
      if ch == '(' || ch == '[' || ch == '{' then
        if depth ≥ maxBrackets then .error (s.halt stop .tooManyParens)
        else
          let bracket : Bracket := { mark := ch, line := start.line, column := start.column }
          .ok (token { s with brackets := bracket :: s.brackets } .operator start stop (depth + 1))
      else if ch == ')' || ch == ']' || ch == '}' then
        match s.brackets with
        | [] => .error (s.halt stop (.unmatched ch))
        | bracket :: outer =>
          if bracket.closing == ch then
            .ok (token { s with brackets := outer } .operator start stop outer.length)
          else
            let openedOn := if bracket.line = stop.line then none else some bracket.line
            .error (s.halt stop (.mismatched ch bracket.mark openedOn))
      else if Text.isPrintable ch then .ok (token s .operator start stop depth)
      else .error (s.halt stop (.nonPrintable ch))

/-- Reads the token that starts at a character which is no blank. -/
def visible (s : State) (fuel : Nat) (start : Cursor) (ch : Char) :
    Except Stop (Token × State) :=
  let depth := s.brackets.length
  match quoteAt start with
  | some quote => do
    let stop ← string s fuel start quote
    pure (token s .string start stop depth)
  | none =>
    if isNameStart ch then name s start
    else if ch.isDigit then do
      let stop ← number s fuel start
      pure (token s .number start stop depth)
    else if ch == '.' && (start.skip 1).sees Char.isDigit then do
      let stop ← fraction s fuel (start.skip 1)
      pure (token s .number start stop depth)
    else operator s start

/-- Reads the next token inside a line. `blank` says that the line holds
nothing but blanks and a comment, so that its end is no token. The result is
no token where the line ends without one. -/
def inLine (s : State) (blank : Bool) : Nat → Cursor → Except Stop (Option Token × State)
  | 0, c => .ok (none, { s with cursor := c, lineStart := true })
  | fuel + 1, c =>
    let c := { c with held := false }
    let c := (c.skipWhile fun ch => ch == ' ' || ch == '\t' || ch == '\x0c').opened
    let start := { c with held := true }
    -- the end of a line with a comment starts where the comment does
    match (if c.sees (· == '#') then start.skipWhile (· ≠ '\n') else start).next? with
    | none =>
      if s.brackets.isEmpty then
        let (t, s) := mark { s with cursor := c } .finish
        .ok (some t, s)
      else .error (s.atEnd c)
    | some ('\n', c') =>
      if blank || !s.brackets.isEmpty then
        .ok (none, { s with cursor := { c' with held := false }, lineStart := true })
      else
        let t : Token :=
          { kind := .newline, text := "", line := start.line, column := some start.column,
            endLine := start.line, endColumn := start.column, reach := c'.column, depth := 0 }
        .ok (some t, { s with cursor := { c' with held := false }, lineStart := true })
    | some ('\\', c') => do
      let c' ← joinLines s c'
      inLine s blank fuel c'
    | some (ch, _) => do
      let (t, s) ← visible s s.limit start ch
      pure (some t, s)

/-- Reads the next token. Lines without one are passed over. -/
def next : Nat → State → Except Stop (Token × State)
  | 0, s => .ok (mark s .finish)
  | fuel + 1, s => do
    let measured ←
      if s.lineStart then do
        let s := { s with lineStart := false, cursor := { s.cursor with held := false } }
        let (c, i) ← indentation s s.limit s.cursor ⟨0, 0, 0⟩
        if c.sees fun ch => ch == '#' || ch == '\n' then
          pure ({ s with cursor := c }, true)
        else if s.brackets.isEmpty then do
          let s ← compareIndent s c i
          pure (s, false)
        else pure ({ s with cursor := c }, false)
      else pure (s, false)
    let (s, blank) := measured
    if 0 < s.closed then
      let (t, s) := mark s .dedent
      pure (t, { s with closed := s.closed - 1 })
    else if 0 < s.opened then
      let (t, s) := mark s .indent
      pure (t, { s with opened := s.opened - 1 })
    else
      match ← inLine s blank s.limit s.cursor with
      | (some t, s) => pure (t, s)
      | (none, s) => next fuel s

/-- Reads tokens until the text or the reader stops. -/
def loop : Nat → State → Array Token → Scan
  | 0, _, tokens => { tokens, stop := none }
  | fuel + 1, s, tokens =>
    match next (s.limit + 1) s with
    | .error stop => { tokens, stop := some stop }
    | .ok (t, s) =>
      if t.kind == .finish then { tokens := tokens.push t, stop := none }
      else loop fuel s (tokens.push t)

/-- Reads a text whose lines all end in a line feed. Every token but the
marks of blocks takes a character, and every closed block was opened by a
character, so three steps for each character are enough. -/
def read (text : List Char) (firstLine : Nat) : Scan :=
  loop (3 * text.length + 4)
    { limit := text.length + 1, cursor := Cursor.start text firstLine, lineStart := true,
      indents := [(0, 0)], opened := 0, closed := 0, brackets := [] } #[]

end Scan

/-- A text as the reader wants it: carriage returns, alone or before a line
feed, become line feeds, and the last line ends in one. A text that ends in
a carriage return and a line feed gets one more line feed. -/
def unifyLines : List Char → List Char
  | [] => ['\n']
  | ['\n'] => ['\n']
  | ['\r'] => ['\n']
  | ['\r', '\n'] => ['\n', '\n']
  | '\r' :: '\n' :: rest => '\n' :: unifyLines rest
  | '\r' :: rest => '\n' :: unifyLines rest
  | c :: rest => c :: unifyLines rest

end ImportPolicy.Source
