import ImportPolicy.Source.Parser
import ImportPolicy.Source.StringLiteral

/-!
# String literals in the grammar

Literals that stand next to each other are one literal. A formatted literal
holds expressions, and each of them is a text of its own: it is put in
parentheses, read as tokens and parsed by the same grammar. The tokens get
the place that the expression has in the whole text, so that trees inside a
field are placed like all others.
-/

namespace ImportPolicy.Source.Grammar

open ImportPolicy.Source.Parser

/-- Counts the characters of a line that start in its first `bytes` bytes.
The end of the line counts as one character more. -/
def charactersIn : List Char → Nat → Nat
  | _, 0 => 0
  | [], _ + 1 => 1
  | c :: rest, n + 1 => 1 + charactersIn rest (n + 1 - c.utf8Size)

/-- The characters of a line, without its end. `line` counts from zero. -/
def lineAt : Nat → List Char → List Char
  | 0, text => text.takeWhile (· ≠ '\n')
  | n + 1, text => lineAt n ((text.dropWhile (· ≠ '\n')).drop 1)

/-- The place of a fault in characters. `firstLine` is the number of the
first line of the text. -/
def placed (text : List Char) (firstLine : Nat) (cause : Cause) : Site → Fault
  | .characters line column => { cause, line, column }
  | .bytes line column =>
    { cause, line, column := charactersIn (lineAt (line - firstLine) text) column }

/-- The fault to report after a parser halted or failed, when `reached`
tokens had been looked at: one that stops the reading of the rest of the
text at once comes first, then a bracket that is still open there and stands
on an earlier line. -/
def precedence (scan : Scan) (reached : Nat) (found : Cause × Site) : Cause × Site :=
  match scan.stop with
  | none => found
  | some stop =>
    if stop.urgent then (stop.cause, stop.site)
    else match stop.bracket, scan.tokens[reached - 1]? with
      | some bracket, some last => if bracket.line < last.line then bracket.unclosed else found
      | _, _ => found

/-- The fault of a text that fits no alternative: it is refused at the last
token that the first reading looked at. A block that is opened or closed there
is reported at the last token that was looked at altogether. -/
def refusal (i : Input) (first all : Nat) : Cause × Site :=
  match i.scan.tokens[first - 1]? with
  | none => (.invalid, .bytes 1 1)
  | some t =>
    let found (e : Raised) : Cause × Site := (e.cause, e.site)
    match t.kind with
    | .indent => found (raisedAtLast i .unexpectedIndent all)
    | .dedent => found (raisedAtLast i .unexpectedUnindent all)
    | _ => precedence i.scan all (found (raisedAtToken i .invalid t))

/-- The fault that a parser halted with, when `reached` tokens had been looked
at. -/
def halted (i : Input) (e : Raised) (reached : Nat) : Cause × Site :=
  if e.scanned then (e.cause, e.site) else precedence i.scan reached (e.cause, e.site)

/-- Parses a text: a first reading, and a second one that looks for mistakes
if the first one fails. -/
def parseWith (goal : Parser Tree) (text : List Char) (firstLine : Nat) (i : Input) :
    Except Fault Tree :=
  let refuse (found : Cause × Site) : Except Fault Tree :=
    .error (placed text firstLine found.1 found.2)
  match goal { i with diagnosing := false } 0 { reached := 0, memo := {} } with
  | .ok tree _ _ => .ok tree
  | .halt e s => refuse (halted i e s.reached)
  | .fail s =>
    match goal { i with diagnosing := true } 0 { reached := s.reached, memo := {} } with
    | .halt e s => refuse (halted i e s.reached)
    | .ok _ _ s' | .fail s' => refuse (refusal i s.reached s'.reached)

variable (names : CharacterNames)

/-- Parses the expression of a field of the literal `t`. `spot` is where the
opening brace of the field stands in the literal. -/
def fieldTree (goal : Parser Tree) (t : Token) (spot : StringLiteral.Spot)
    (expression : List Char) : Except Fault Tree :=
  let column := if StringLiteral.startsBlank expression then 0 else spot.column
  let margin := if spot.lines = 0 then t.column.getD 0 + column else column
  let firstLine := t.line + spot.lines
  let text := '(' :: expression ++ [')', '\n']
  let scan := Scan.read text firstLine
  let moved := scan.tokens.map fun u =>
    if u.endLine = firstLine then
      { u with column := u.column.map (· + margin), endColumn := u.endColumn + margin }
    else u
  parseWith goal text firstLine
    { names, scan := { scan with tokens := moved }, margin := some margin, diagnosing := false }

/-- A fault inside a literal: one with a place of its own, or one that is
reported at the last token looked at. -/
inductive StringFault where
  | placed (fault : Fault)
  | here (cause : Cause)

/-- Reads the fields of the body of a formatted literal. `nested` counts the
formats around the body. The result is the fields and what is left of the
body, with its spot: nothing, or a closing brace inside a format. -/
def fieldsOf (goal : Parser Tree) (t : Token) (raw : Bool) :
    Nat → Nat → StringLiteral.Spot → List Char → List Tree →
    Except StringFault (List Tree × List Char × StringLiteral.Spot)
  | 0, _, spot, body, fields => .ok (fields.reverse, body, spot)
  | fuel + 1, nested, spot, body, fields => do
    let fault (f : FieldFault) : StringFault := .here (.field f)
    let (text, stop, rest) ←
      (StringLiteral.piece raw (nested ≠ 0) (body.length + 1) [] body).mapError fault
    let _ ← (StringLiteral.decode names raw text).mapError StringFault.here
    let spot' := spot.past (body.take (body.length - rest.length))
    match stop with
    | .finish =>
      if nested = 0 then pure (fields.reverse, [], spot')
      else throw (fault .unclosed)
    | .doubled => fieldsOf goal t raw fuel nested spot' rest fields
    | .brace =>
      match rest with
      | '{' :: inner => do
        if nested ≥ 2 then throw (fault .tooDeep)
        let (expression, behind) ←
          (StringLiteral.fieldExpression (inner.length + 1) [] none [] inner).mapError fault
        let past (more : List Char) : StringLiteral.Spot :=
          spot'.past (rest.take (rest.length - more.length))
        match behind with
        | [] => throw (fault .unclosed)
        | mark :: _ =>
          if StringLiteral.isBlankExpression expression then
            if mark == '!' || mark == ':' || mark == '=' then throw (fault (.emptyBefore mark))
            else throw (fault .empty)
          let tree ← (fieldTree names goal t spot' expression).mapError StringFault.placed
          let behind := if mark == '=' then behind.drop 1 else behind
          let behind ← match behind with
            | '!' :: [] => throw (fault .unclosed)
            | '!' :: c :: more =>
              if c == 's' || c == 'r' || c == 'a' then pure more else throw (fault .conversion)
            | other => pure other
          let format ← match behind with
            | ':' :: [] => throw (fault .unclosed)
            | ':' :: more => do
              let (inside, left, _) ← fieldsOf goal t raw fuel (nested + 1) (past more) more []
              pure (some inside, left)
            | other => pure (none, other)
          match format with
          | (inside, '}' :: more) =>
            let children := match inside with
              | some inside => [tree, Tree.node .formatted tree.span inside]
              | none => [tree]
            fieldsOf goal t raw fuel nested (past more) more
              (Tree.node .field tree.span children :: fields)
          | _ => throw (fault .unclosed)
      | _ => pure (fields.reverse, rest, spot')

/-- Reads one literal: its fields if it is formatted, and otherwise its
text. -/
def literalOf (goal : Parser Tree) (t : Token) (q : StringLiteral.Quoted) :
    Except StringFault (List Tree × List Char) := do
  if q.formatted then
    let spot : StringLiteral.Spot := StringLiteral.Spot.past ⟨0, 0⟩ q.lead
    let (fields, _, _) ← fieldsOf names goal t q.raw (q.body.length + 2) 0 spot q.body []
    pure (fields, [])
  else if q.bytes then
    let _ ← (StringLiteral.checkBytes q.raw q.body).mapError StringFault.here
    pure ([], [])
  else
    let text ← (StringLiteral.decode names q.raw q.body).mapError StringFault.here
    pure ([], text)

/-- Puts the parts of adjacent literals together: whether they stand for
bytes, whether one is formatted, the fields and the text. -/
def joinLiterals (goal : Parser Tree) :
    List Token → Option Bool → Bool → List Tree → List Char → Parser Label × List Tree
  | [], bytes, formatted, fields, text =>
    (if formatted then pure .formatted
      else if bytes == some true then pure (.literal .bytes)
      else pure (.literal (.text (String.ofList text))), fields)
  | t :: rest, bytes, formatted, fields, text =>
    let q := StringLiteral.Quoted.ofText t.text
    if q.bytes && q.body.any (·.toNat ≥ 128) then (haltAtToken .bytesNotAscii t, [])
    else match literalOf names goal t q with
      | .error (.placed fault) =>
        (halt { cause := fault.cause, site := .characters fault.line fault.column,
                scanned := false }, [])
      | .error (.here cause) => (haltHere cause, [])
      | .ok (inner, chars) =>
        if bytes.isSome && bytes ≠ some q.bytes then (haltHere .mixedStrings, [])
        else joinLiterals goal rest (some q.bytes) (formatted || q.formatted) (fields ++ inner)
          (text ++ chars)

/-- One or more adjacent string literals. -/
def strings (self : Rule → Parser Tree) : Parser Tree := remember .strings do
  let start ← here
  let tokens ← many1 (ofKind .string)
  let (label, fields) := joinLiterals (← characterNames) (self .field) tokens none false [] []
  build start (← label) fields

end ImportPolicy.Source.Grammar
