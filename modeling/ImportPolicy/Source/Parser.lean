import ImportPolicy.Source.Scan
import ImportPolicy.Source.Tree
import ImportPolicy.Text.CharacterNames
import Std.Data.TreeMap

/-!
# Parsers with ordered choice

The grammar is read with ordered choice: an alternative that fails gives way
to the next one at the same place, and a rule has one result at a place. A
`Parser` therefore has three outcomes. It succeeds with a value, it *fails*,
which only means that another alternative may be tried, or it *halts* with a
fault, which ends the whole parse.

Two things are kept through failures. `Store.reached` counts the tokens that
were looked at, because a text that fits no alternative is refused at the
last of them; and the results of some rules are remembered, so that a text
is read in linear time although its alternatives overlap.

The text is read twice. The first reading accepts or refuses. If it refuses
without a fault the second one also tries the rules that recognise common
mistakes (`Parser.diagnose`), so that the fault can be more precise.
-/

namespace ImportPolicy.Source

/-- The rules of the grammar that refer to each other, or whose results are
remembered. -/
inductive Rule where
  | file
  | field
  | statements
  | simple
  | block
  | expression
  | starExpression
  | starExpressions
  | namedExpression
  | badNamedExpression
  | disjunction
  | conjunction
  | inversion
  | bitOr
  | bitXor
  | bitAnd
  | shift
  | sum
  | term
  | factor
  | awaited
  | primary
  | strings
  | arguments
  | targets
  | target
  | plainTarget
  | singleTarget
  | targetPrimary
  | deleteTarget
  | dottedName
  | pattern
  | closedPattern
  | starPattern
  | attribute
  | elifs
  | annotationTarget
  deriving DecidableEq, Repr

/-- A number for each rule, to key its remembered results. -/
def Rule.key (r : Rule) : Nat := r.ctorIdx

/-- What is wrong and where, as a parser reports it. `scanned` marks the
faults that stopped the reading of tokens. -/
structure Raised where
  /-- What is wrong. -/
  cause : Cause
  /-- Where it is wrong. -/
  site : Site
  /-- Whether the fault stopped the reading of tokens. -/
  scanned : Bool

/-- What a parser reads: the tokens of a text. -/
structure Input where
  /-- The names of characters that string literals can use. -/
  names : CharacterNames
  /-- The tokens, with the stop behind them. -/
  scan : Scan
  /-- For the expression of a replacement field, how many bytes of its line
  stand before it; columns are then counted from there. -/
  margin : Option Nat
  /-- Whether mistakes are looked for. -/
  diagnosing : Bool

/-- What a parser keeps through failures. -/
structure Store where
  /-- How many tokens have been looked at. -/
  reached : Nat
  /-- Remembered results: the tree and the position behind it, or none where
  the rule failed. -/
  memo : Std.TreeMap (Nat × Nat) (Option (Tree × Nat))
    (compareLex (compareOn (·.1)) (compareOn (·.2)))

/-- The outcome of a parser: a value with the number of the next token, a
failure or a fault. -/
inductive Outcome (α : Type) where
  | ok (value : α) (position : Nat) (store : Store)
  | fail (store : Store)
  | halt (fault : Raised) (store : Store)

/-- A parser reads from the token with the given number. That number is an
argument of its own, apart from the store, so that a parser that gives way to
another one returns to it for nothing. -/
def Parser (α : Type) := Input → Nat → Store → Outcome α

namespace Parser

/-- Succeeds at once. -/
@[inline] protected def pure (a : α) : Parser α := fun _ n s => .ok a n s

/-- One parser after another. -/
@[inline] protected def bind (p : Parser α) (f : α → Parser β) : Parser β := fun i n s =>
  match p i n s with
  | .ok a n s => f a i n s
  | .fail s => .fail s
  | .halt e s => .halt e s

instance : Monad Parser where
  pure := Parser.pure
  bind := Parser.bind

/-- Fails. -/
def fail : Parser α := fun _ _ s => .fail s

instance : Inhabited (Parser α) := ⟨fail⟩

/-- Tries the second parser where the first one fails. -/
@[inline] def orElse (p : Parser α) (q : Unit → Parser α) : Parser α := fun i n s =>
  match p i n s with
  | .fail s => q () i n s
  | r => r

instance : OrElse (Parser α) where
  orElse := orElse

/-- Where a fault at a byte column counted from zero is reported. -/
def siteAt (i : Input) (line : Nat) (column : Int) : Site :=
  match i.margin with
  | some margin => .characters line (column + 1 - margin)
  | none => .bytes line (column + 1).toNat

/-- A fault at a place. -/
def raisedAt (i : Input) (cause : Cause) (line : Nat) (column : Int) : Raised :=
  let cause := if i.margin.isSome then .inField cause else cause
  { cause, site := siteAt i line column, scanned := false }

/-- A fault at a token. -/
def raisedAtToken (i : Input) (cause : Cause) (t : Token) : Raised :=
  raisedAt i cause t.line (match t.column with
    | some column => column
    | none => -1)

/-- A fault at the last of the tokens that were looked at. -/
def raisedAtLast (i : Input) (cause : Cause) (reached : Nat) : Raised :=
  match i.scan.tokens[reached - 1]? with
  | some t =>
    raisedAt i cause t.line (match t.column with
      | some column => column
      | none => (t.reach : Int) - 1)
  | none => raisedAt i cause 1 0

/-- Halts with a fault. -/
def halt (fault : Raised) : Parser α := fun _ _ s => .halt fault s

/-- Halts with a fault at a place. -/
def haltAt (cause : Cause) (line : Nat) (column : Int) : Parser α := fun i _ s =>
  .halt (raisedAt i cause line column) s

/-- Halts with a fault at a token. -/
def haltAtToken (cause : Cause) (t : Token) : Parser α := fun i _ s =>
  .halt (raisedAtToken i cause t) s

/-- Halts with a fault at the start of a node. -/
def haltAtTree (cause : Cause) (t : Tree) : Parser α :=
  haltAt cause t.span.line t.span.column

/-- Halts with a fault at the last token that was looked at. -/
def haltHere (cause : Cause) : Parser α := fun i _ s =>
  .halt (raisedAtLast i cause s.reached) s

/-- The number of the next token. -/
def here : Parser Nat := fun _ n s => .ok n n s

/-- The names of characters that string literals can use. -/
def characterNames : Parser CharacterNames := fun i n s => .ok i.names n s

/-- The next token, which stays. -/
def peek : Parser Token := fun i n s =>
  match i.scan.tokens[n]? with
  | some t => .ok t n { s with reached := max s.reached (n + 1) }
  | none =>
    match i.scan.stop with
    | some stop => .halt { cause := stop.cause, site := stop.site, scanned := true } s
    | none => .fail s

/-- Takes the next token if it satisfies a test. -/
@[inline] def takeIf (test : Token → Bool) : Parser Token := fun i n s =>
  match peek i n s with
  | .ok t n s => if test t then .ok t (n + 1) s else .fail s
  | .fail s => .fail s
  | .halt e s => .halt e s

/-- The last token taken. -/
def lastToken : Parser Token := fun i n s =>
  match i.scan.tokens[n - 1]? with
  | some t => .ok t n s
  | none => .fail s

/-- Takes a keyword or an operator. -/
def expect (text : String) : Parser Token := takeIf (·.is text)

/-- Takes a token of a kind. -/
def ofKind (kind : TokenKind) : Parser Token := takeIf (·.kind == kind)

/-- Takes a name that is a word of the grammar at this place. -/
def softWord (text : String) : Parser Token := takeIf (·.isName text)

/-- Takes one of several keywords or operators. -/
def oneOf (texts : List String) : Parser Token := takeIf fun t => texts.any t.is

/-- Takes a keyword or an operator that has to stand here. -/
def force (text : String) : Parser Token := do
  let t ← peek
  if t.is text then expect text else haltAtToken (.expected text) t

/-- Takes what a parser reads, or nothing where it fails. -/
@[inline] def optional (p : Parser α) : Parser (Option α) := fun i n s =>
  match p i n s with
  | .ok a n s => .ok (some a) n s
  | .fail s => .ok none n s
  | .halt e s => .halt e s

/-- Whether a parser succeeds here; nothing is taken. -/
@[inline] def succeeds (p : Parser α) : Parser Bool := fun i n s =>
  match p i n s with
  | .ok _ _ s => .ok true n s
  | .fail s => .ok false n s
  | .halt e s => .halt e s

/-- Goes on only where a parser succeeds. -/
def ahead (p : Parser α) : Parser Unit := do
  if ← succeeds p then pure () else fail

/-- Goes on only where a parser fails. -/
def notAhead (p : Parser α) : Parser Unit := do
  if ← succeeds p then fail else pure ()

/-- Repeats a parser at most as often as the first argument says. -/
def repeatUpTo (p : Parser α) : Nat → List α → Parser (List α)
  | 0, got => pure got.reverse
  | n + 1, got => do
    match ← optional p with
    | some a => repeatUpTo p n (a :: got)
    | none => pure got.reverse

/-- Repeats a parser until it fails. A parser that succeeds takes a token,
so the number of tokens bounds the repetitions. -/
def many (p : Parser α) : Parser (List α) := fun i n s =>
  repeatUpTo p (i.scan.tokens.size + 1) [] i n s

/-- Repeats a parser at least once. -/
def many1 (p : Parser α) : Parser (List α) := do
  let first ← p
  let more ← many p
  pure (first :: more)

/-- One or more with a separator between them. -/
def separated (p : Parser α) (separator : String) : Parser (List α) := do
  let first ← p
  let more ← many (do let _ ← expect separator; p)
  pure (first :: more)

/-- Tries a rule that recognises a mistake, in the second reading only. -/
def diagnose (p : Parser α) : Parser α := fun i n s =>
  if i.diagnosing then p i n s else .fail s

/-- Reads without looking for mistakes. -/
def undiagnosed (p : Parser α) : Parser α := fun i n s =>
  p { i with diagnosing := false } n s

/-- Remembers the result of a rule at a place. -/
def remember (rule : Rule) (p : Parser Tree) : Parser Tree := fun i n s =>
  match s.memo[(n, rule.key)]? with
  | some (some (tree, behind)) => .ok tree behind s
  | some none => .fail s
  | none =>
    match p i n s with
    | .ok tree behind ⟨reached, memo⟩ =>
      .ok tree behind ⟨reached, memo.insert (n, rule.key) (some (tree, behind))⟩
    | .fail ⟨reached, memo⟩ => .fail ⟨reached, memo.insert (n, rule.key) none⟩
    | .halt e s => .halt e s

/-- The text from the token with the given number up to the last token
taken. -/
def spanFrom (start : Nat) : Parser Span := fun i n s =>
  match i.scan.tokens[start]?, i.scan.tokens[n - 1]? with
  | some a, some b =>
    .ok { line := a.line, column := a.column.getD 0, endLine := b.endLine,
          endColumn := b.endColumn } n s
  | _, _ => .ok default n s

/-- A node over the text from the token with the given number up to the last
token taken. -/
def build (start : Nat) (label : Label) (children : List Tree) : Parser Tree := do
  pure (.node label (← spanFrom start) children)

/-- Reads a left-associative row: a first part, then as many further steps
as there are, each of which makes a larger tree out of the one so far. -/
def growUpTo (step : Nat → Tree → Parser Tree) (start : Nat) : Nat → Tree → Parser Tree
  | 0, tree => pure tree
  | n + 1, tree => do
    match ← optional (step start tree) with
    | some larger => growUpTo step start n larger
    | none => pure tree

/-- Lets a tree grow as long as it can. -/
def growing (step : Nat → Tree → Parser Tree) (start : Nat) (tree : Tree) : Parser Tree :=
  fun i n s => growUpTo step start (i.scan.tokens.size + 1) tree i n s

/-- Reads a first part and lets it grow. -/
def grow (first : Parser Tree) (step : Nat → Tree → Parser Tree) : Parser Tree := do
  let start ← here
  let tree ← first
  growing step start tree

end Parser

end ImportPolicy.Source
