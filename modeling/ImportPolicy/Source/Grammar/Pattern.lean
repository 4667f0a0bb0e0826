import ImportPolicy.Source.Grammar.Expression

/-!
# Patterns

The patterns of a `match` statement. A pattern tree keeps the expressions
inside a pattern, because they can hold calls; the names that a pattern
binds are not kept.
-/

namespace ImportPolicy.Source.Grammar

open ImportPolicy.Source.Parser

variable (self : Rule → Parser Tree)

/-- A number, perhaps with a minus before it. -/
def signed (number : Parser Tree) : Parser Tree := do
  let start ← here
  number
  <|> (do
    let _ ← expect "-"
    let t ← number
    build start .unary [t])

/-- A number of which it is required whether it is imaginary. -/
def numberThatIs (imaginary : Bool) : Parser Tree := do
  let t ← number
  if t.label = .literal (.number imaginary) then pure t
  else haltAtTree (if imaginary then .imaginaryRequired else .realRequired) t

/-- A complex number. -/
def complexNumber : Parser Tree := do
  let start ← here
  let real ← signed (numberThatIs false)
  let _ ← oneOf ["+", "-"]
  let imaginary ← numberThatIs true
  build start .binary [real, imaginary]

/-- A literal in a pattern. -/
def literalExpression : Parser Tree :=
  (do
    let t ← signed number
    notAhead (oneOf ["+", "-"])
    pure t)
  <|> complexNumber
  <|> strings self
  <|> fixedLiteral "None" .none
  <|> fixedLiteral "True" .true
  <|> fixedLiteral "False" .false

/-- A name that a pattern binds. -/
def captureTarget : Parser Tree := do
  notAhead (softWord "_")
  let t ← nameTree
  notAhead (oneOf [".", "(", "="])
  pure t

/-- A dotted name with at least one dot. -/
def dottedAttribute : Parser Tree := remember .attribute do
  let start ← here
  let name ← nameTree
  let first ← attributeOf start name
  growing attributeOf start first

/-- A name, perhaps dotted. -/
def nameOrAttribute : Parser Tree := dottedAttribute <|> nameTree

/-- A pattern node over some parts. -/
def patternTree (start : Nat) (parts : List Tree) : Parser Tree := build start .pattern parts

/-- A pattern behind a star. -/
def starPattern : Parser Tree := remember .starPattern do
  let start ← here
  (do
    let _ ← expect "*"
    let _ ← captureTarget
    patternTree start [])
  <|> (do
    let _ ← expect "*"
    let _ ← softWord "_"
    patternTree start [])

/-- A pattern, perhaps with a star. -/
def maybeStarPattern : Parser Tree := starPattern <|> self .pattern

/-- Patterns with commas between them and perhaps behind them. -/
def patternSequence : Parser (List Tree) := do
  let items ← separated (maybeStarPattern self) ","
  let _ ← optional (expect ",")
  pure items

/-- Patterns with at least one comma. -/
def openSequence : Parser (List Tree) := do
  let first ← maybeStarPattern self
  let _ ← expect ","
  let more ← optional (patternSequence self)
  pure (first :: more.getD [])

/-- A pattern for a sequence, in brackets. -/
def sequencePattern : Parser Tree := do
  let start ← here
  (do
    let _ ← expect "["
    let items ← optional (patternSequence self)
    let _ ← expect "]"
    patternTree start (items.getD []))
  <|> (do
    let _ ← expect "("
    let items ← optional (openSequence self)
    let _ ← expect ")"
    patternTree start (items.getD []))

/-- A key with its pattern. -/
def keyPattern : Parser (Tree × Tree) := do
  let key ← literalExpression self <|> dottedAttribute
  let _ ← expect ":"
  let value ← self .pattern
  pure (key, value)

/-- The pattern for the rest of a mapping. -/
def restPattern : Parser Unit := do
  let _ ← expect "**"
  let _ ← captureTarget

/-- A pattern for a mapping. -/
def mappingPattern : Parser Tree := do
  let start ← here
  let close : Parser Token := do
    let _ ← optional (expect ",")
    expect "\x7d"
  let keyed (entries : List (Tree × Tree)) : Parser Tree :=
    patternTree start (entries.map (·.1) ++ entries.map (·.2))
  (do
    let _ ← expect "\x7b"
    let _ ← expect "\x7d"
    patternTree start [])
  <|> (do
    let _ ← expect "\x7b"
    restPattern
    let _ ← close
    patternTree start [])
  <|> (do
    let _ ← expect "\x7b"
    let entries ← separated (keyPattern self) ","
    let _ ← expect ","
    restPattern
    let _ ← close
    keyed entries)
  <|> (do
    let _ ← expect "\x7b"
    let entries ← separated (keyPattern self) ","
    let _ ← close
    keyed entries)

/-- A pattern for an attribute, by name. -/
def namedPattern : Parser Tree := do
  let _ ← identifier
  let _ ← expect "="
  self .pattern

/-- Positional patterns behind named ones. -/
def badClassPattern : Parser Tree := do
  let _ ← nameOrAttribute
  let _ ← expect "("
  let _ ← optional (do let _ ← separated (self .pattern) ","; expect ",")
  let _ ← separated (namedPattern self) ","
  let _ ← expect ","
  match ← separated (self .pattern) "," with
  | first :: _ => haltAtTree .patternOrder first
  | [] => fail

/-- A pattern for the instances of a class. -/
def classPattern : Parser Tree := do
  let start ← here
  let close : Parser Token := do
    let _ ← optional (expect ",")
    expect ")"
  (do
    let cls ← nameOrAttribute
    let _ ← expect "("
    let _ ← expect ")"
    patternTree start [cls])
  <|> (do
    let cls ← nameOrAttribute
    let _ ← expect "("
    let positional ← separated (self .pattern) ","
    let _ ← close
    patternTree start (cls :: positional))
  <|> (do
    let cls ← nameOrAttribute
    let _ ← expect "("
    let named ← separated (namedPattern self) ","
    let _ ← close
    patternTree start (cls :: named))
  <|> (do
    let cls ← nameOrAttribute
    let _ ← expect "("
    let positional ← separated (self .pattern) ","
    let _ ← expect ","
    let named ← separated (namedPattern self) ","
    let _ ← close
    patternTree start (cls :: positional ++ named))
  <|> diagnose (badClassPattern self)

/-- A pattern that needs no operator. -/
def closedPattern : Parser Tree := remember .closedPattern do
  let start ← here
  (do
    let t ← literalExpression self
    patternTree start [t])
  <|> (do
    let _ ← captureTarget
    patternTree start [])
  <|> (do
    let _ ← softWord "_"
    patternTree start [])
  <|> (do
    let t ← dottedAttribute
    notAhead (oneOf [".", "(", "="])
    patternTree start [t])
  <|> (do
    let _ ← expect "("
    let t ← self .pattern
    let _ ← expect ")"
    pure t)
  <|> sequencePattern self
  <|> mappingPattern self
  <|> classPattern self

/-- Alternatives. -/
def orPattern : Parser Tree := do
  let start ← here
  match ← separated (closedPattern self) "|" with
  | [t] => pure t
  | items => patternTree start items

/-- Mistakes behind `as`. -/
def badAsPattern : Parser Tree :=
  (do
    let _ ← orPattern self
    let _ ← expect "as"
    let t ← softWord "_"
    haltAtToken .wildcardTarget t)
  <|> (do
    let _ ← orPattern self
    let _ ← expect "as"
    notAhead (ofKind .name)
    let t ← self .expression
    haltAtTree .patternTarget t)

/-- A pattern. -/
def pattern : Parser Tree := do
  let start ← here
  (do
    let t ← orPattern self
    let _ ← expect "as"
    let _ ← captureTarget
    patternTree start [t])
  <|> diagnose (badAsPattern self)
  <|> orPattern self

/-- The pattern of a case, which may be a sequence without brackets. -/
def patterns : Parser Tree := do
  let start ← here
  (do
    let items ← openSequence self
    patternTree start items)
  <|> self .pattern

end ImportPolicy.Source.Grammar
