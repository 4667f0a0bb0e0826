import ImportPolicy.Source.Parser
import ImportPolicy.Text.Normal

/-!
# Parameter lists

The parameters of a definition and those of an anonymous function follow one
grammar. They differ in what closes the list and in whether a parameter can
be annotated, so the rules below take a `ParameterStyle`. A parameter ends
with a comma or in front of what closes the list.
-/

namespace ImportPolicy.Source.Grammar

open ImportPolicy.Source.Parser

/-- A name, in its normal form. -/
def identifier : Parser String := do
  let t ← ofKind .name
  pure (Text.Normal.normalize t.text)

/-- A name as an expression. -/
def nameTree : Parser Tree := do
  let start ← here
  let id ← identifier
  build start (.name id) []

/-- How a parameter list is written. -/
structure ParameterStyle where
  /-- What stands behind the list. -/
  closer : String
  /-- Whether parameters can be annotated. -/
  annotated : Bool

namespace ParameterStyle

/-- The parameters of a definition. -/
def definition : ParameterStyle := ⟨")", true⟩

/-- The parameters of an anonymous function. -/
def anonymous : ParameterStyle := ⟨":", false⟩

end ParameterStyle

/-- A parameter with its default if it has one. -/
structure Parameter where
  /-- The parameter. -/
  tree : Tree
  /-- Its default. -/
  default : Option Tree

section

variable (style : ParameterStyle) (self : Rule → Parser Tree)

/-- A parameter without its default. -/
def parameter : Parser Tree := do
  let start ← here
  let name ← identifier
  if style.annotated then
    match ← optional (do let _ ← expect ":"; self .expression) with
    | some type => build start (.parameter name) [type]
    | none => build start (.parameter name) []
  else build start (.parameter name) []

/-- The default of a parameter. -/
def parameterDefault : Parser Tree :=
  (do let _ ← expect "="; self .expression)
  <|> diagnose (do
    let t ← expect "="
    ahead (oneOf [")", ","])
    haltAtToken (.parameters .missingDefault) t)

/-- The end of a parameter. -/
def parameterEnd : Parser Unit :=
  (do let _ ← expect ","; pure ()) <|> ahead (expect style.closer)

/-- A parameter that has no default. -/
def plainParameter : Parser Tree := do
  let t ← parameter style self
  parameterEnd style
  pure t

/-- A parameter that has a default. -/
def defaultedParameter : Parser Parameter := do
  let tree ← parameter style self
  let default ← parameterDefault self
  parameterEnd style
  pure { tree, default }

/-- A parameter that may have a default. -/
def anyParameter : Parser Parameter := do
  let tree ← parameter style self
  let default ← optional (parameterDefault self)
  parameterEnd style
  pure { tree, default }

/-- The mark behind the parameters that are known by position alone. -/
def slashMark : Parser Unit := do
  let _ ← expect "/"
  parameterEnd style

/-- Parameters by position alone, none of which has a default. -/
def slashPlain : Parser (List Tree) := do
  let parameters ← many1 (plainParameter style self)
  slashMark style
  pure parameters

/-- Parameters by position alone, of which the last ones have defaults. -/
def slashDefaulted : Parser (List Parameter) := do
  let first ← many (plainParameter style self)
  let last ← many1 (defaultedParameter style self)
  slashMark style
  pure (first.map (⟨·, none⟩) ++ last)

/-- What can stand behind the parameters known by position: the one that
takes what is left over, those known by name, and the one that takes the
names left over. -/
structure ParameterTail where
  /-- The parameter behind a star. -/
  rest : Option Tree := none
  /-- The parameters known by name. -/
  named : List Parameter := []
  /-- The parameter behind two stars. -/
  names : Option Tree := none

/-- Mistakes behind two stars. -/
def badNames : Parser Tree :=
  (do
    let _ ← expect "**"
    let _ ← parameter style self
    let t ← expect "="
    haltAtToken (.parameters .keywordsDefault) t)
  <|> (do
    let _ ← expect "**"
    let _ ← parameter style self
    let _ ← expect ","
    let t ← parameter style self
    haltAtTree (.parameters .afterKeywords) t)
  <|> (do
    let _ ← expect "**"
    let _ ← parameter style self
    let _ ← expect ","
    let t ← oneOf ["*", "**", "/"]
    haltAtToken (.parameters .afterKeywords) t)

/-- The parameter behind two stars. -/
def namesParameter : Parser Tree :=
  diagnose (badNames style self)
  <|> (do let _ ← expect "**"; plainParameter style self)

/-- A parameter or nothing before the comma behind a star. -/
def starOwner : Parser Unit :=
  (do let _ ← plainParameter style self; pure ()) <|> (do let _ ← expect ","; pure ())

/-- Mistakes behind a star. -/
def badTail : Parser ParameterTail :=
  (do
    let star ← expect "*"
    let _ ← expect style.closer
      <|> (do let _ ← expect ","; oneOf [style.closer, "**"])
    if style.annotated then haltAtToken (.parameters .bareStar) star
    else haltHere (.parameters .bareStar))
  <|> (do
    let _ ← expect "*"
    let _ ← parameter style self
    let t ← expect "="
    haltAtToken (.parameters .starDefault) t)
  <|> (do
    let _ ← expect "*"
    starOwner style self
    let _ ← many (anyParameter style self)
    let t ← expect "*"
    starOwner style self
    haltAtToken (.parameters .starTwice) t)

/-- A parameter whose annotation may be unpacked. -/
def unpackedParameter : Parser Tree := do
  let start ← here
  let name ← identifier
  let _ ← expect ":"
  let type ← self .starExpression
  let tree ← build start (.parameter name) [type]
  parameterEnd style
  pure tree

/-- What stands behind the parameters known by position. -/
def parameterTail : Parser ParameterTail :=
  diagnose (badTail style self)
  <|> (do
    let _ ← expect "*"
    let rest ← plainParameter style self
    let named ← many (anyParameter style self)
    let names ← optional (namesParameter style self)
    pure { rest, named, names })
  <|> (do
    if style.annotated then
      let _ ← expect "*"
      let rest ← unpackedParameter style self
      let named ← many (anyParameter style self)
      let names ← optional (namesParameter style self)
      pure { rest, named, names }
    else fail)
  <|> (do
    let _ ← expect "*"
    let _ ← expect ","
    let named ← many1 (anyParameter style self)
    let names ← optional (namesParameter style self)
    pure { named, names })
  <|> (do
    let names ← namesParameter style self
    pure { names })

/-- The node of a parameter list. -/
def parametersTree (start : Nat) (positional : List Parameter) (tail : Option ParameterTail) :
    Parser Tree :=
  let tail := tail.getD {}
  build start .parameters
    (positional.map (·.tree) ++ tail.rest.toList ++ tail.named.map (·.tree)
      ++ tail.named.filterMap (·.default) ++ tail.names.toList
      ++ positional.filterMap (·.default))

/-- A parameter list without mistakes. -/
def goodParameters : Parser Tree := do
  let start ← here
  let bare (t : Tree) : Parameter := ⟨t, none⟩
  let rest := optional (parameterTail style self)
  (do
    let first ← slashPlain style self
    let plain ← many (plainParameter style self)
    let defaulted ← many (defaultedParameter style self)
    parametersTree start (first.map bare ++ plain.map bare ++ defaulted) (← rest))
  <|> (do
    let first ← slashDefaulted style self
    let defaulted ← many (defaultedParameter style self)
    parametersTree start (first ++ defaulted) (← rest))
  <|> (do
    let plain ← many1 (plainParameter style self)
    let defaulted ← many (defaultedParameter style self)
    parametersTree start (plain.map bare ++ defaulted) (← rest))
  <|> (do
    let defaulted ← many1 (defaultedParameter style self)
    parametersTree start defaulted (← rest))
  <|> (do
    let tail ← parameterTail style self
    parametersTree start [] (some tail))

/-- Either list of parameters by position alone. -/
def slashAny : Parser Unit :=
  (do let _ ← slashPlain style self; pure ())
  <|> (do let _ ← slashDefaulted style self; pure ())

/-- Mistakes in the order of parameters. -/
def badParameters : Parser Tree :=
  (do
    let _ ← many (plainParameter style self)
    (do let _ ← slashDefaulted style self; pure ())
      <|> (do let _ ← many1 (defaultedParameter style self); pure ())
    let t ← plainParameter style self
    haltAtTree (.parameters .defaultOrder) t)
  <|> (do
    let _ ← many (plainParameter style self)
    let t ← expect "("
    if style.annotated then
      let _ ← many1 (plainParameter style self)
      let _ ← optional (expect ",")
      let _ ← expect ")"
      haltAtToken (.parameters .parenthesizedFunction) t
    else
      let _ ← separated (parameter style self) ","
      let _ ← optional (expect ",")
      let _ ← expect ")"
      haltAtToken (.parameters .parenthesizedLambda) t)
  <|> (do
    let t ← expect "/"
    let _ ← expect ","
    haltAtToken (.parameters .slashFirst) t)
  <|> (do
    slashAny style self
    let _ ← many (anyParameter style self)
    let t ← expect "/"
    haltAtToken (.parameters .slashTwice) t)
  <|> (do
    let _ ← optional (slashAny style self)
    let _ ← many (anyParameter style self)
    let _ ← expect "*"
    (do let _ ← expect ","; pure ()) <|> (do let _ ← plainParameter style self; pure ())
    let _ ← many (anyParameter style self)
    let t ← expect "/"
    haltAtToken (.parameters .slashAfterStar) t)
  <|> (do
    let _ ← many1 (anyParameter style self)
    let _ ← expect "/"
    let t ← expect "*"
    haltAtToken (.parameters .commaBetween) t)

/-- A parameter list. -/
def parameters : Parser Tree :=
  diagnose (badParameters style self) <|> goodParameters style self

end

end ImportPolicy.Source.Grammar
