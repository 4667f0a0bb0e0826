import ImportPolicy.Source.Grammar.Expression

/-!
# Targets

What can be assigned to, looped over into, annotated or deleted. A target is
a name, an attribute or a subscript, or a list or tuple of targets. An
attribute or subscript is a target only if nothing more is looked up in it,
so each rule checks what stands behind.
-/

namespace ImportPolicy.Source.Grammar

open ImportPolicy.Source.Parser

variable (self : Rule → Parser Tree)

/-- What shows that something more is looked up in a value. -/
def lookup : Parser Token := oneOf ["(", "[", "."]

/-- A value in which something is looked up. -/
def targetPrimary : Parser Tree :=
  let followed (p : Parser Tree) : Parser Tree := do
    let t ← p
    ahead lookup
    pure t
  remember .targetPrimary <| grow (followed (atom self)) fun start t =>
    followed (attributeOf start t)
    <|> followed (subscriptOf self start t)
    <|> followed (callWithGenerator self start t)
    <|> followed (callWith self start t)

/-- An attribute or a subscript in which nothing is looked up. -/
def lookedUp : Parser Tree := do
  let start ← here
  (do
    let t ← targetPrimary self
    let t ← attributeOf start t
    notAhead lookup
    pure t)
  <|> (do
    let t ← targetPrimary self
    let t ← subscriptOf self start t
    notAhead lookup
    pure t)

/-- Targets in parentheses that make a tuple. -/
def tupleTargets : Parser (List Tree) := do
  let first ← self .target
  let more ← many (do let _ ← expect ","; self .target)
  if more.isEmpty then
    let _ ← expect ","
    pure [first]
  else
    let _ ← optional (expect ",")
    pure (first :: more)

/-- A target that is a name or stands in brackets. -/
def targetAtom : Parser Tree := do
  let start ← here
  nameTree
  <|> (do
    let _ ← expect "("
    let t ← self .plainTarget
    let _ ← expect ")"
    pure t)
  <|> (do
    let _ ← expect "("
    let items ← optional (tupleTargets self)
    let _ ← expect ")"
    build start .tuple (items.getD []))
  <|> (do
    let _ ← expect "["
    let items ← optional do
      let items ← separated (self .target) ","
      let _ ← optional (expect ",")
      pure items
    let _ ← expect "]"
    build start .list (items.getD []))

/-- A target without a star. -/
def plainTarget : Parser Tree := remember .plainTarget (lookedUp self <|> targetAtom self)

/-- A target, perhaps with a star. -/
def target : Parser Tree := remember .target do
  let start ← here
  (do
    let _ ← expect "*"
    notAhead (expect "*")
    let t ← self .target
    build start .starred [t])
  <|> plainTarget self

/-- One target, or several that make a tuple. -/
def targets : Parser Tree := do
  let start ← here
  let first ← target self
  if ← succeeds (expect ",") then
    let more ← many (do let _ ← expect ","; target self)
    let _ ← optional (expect ",")
    build start .tuple (first :: more)
  else pure first

/-- A target that stands alone. -/
def singleTarget : Parser Tree :=
  lookedUp self
  <|> nameTree
  <|> (do
    let _ ← expect "("
    let t ← self .singleTarget
    let _ ← expect ")"
    pure t)

/-- One or more targets to delete. -/
def deleteTargets : Parser (List Tree) := do
  let items ← separated (self .deleteTarget) ","
  let _ ← optional (expect ",")
  pure items

/-- A target to delete. -/
def deleteTarget : Parser Tree := remember .deleteTarget <|
  lookedUp self
  <|> (do
    let start ← here
    nameTree
    <|> (do
      let _ ← expect "("
      let t ← self .deleteTarget
      let _ ← expect ")"
      pure t)
    <|> (do
      let _ ← expect "("
      let items ← optional (deleteTargets self)
      let _ ← expect ")"
      build start .tuple (items.getD []))
    <|> (do
      let _ ← expect "["
      let items ← optional (deleteTargets self)
      let _ ← expect "]"
      build start .list (items.getD [])))

end ImportPolicy.Source.Grammar
