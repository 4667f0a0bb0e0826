import ImportPolicy.Source.Grammar.Parameter
import ImportPolicy.Source.Grammar.Strings

/-!
# Expressions

The rules for expressions, from the loosest operator to the tightest. Every
rule takes the whole grammar as an argument, `self`, and refers to the rules
that come later through it; `Grammar.run` closes the circle.

A rule that recognises a mistake stands next to the rule it belongs to, and
its name starts with `bad`. It either halts or fails, so that it can never
make a text acceptable.
-/

namespace ImportPolicy.Source.Grammar

open ImportPolicy.Source.Parser

variable (self : Rule → Parser Tree)

/-- Halts if a part of an expression cannot be the target it is used as. -/
def refuseTarget (use : TargetUse) (t : Tree) : Parser α :=
  match t.badTarget use with
  | some bad =>
    let cause : Cause := match use with
      | .delete => .delete bad.describe
      | _ => .assignTo bad.describe
    haltAtTree cause bad
  | none => fail

/-! ## Lists of expressions -/

/-- An expression that may be unpacked. -/
def starExpression : Parser Tree := remember .starExpression do
  let start ← here
  (do
    let _ ← expect "*"
    let value ← self .bitOr
    build start .starred [value])
  <|> self .expression

/-- Reads one item, or several that make a tuple. -/
def tupleOf (item : Parser Tree) : Parser Tree := do
  let start ← here
  let first ← item
  let more ← many (do let _ ← expect ","; item)
  let trailing ← optional (expect ",")
  if more.isEmpty && trailing.isNone then pure first
  else build start .tuple (first :: more)

/-- One expression or a tuple without parentheses, whose items may be
unpacked. -/
def starExpressions : Parser Tree := tupleOf (starExpression self)

/-- One expression or a tuple without parentheses. -/
def expressions : Parser Tree := tupleOf (self .expression)

/-- A name that is given a value inside an expression. -/
def assignmentExpression : Parser Tree := do
  let start ← here
  let name ← nameTree
  let _ ← expect ":="
  let value ← self .expression
  build start .named [name, value]

/-- An expression that is not the target of `:=`. -/
def unassigned : Parser Tree := do
  let t ← self .expression
  notAhead (expect ":=")
  pure t

/-- An expression that may give a value to a name. -/
def namedExpression : Parser Tree :=
  assignmentExpression self
  <|> diagnose (self .badNamedExpression)
  <|> unassigned self

/-- An expression, possibly unpacked, that may give a value to a name. -/
def starNamedExpression : Parser Tree := do
  let start ← here
  (do
    let _ ← expect "*"
    let value ← self .bitOr
    build start .starred [value])
  <|> namedExpression self

/-- One or more of these, with a comma between them and perhaps behind
them. -/
def starNamedExpressions : Parser (List Tree) := do
  let items ← separated (starNamedExpression self) ","
  let _ ← optional (expect ",")
  pure items

/-- A starred expression, as an argument or in a subscript. -/
def starredExpression : Parser Tree := do
  let start ← here
  let _ ← expect "*"
  let value ← self .expression
  build start .starred [value]

/-- A value that a function hands out. -/
def yieldExpression : Parser Tree := do
  let start ← here
  (do
    let _ ← expect "yield"
    let _ ← expect "from"
    let value ← self .expression
    build start .yieldFrom [value])
  <|> (do
    let _ ← expect "yield"
    let value ← optional (starExpressions self)
    build start .yield value.toList)

/-- What stands on the right of an assignment. -/
def assignedValue : Parser Tree := yieldExpression self <|> starExpressions self

/-! ## Comprehensions -/

/-- A loop whose target cannot be one. -/
def badLoopTarget : Parser α := do
  let _ ← optional (expect "async")
  let _ ← expect "for"
  refuseTarget .loop (← starExpressions self)

/-- A clause of a comprehension. Once `in` has been read there is no other
way to read it. -/
def clause : Parser Tree := do
  let start ← here
  let loop ← optional do
    let _ ← optional (expect "async")
    let _ ← expect "for"
    let target ← self .targets
    let _ ← expect "in"
    pure target
  match loop with
  | some target =>
    let iterable ← self .disjunction
    let filters ← many (do let _ ← expect "if"; self .disjunction)
    build start .clause (target :: iterable :: filters)
  | none => diagnose (badLoopTarget self)

/-- The clauses of a comprehension. -/
def clauses : Parser (List Tree) := many1 (clause self)

/-- Mistakes in a comprehension. -/
def badComprehension : Parser Tree :=
  (do
    let _ ← oneOf ["[", "(", "\x7b"]
    let t ← starredExpression self
    let _ ← clauses self
    haltAtTree .unpackingInComprehension t)
  <|> (do
    let _ ← oneOf ["[", "\x7b"]
    let t ← starNamedExpression self
    let _ ← expect ","
    let _ ← starNamedExpressions self
    let _ ← clauses self
    haltAtTree .comprehensionTarget t)
  <|> (do
    let _ ← oneOf ["[", "\x7b"]
    let t ← starNamedExpression self
    let _ ← expect ","
    let _ ← clauses self
    haltAtTree .comprehensionTarget t)

/-- A comprehension between brackets. -/
def comprehension (opening closing : String) (label : Label) (element : Parser Tree) :
    Parser Tree := do
  let start ← here
  (do
    let _ ← expect opening
    let t ← element
    let loops ← clauses self
    let _ ← expect closing
    build start label (t :: loops))
  <|> diagnose (badComprehension self)

/-- A comprehension that makes a generator. -/
def generator : Parser Tree :=
  comprehension self "(" ")" .generator (assignmentExpression self <|> unassigned self)

/-! ## Arguments -/

/-- A positional argument, which is not followed by `=`. -/
def positionalArgument : Parser Tree :=
  starredExpression self
  <|> (do
    let t ← assignmentExpression self <|> unassigned self
    notAhead (expect "=")
    pure t)

/-- Mistakes in a named argument. -/
def badArgument : Parser Tree :=
  (do
    let t ← oneOf ["True", "False", "None"]
    let _ ← expect "="
    haltAtToken (.assignTo t.text) t)
  <|> (do
    let t ← ofKind .name
    let _ ← expect "="
    let _ ← self .expression
    let _ ← clauses self
    haltAtToken .assignmentMeant t)
  <|> (do
    notAhead (do let _ ← ofKind .name; expect "=")
    let t ← self .expression
    let _ ← expect "="
    haltAtTree .keywordAssignment t)

/-- A named argument. -/
def namedArgument : Parser Tree := do
  let start ← here
  let name ← identifier
  let _ ← expect "="
  let value ← self .expression
  build start (.argument (some name)) [value]

/-- A named argument or an unpacked sequence. -/
def namedOrStarred : Parser Tree :=
  diagnose (badArgument self) <|> namedArgument self <|> starredExpression self

/-- A named argument or an unpacked mapping. -/
def namedOrDoubleStarred : Parser Tree :=
  diagnose (badArgument self)
  <|> namedArgument self
  <|> (do
    let start ← here
    let _ ← expect "**"
    let value ← self .expression
    build start (.argument none) [value])

/-- The arguments from the first named or unpacked one on. -/
def namedArguments : Parser (List Tree) :=
  (do
    let first ← separated (namedOrStarred self) ","
    let _ ← expect ","
    let second ← separated (namedOrDoubleStarred self) ","
    pure (first ++ second))
  <|> separated (namedOrStarred self) ","
  <|> separated (namedOrDoubleStarred self) ","

/-- Whether an argument counts as positional. -/
def isPositional (t : Tree) : Bool :=
  match t.label with
  | .argument _ => false
  | _ => true

/-- The arguments of a call, the positional ones first. -/
def argumentList : Parser Tree := do
  let start ← here
  (do
    let positional ← separated (positionalArgument self) ","
    let more ← optional (do let _ ← expect ","; namedArguments self)
    let more := more.getD []
    let positional := positional ++ more.filter isPositional
    build start (.arguments positional.length) (positional ++ more.filter (!isPositional ·)))
  <|> (do
    let more ← namedArguments self
    let positional := more.filter isPositional
    build start (.arguments positional.length) (positional ++ more.filter (!isPositional ·)))

/-- Which mistake it is to put further arguments behind these. -/
def misplacedAfter (arguments : Tree) : Cause :=
  if arguments.children.any (fun t => t.label = .argument none) then .positionalAfterUnpacking
  else .positionalAfterKeyword

/-- Mistakes in the arguments of a call. -/
def badArguments : Parser Tree :=
  (do
    let t ← argumentList self
    let _ ← expect ","
    let _ ← expect "*"
    haltAtTree .unpackingOrder t)
  <|> (do
    let t ← self .expression
    let _ ← clauses self
    let _ ← expect ","
    let _ ← optional (argumentList self <|> (do
      let t ← self .expression
      let _ ← clauses self
      pure t))
    haltAtTree .bareGenerator t)
  <|> (do
    let t ← ofKind .name
    let _ ← expect "="
    let _ ← self .expression
    let _ ← clauses self
    haltAtToken .assignmentMeant t)
  <|> (do
    match ← optional (do let t ← argumentList self; let _ ← clauses self; pure t) with
    | some t =>
      -- a single argument with clauses is a generator, which is no mistake
      match t.label with
      | .arguments (n + 2) =>
        match t.children[n + 1]? with
        | some last => haltAtTree .bareGenerator last
        | none => fail
      | _ => fail
    | none =>
      (do
        let _ ← argumentList self
        let _ ← expect ","
        let t ← self .expression
        let _ ← clauses self
        haltAtTree .bareGenerator t)
      <|> (do
        let t ← argumentList self
        let _ ← expect ","
        let _ ← argumentList self
        haltHere (misplacedAfter t)))

/-- The arguments of a call up to the closing parenthesis. -/
def arguments : Parser Tree := remember .arguments do
  (do
    let t ← argumentList self
    let _ ← optional (expect ",")
    ahead (expect ")")
    pure t)
  <|> diagnose (badArguments self)

/-! ## Subscripts -/

/-- A slice or an index. -/
def slice : Parser Tree := do
  let start ← here
  (do
    let lower ← optional (self .expression)
    let _ ← expect ":"
    let upper ← optional (self .expression)
    let step ← optional (do let _ ← expect ":"; optional (self .expression))
    build start .slice (lower.toList ++ upper.toList ++ (step.join).toList))
  <|> namedExpression self

/-- What stands in the brackets of a subscript. -/
def slices : Parser Tree := do
  let start ← here
  (do
    let t ← slice self
    notAhead (expect ",")
    pure t)
  <|> (do
    let items ← separated (slice self <|> starredExpression self) ","
    let _ ← optional (expect ",")
    build start .tuple items)

/-! ## Atoms -/

/-- The most decimal digits a number can be written with. -/
def mostDigits : Nat := 4300

/-- How many decimal digits a whole number is written with, where that
number is limited: numbers in other bases and with fractions are not. -/
def limitedDigits (text : String) : Nat :=
  let chars := text.toList.filter (· ≠ '_')
  if chars.head? ≠ some '0' && chars.all Char.isDigit then chars.length else 0

/-- A number. -/
def number : Parser Tree := do
  let start ← here
  let t ← ofKind .number
  let digits := limitedDigits t.text
  if digits > mostDigits then haltAt (.longNumber digits) t.line (-1)
  else
    let last := t.text.toList.getLast?
    let based := (t.text.toList.drop 1).head? == some 'x' || (t.text.toList.drop 1).head? == some 'X'
    let imaginary := !based && (last == some 'j' || last == some 'J')
    build start (.literal (.number imaginary)) []

/-- Mistakes between parentheses. -/
def badGroup : Parser Tree :=
  (do
    let _ ← expect "("
    let t ← starredExpression self
    let _ ← expect ")"
    haltAtTree .starredHere t)
  <|> (do
    let _ ← expect "("
    let t ← expect "**"
    let _ ← self .expression
    let _ ← expect ")"
    haltAtToken .doubleStarredHere t)

/-- An expression in parentheses. -/
def group : Parser Tree :=
  (do
    let _ ← expect "("
    let t ← yieldExpression self <|> namedExpression self
    let _ ← expect ")"
    pure t)
  <|> diagnose (badGroup self)

/-- A tuple in parentheses. -/
def tuple : Parser Tree := do
  let start ← here
  let _ ← expect "("
  let items ← optional do
    let first ← starNamedExpression self
    let _ ← expect ","
    let more ← optional (starNamedExpressions self)
    pure (first :: more.getD [])
  let _ ← expect ")"
  build start .tuple (items.getD [])

/-- A list. -/
def list : Parser Tree := do
  let start ← here
  let _ ← expect "["
  let items ← optional (starNamedExpressions self)
  let _ ← expect "]"
  build start .list (items.getD [])

/-- A set. -/
def set : Parser Tree := do
  let start ← here
  let _ ← expect "\x7b"
  let items ← starNamedExpressions self
  let _ ← expect "\x7d"
  build start .set items

/-- A key with its value. -/
def keyValue : Parser (Option Tree × Tree) := do
  let key ← self .expression
  let _ ← expect ":"
  let value ← self .expression
  pure (some key, value)

/-- A key with its value, or an unpacked mapping, which has no key. -/
def entry : Parser (Option Tree × Tree) :=
  (do
    let _ ← expect "**"
    let value ← self .bitOr
    pure (none, value))
  <|> keyValue self

/-- Mistakes in the value of a key. -/
def badValue : Parser α :=
  (do
    let _ ← self .expression
    let _ ← expect ":"
    let t ← expect "*"
    let _ ← self .bitOr
    haltAtToken .starredValue t)
  <|> (do
    let _ ← self .expression
    let t ← expect ":"
    ahead (oneOf ["\x7d", ","])
    haltAtToken .valueAfterKey t)

/-- Mistakes in the entries of a mapping. -/
def badEntries : Parser α :=
  (do
    let _ ← separated (entry self) ","
    let _ ← expect ","
    (do
      let t ← self .expression
      notAhead (expect ":")
      haltAt .keyColon t.span.line ((t.span.endColumn : Int) - 1))
    <|> badValue self)
  <|> badValue self

/-- A mapping. Mistakes in its entries are looked for in the first reading
already. -/
def dict : Parser Tree := do
  let start ← here
  (do
    let _ ← expect "\x7b"
    let entries ← optional do
      let entries ← separated (entry self) ","
      let _ ← optional (expect ",")
      pure entries
    let _ ← expect "\x7d"
    let entries := entries.getD []
    build start .dict (entries.filterMap (·.1) ++ entries.map (·.2)))
  <|> (do
    let _ ← expect "\x7b"
    badEntries self)

/-- A comprehension that makes a mapping. -/
def dictComprehension : Parser Tree := do
  let start ← here
  (do
    let _ ← expect "\x7b"
    let (key, value) ← keyValue self
    let loops ← clauses self
    let _ ← expect "\x7d"
    build start .dictComprehension (key.toList ++ value :: loops))
  <|> diagnose (do
    let _ ← expect "\x7b"
    let t ← expect "**"
    let _ ← self .bitOr
    let _ ← clauses self
    let _ ← expect "\x7d"
    haltAtToken .mappingInComprehension t)

/-- A literal that is a word or a mark. -/
def fixedLiteral (text : String) (value : Literal) : Parser Tree := do
  let start ← here
  let _ ← expect text
  build start (.literal value) []

/-- The expressions that need no operator. -/
def atom : Parser Tree := do
  let t ← peek
  match t.kind with
  | .name => nameTree
  | .string => strings self
  | .number => number
  | .keyword =>
    fixedLiteral "True" .true <|> fixedLiteral "False" .false <|> fixedLiteral "None" .none
  | .operator =>
    if t.text = "(" then tuple self <|> group self <|> generator self
    else if t.text = "[" then
      list self <|> comprehension self "[" "]" .listComprehension (namedExpression self)
    else if t.text = "\x7b" then
      dict self <|> set self <|> dictComprehension self
        <|> comprehension self "\x7b" "\x7d" .setComprehension (namedExpression self)
    else fixedLiteral "..." .ellipsis
  | _ => fail

/-! ## Operators -/

/-- The arguments of a call in parentheses, put behind the function. -/
def callWith (start : Nat) (function : Tree) : Parser Tree := do
  let _ ← expect "("
  let arguments ← optional (arguments self)
  let _ ← expect ")"
  match arguments with
  | some (.node (.arguments n) _ children) => build start (.call n) (function :: children)
  | _ => build start (.call 0) [function]

/-- A call whose only argument is a generator. -/
def callWithGenerator (start : Nat) (function : Tree) : Parser Tree := do
  let t ← generator self
  build start (.call 1) [function, t]

/-- An attribute. -/
def attributeOf (start : Nat) (value : Tree) : Parser Tree := do
  let _ ← expect "."
  let name ← identifier
  build start (.attribute name) [value]

/-- A subscript. -/
def subscriptOf (start : Nat) (value : Tree) : Parser Tree := do
  let _ ← expect "["
  let index ← slices self
  let _ ← expect "]"
  build start .subscript [value, index]

/-- An atom with attributes, calls and subscripts. -/
def primary : Parser Tree := remember .primary <| grow (atom self) fun start t =>
  attributeOf start t
  <|> callWithGenerator self start t
  <|> callWith self start t
  <|> subscriptOf self start t

/-- A value that is waited for. -/
def awaited : Parser Tree := remember .awaited do
  let start ← here
  (do
    let _ ← expect "await"
    let value ← primary self
    build start .await [value])
  <|> primary self

/-- A power. -/
def power : Parser Tree := do
  let start ← here
  let base ← awaited self
  match ← optional (do let _ ← expect "**"; self .factor) with
  | some exponent => build start .binary [base, exponent]
  | none => pure base

/-- A power with signs before it. -/
def factor : Parser Tree := remember .factor do
  let start ← here
  (do
    let _ ← oneOf ["+", "-", "~"]
    let value ← self .factor
    build start .unary [value])
  <|> power self

/-- Operands of one strength, which belong together from the left. -/
def operatorRow (rule : Rule) (operators : List String) (operand : Parser Tree) : Parser Tree :=
  remember rule <| grow operand fun start left => do
    let _ ← oneOf operators
    let right ← operand
    build start .binary [left, right]

/-- Products. -/
def term : Parser Tree := operatorRow .term ["*", "/", "//", "%", "@"] (factor self)

/-- Sums. -/
def sum : Parser Tree := operatorRow .sum ["+", "-"] (term self)

/-- Shifts. -/
def shift : Parser Tree := operatorRow .shift ["<<", ">>"] (sum self)

/-- Bitwise conjunctions. -/
def bitAnd : Parser Tree := operatorRow .bitAnd ["&"] (shift self)

/-- Bitwise exclusive disjunctions. -/
def bitXor : Parser Tree := operatorRow .bitXor ["^"] (bitAnd self)

/-- Bitwise disjunctions. -/
def bitOr : Parser Tree := operatorRow .bitOr ["|"] (bitXor self)

/-- A comparison operator with its right side, and whether it is `in`. -/
def comparisonStep : Parser (Bool × Tree) :=
  (do
    let _ ← oneOf ["==", "!=", "<=", "<", ">=", ">"]
    pure (false, ← bitOr self))
  <|> (do
    let _ ← expect "not"
    let _ ← expect "in"
    pure (false, ← bitOr self))
  <|> (do
    let _ ← expect "in"
    pure (true, ← bitOr self))
  <|> (do
    let _ ← expect "is"
    let _ ← expect "not"
    pure (false, ← bitOr self))
  <|> (do
    let _ ← expect "is"
    pure (false, ← bitOr self))

/-- A row of comparisons. -/
def comparison : Parser Tree := do
  let start ← here
  let left ← bitOr self
  match ← many (comparisonStep self) with
  | [] => pure left
  | steps@((membership, _) :: _) => build start (.compare membership) (left :: steps.map (·.2))

/-- A negation. -/
def inversion : Parser Tree := remember .inversion do
  let start ← here
  (do
    let _ ← expect "not"
    let value ← self .inversion
    build start .unary [value])
  <|> comparison self

/-- Operands joined by one word. -/
def wordRow (rule : Rule) (word : String) (operand : Parser Tree) : Parser Tree :=
  remember rule do
    let start ← here
    let first ← operand
    match ← many (do let _ ← expect word; operand) with
    | [] => pure first
    | more => build start .boolean (first :: more)

/-- A conjunction. -/
def conjunction : Parser Tree := wordRow .conjunction "and" (inversion self)

/-- A disjunction. -/
def disjunction : Parser Tree := wordRow .disjunction "or" (conjunction self)

/-- An anonymous function. -/
def anonymousFunction : Parser Tree := do
  let start ← here
  let _ ← expect "lambda"
  let list ← optional (parameters .anonymous self)
  let _ ← expect ":"
  let body ← self .expression
  build start .lambda (list.toList ++ [body])

/-- An expression, in which mistakes are not looked for at this level. -/
def plainExpression : Parser Tree :=
  (do
    let start ← here
    let value ← disjunction self
    let choice ← optional do
      let _ ← expect "if"
      let condition ← disjunction self
      let _ ← expect "else"
      let other ← self .expression
      pure (condition, other)
    match choice with
    | some (condition, other) => build start .conditional [condition, value, other]
    | none => pure value)
  <|> anonymousFunction self

/-- Whether an expression is a name that used to be a statement. -/
def isLegacyName (t : Tree) : Bool :=
  match t.label with
  | .name id => id = "print" || id = "exec"
  | _ => false

/-- Two expressions side by side, or a condition without an alternative. -/
def badExpression : Parser Tree := do
  let pair ← optional do
    notAhead ((do let _ ← ofKind .name; ofKind .string)
      <|> takeIf fun t => t.kind == .name && softKeywords.contains t.text)
    let first ← disjunction self
    let _ ← undiagnosed (plainExpression self)
    pure (first, ← lastToken)
  match pair with
  | some (first, last) =>
    if isLegacyName first || last.depth = 0 then fail else haltAtTree .missingComma first
  | none =>
    let value ← disjunction self
    let _ ← expect "if"
    let _ ← disjunction self
    notAhead (oneOf ["else", ":"])
    haltAtTree .missingElse value

/-- A name that used to be a statement, with an expression behind it. -/
def badLegacyStatement : Parser Tree := do
  let name ← nameTree
  notAhead (expect "(")
  let _ ← starExpressions self
  match name.label with
  | .name id => if isLegacyName name then haltAtTree (.missingParentheses id) name else fail
  | _ => fail

/-- An expression. -/
def expression : Parser Tree := remember .expression <|
  diagnose (badExpression self)
  <|> diagnose (badLegacyStatement self)
  <|> plainExpression self

/-- Mistakes with `:=` and with `=` inside an expression. -/
def badNamedExpression : Parser Tree := remember .badNamedExpression <|
  (do
    let t ← self .expression
    let _ ← expect ":="
    let _ ← self .expression
    haltAtTree (.namedTarget t.describe) t)
  <|> (do
    let t ← ofKind .name
    let _ ← expect "="
    let _ ← bitOr self
    notAhead (oneOf ["=", ":="])
    haltAtToken .assignmentMeant t)
  <|> (do
    notAhead (list self <|> tuple self <|> generator self
      <|> (do let _ ← oneOf ["True", "None", "False"]; pure default))
    let t ← bitOr self
    let _ ← expect "="
    let _ ← bitOr self
    notAhead (oneOf ["=", ":="])
    haltAtTree (.assignHere t.describe) t)

end ImportPolicy.Source.Grammar
