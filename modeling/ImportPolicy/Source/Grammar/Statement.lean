import ImportPolicy.Source.Grammar.Target
import ImportPolicy.Source.Grammar.Pattern

/-!
# Statements

Simple statements stand on one line, with semicolons between them; compound
statements hold blocks. A block is a `suite` node. Of most statements only
the keyword is kept in the label, because what matters about them is what
they contain; imports keep the module they name.

The rules for mistakes in compound statements come in pairs: a line that
lacks its colon, and a line behind which an indented block is missing.
-/

namespace ImportPolicy.Source.Grammar

open ImportPolicy.Source.Parser

variable (self : Rule → Parser Tree)

/-! ## Imports -/

/-- A dotted name, as one name. -/
def dottedName : Parser Tree := remember .dottedName <| grow nameTree fun start t => do
  let _ ← expect "."
  let more ← identifier
  match t.label with
  | .name id => build start (.name (id ++ "." ++ more)) []
  | _ => fail

/-- The new name behind `as`. -/
def newName : Parser Unit := do
  let _ ← expect "as"
  let _ ← ofKind .name

/-- One imported module. -/
def importedModule : Parser Tree := do
  let start ← here
  let t ← dottedName
  let _ ← optional newName
  match t.label with
  | .name id => build start (.alias id) []
  | _ => fail

/-- The names imported from a module. -/
def importedNames : Parser Unit := do
  let _ ← separated (do let _ ← ofKind .name; optional newName) ","

/-- What is imported from a module. -/
def importTargets : Parser Unit :=
  (do
    let _ ← expect "("
    importedNames
    let _ ← optional (expect ",")
    let _ ← expect ")")
  <|> (do
    importedNames
    notAhead (expect ","))
  <|> (do let _ ← expect "*")
  <|> diagnose (do
    importedNames
    let _ ← expect ","
    let _ ← ofKind .newline
    haltHere .trailingComma)

/-- How many dots some tokens stand for. -/
def countDots (tokens : List Token) : Nat := (tokens.flatMap (·.text.toList)).length

/-- An import. -/
def importStatement : Parser Tree := do
  let start ← here
  let dots := oneOf [".", "..."]
  (do
    let _ ← expect "import"
    let modules ← separated importedModule ","
    build start .importModules modules)
  <|> (do
    let _ ← expect "from"
    let level ← many dots
    let t ← dottedName
    let _ ← expect "import"
    importTargets
    match t.label with
    | .name id => build start (.importFrom (some id) (countDots level)) []
    | _ => fail)
  <|> (do
    let _ ← expect "from"
    let level ← many1 dots
    let _ ← expect "import"
    importTargets
    build start (.importFrom none (countDots level)) [])

/-! ## Assignments -/

/-- The operators that combine a target with a value. -/
def augmentedOperators : List String :=
  ["+=", "-=", "*=", "@=", "/=", "%=", "&=", "|=", "^=", "<<=", ">>=", "**=", "//="]

/-- A list or tuple where a single annotated target should stand. -/
def annotationTarget : Parser Tree :=
  list self
  <|> tuple self
  <|> (do
    let _ ← expect "("
    let t ← self .annotationTarget
    let _ ← expect ")"
    pure t)

/-- Mistakes in an assignment. -/
def badAssignment : Parser Tree :=
  (do
    let t ← annotationTarget self
    let _ ← expect ":"
    let _ ← self .expression
    haltAtTree (.annotated t.describe) t)
  <|> (do
    let t ← starNamedExpression self
    let _ ← expect ","
    let _ ← many (starNamedExpressions self)
    let _ ← expect ":"
    let _ ← self .expression
    haltAtTree (.annotated "tuple") t)
  <|> (do
    let t ← self .expression
    let _ ← expect ":"
    let _ ← self .expression
    haltAtTree .annotationTarget t)
  <|> (do
    let earlier := many (do let _ ← targets self; expect "=")
    let assigned ← optional do
      let _ ← earlier
      let t ← starExpressions self
      let _ ← expect "="
      pure t
    match assigned with
    | some t => refuseTarget .assign t
    | none =>
      (do
        let _ ← earlier
        let t ← yieldExpression self
        let _ ← expect "="
        haltAtTree .assignYield t)
      <|> (do
        let t ← starExpressions self
        let _ ← oneOf augmentedOperators
        let _ ← assignedValue self
        haltAtTree (.augmented t.describe) t))

/-- An annotation and the value behind it. -/
def typeAndValue : Parser (List Tree) := do
  let _ ← expect ":"
  let type ← self .expression
  let value ← optional (do let _ ← expect "="; assignedValue self)
  pure (type :: value.toList)

/-- An assignment. Once the operator of an augmented assignment has been
read there is no other way to read it. -/
def assignment : Parser Tree := do
  let start ← here
  (do
    let t ← nameTree
    let parts ← typeAndValue self
    build start (.statement ":") (t :: parts))
  <|> (do
    let t ← (do
        let _ ← expect "("
        let t ← singleTarget self
        let _ ← expect ")"
        pure t)
      <|> lookedUp self
    let parts ← typeAndValue self
    build start (.statement ":") (t :: parts))
  <|> (do
    let names ← many1 (do let t ← targets self; let _ ← expect "="; pure t)
    let value ← assignedValue self
    notAhead (expect "=")
    build start (.statement "=") (names ++ [value]))
  <|> (do
    let augmented ← optional do
      let t ← singleTarget self
      let operator ← oneOf augmentedOperators
      pure (t, operator)
    match augmented with
    | some (t, operator) =>
      let value ← assignedValue self
      build start (.statement operator.text) [t, value]
    | none => diagnose (badAssignment self))

/-! ## Other simple statements -/

/-- A statement that is one word. -/
def wordStatement (word : String) : Parser Tree := do
  let start ← here
  let _ ← expect word
  build start (.statement word) []

/-- A `return` statement. -/
def returnStatement : Parser Tree := do
  let start ← here
  let _ ← expect "return"
  let value ← optional (starExpressions self)
  build start (.statement "return") value.toList

/-- A `raise` statement. -/
def raiseStatement : Parser Tree := do
  let start ← here
  (do
    let _ ← expect "raise"
    let value ← self .expression
    let reason ← optional (do let _ ← expect "from"; self .expression)
    build start (.statement "raise") (value :: reason.toList))
  <|> wordStatement "raise"

/-- A `del` statement. -/
def deleteStatement : Parser Tree := do
  let start ← here
  (do
    let _ ← expect "del"
    let items ← deleteTargets self
    ahead (takeIf fun t => t.is ";" || t.kind == .newline)
    build start (.statement "del") items)
  <|> diagnose (do
    let _ ← expect "del"
    refuseTarget .delete (← starExpressions self))

/-- An `assert` statement. -/
def assertStatement : Parser Tree := do
  let start ← here
  let _ ← expect "assert"
  let condition ← self .expression
  let message ← optional (do let _ ← expect ","; self .expression)
  build start (.statement "assert") (condition :: message.toList)

/-- A statement that declares where names belong. -/
def scopeStatement (word : String) : Parser Tree := do
  let start ← here
  let _ ← expect word
  let _ ← separated (ofKind .name) ","
  build start (.statement word) []

/-- An expression as a statement. -/
def expressionStatement (value : Parser Tree) : Parser Tree := do
  let start ← here
  let t ← value
  build start .expression [t]

/-- A simple statement. -/
def simpleStatement : Parser Tree := remember .simple <|
  assignment self
  <|> expressionStatement (starExpressions self)
  <|> returnStatement self
  <|> importStatement
  <|> raiseStatement self
  <|> wordStatement "pass"
  <|> deleteStatement self
  <|> expressionStatement (yieldExpression self)
  <|> assertStatement self
  <|> wordStatement "break"
  <|> wordStatement "continue"
  <|> scopeStatement "global"
  <|> scopeStatement "nonlocal"

/-- The simple statements of one line. -/
def simpleStatements : Parser (List Tree) := do
  let items ← separated (simpleStatement self) ";"
  let _ ← optional (expect ";")
  let _ ← ofKind .newline
  pure items

/-! ## Blocks -/

/-- A line break with no indented block behind it. -/
def unindented : Parser Unit := do
  let _ ← ofKind .newline
  notAhead (ofKind .indent)

/-- A block. -/
def block : Parser Tree := remember .block do
  let start ← here
  (do
    let _ ← ofKind .newline
    let _ ← ofKind .indent
    let t ← self .statements
    let _ ← ofKind .dedent
    build start .suite t.children)
  <|> (do
    let items ← simpleStatements self
    build start .suite items)
  <|> diagnose (do
    unindented
    haltHere .missingBlock)

/-- The start of a statement whose colon or block is missing. -/
def badHeader (owner : BlockOwner) (header : Parser Token) (needsColon : Bool) : Parser Tree :=
  (do
    if needsColon then
      let _ ← header
      let _ ← ofKind .newline
      haltHere (.expected ":")
    else fail)
  <|> (do
    let word ← header
    let _ ← expect ":"
    unindented
    haltHere (.missingBlockAfter owner word.line))

/-- An `else` with its block. -/
def elseBlock : Parser Tree :=
  diagnose (badHeader (.statement "else") (expect "else") false)
  <|> (do
    let _ ← expect "else"
    let _ ← force ":"
    block self)

/-- A `finally` with its block. -/
def finallyBlock : Parser Tree :=
  diagnose (badHeader (.statement "finally") (expect "finally") false)
  <|> (do
    let _ ← expect "finally"
    let _ ← force ":"
    block self)

/-! ## Branches and loops -/

/-- A word with a condition. -/
def conditionHeader (word : String) : Parser Token := do
  let t ← expect word
  let _ ← namedExpression self
  pure t

/-- An `if` or `elif` with all that belongs to it. -/
def branch (word : String) : Parser Tree :=
  diagnose (badHeader (.statement word) (conditionHeader self word) true)
  <|> (do
    let start ← here
    let _ ← expect word
    let condition ← namedExpression self
    let _ ← expect ":"
    let body ← block self
    let other ← optional (self .elifs <|> elseBlock self)
    build start (.statement word) (condition :: body :: other.toList))

/-- A `while` loop. -/
def whileStatement : Parser Tree :=
  diagnose (badHeader (.statement "while") (conditionHeader self "while") true)
  <|> (do
    let start ← here
    let _ ← expect "while"
    let condition ← namedExpression self
    let _ ← expect ":"
    let body ← block self
    let other ← optional (elseBlock self)
    build start (.statement "while") (condition :: body :: other.toList))

/-- The start of a `for` loop up to what is looped over. -/
def forHeader : Parser Token := do
  let _ ← optional (expect "async")
  let t ← expect "for"
  let _ ← targets self
  let _ ← expect "in"
  let _ ← starExpressions self
  pure t

/-- A `for` loop. Once `in` has been read there is no other way to read
it. -/
def forStatement : Parser Tree :=
  diagnose (badHeader (.statement "for") (forHeader self) true)
  <|> (do
    let start ← here
    let loop ← optional do
      let _ ← optional (expect "async")
      let _ ← expect "for"
      let t ← targets self
      let _ ← expect "in"
      pure t
    match loop with
    | some t =>
      let iterable ← starExpressions self
      let _ ← expect ":"
      let body ← block self
      let other ← optional (elseBlock self)
      build start (.statement "for") (t :: iterable :: body :: other.toList)
    | none => diagnose (badLoopTarget self))

/-! ## Contexts -/

/-- The end of an item of a `with` statement. -/
def itemEnd : Parser Unit := ahead (oneOf [",", ")", ":"])

/-- An item of a `with` statement. -/
def withItem : Parser Tree := do
  let start ← here
  (do
    let value ← self .expression
    let _ ← expect "as"
    let t ← target self
    itemEnd
    build start .item [value, t])
  <|> diagnose (do
    let _ ← self .expression
    let _ ← expect "as"
    let t ← self .expression
    itemEnd
    refuseTarget .assign t)
  <|> (do
    let value ← self .expression
    build start .item [value])

/-- The target of an item, where it is only skipped. -/
def skippedTarget : Parser Unit := do
  let _ ← expect "as"
  let _ ← target self

/-- The start of a `with` statement up to its last item. -/
def withHeader : Parser Token := do
  let _ ← optional (expect "async")
  let t ← expect "with"
  let _ ← separated (do let _ ← self .expression; optional (skippedTarget self)) ","
  pure t

/-- The start of a `with` statement whose items stand in parentheses. -/
def withHeaderParenthesized : Parser Token := do
  let _ ← optional (expect "async")
  let t ← expect "with"
  let _ ← expect "("
  let _ ← separated (do let _ ← expressions self; optional (skippedTarget self)) ","
  let _ ← optional (expect ",")
  let _ ← expect ")"
  pure t

/-- A `with` statement. -/
def withStatement : Parser Tree := do
  let start ← here
  let missingBlock (header : Parser Token) : Parser Tree :=
    badHeader (.statement "with") header false
  let missingColon (header : Parser Token) : Parser Tree := do
    let _ ← header
    let _ ← ofKind .newline
    haltHere (.expected ":")
  let finish (items : List Tree) : Parser Tree := do
    let _ ← expect ":"
    let body ← block self
    build start (.statement "with") (items ++ [body])
  diagnose (missingBlock (withHeader self) <|> missingBlock (withHeaderParenthesized self))
  <|> (do
    let _ ← optional (expect "async")
    let _ ← expect "with"
    let _ ← expect "("
    let items ← separated (withItem self) ","
    let _ ← optional (expect ",")
    let _ ← expect ")"
    finish items)
  <|> (do
    let _ ← optional (expect "async")
    let _ ← expect "with"
    let items ← separated (withItem self) ","
    finish items)
  <|> diagnose (missingColon (withHeader self) <|> missingColon (withHeaderParenthesized self))

/-! ## Handlers -/

/-- The type of a handler and the name it gets. -/
def handledType : Parser Tree := do
  let t ← self .expression
  let _ ← optional newName
  pure t

/-- Mistakes in the first line of a handler. -/
def badHandler : Parser Tree :=
  (do
    let _ ← expect "except"
    let _ ← optional (expect "*")
    let t ← self .expression
    let _ ← expect ","
    let _ ← expressions self
    let _ ← optional newName
    let _ ← expect ":"
    haltAtTree .unparenthesizedTypes t)
  <|> (do
    let _ ← expect "except"
    let _ ← optional (expect "*")
    let _ ← handledType self
    let _ ← ofKind .newline
    haltHere (.expected ":"))
  <|> (do
    let _ ← expect "except"
    let _ ← ofKind .newline
    haltHere (.expected ":"))
  <|> (do
    let _ ← expect "except"
    let _ ← expect "*"
    let _ ← takeIf fun t => t.kind == .newline || t.is ":"
    haltHere .missingTypes)

/-- A handler of exceptions. -/
def handler : Parser Tree := do
  let start ← here
  let typed : Parser Token := do
    let t ← expect "except"
    let _ ← handledType self
    pure t
  diagnose (badHeader (.statement "except") typed false
    <|> badHeader (.statement "except") (expect "except") false)
  <|> (do
    let _ ← expect "except"
    let type ← handledType self
    let _ ← expect ":"
    let body ← block self
    build start .handler [type, body])
  <|> (do
    let _ ← expect "except"
    let _ ← expect ":"
    let body ← block self
    build start .handler [body])
  <|> diagnose (badHandler self)

/-- A handler of groups of exceptions. -/
def groupHandler : Parser Tree := do
  let start ← here
  let typed : Parser Token := do
    let t ← expect "except"
    let _ ← expect "*"
    let _ ← handledType self
    pure t
  diagnose (badHeader (.statement "except*") typed false)
  <|> (do
    let _ ← expect "except"
    let _ ← expect "*"
    let type ← handledType self
    let _ ← expect ":"
    let body ← block self
    build start .handler [type, body])
  <|> diagnose (badHandler self)

/-- Mistakes in a `try` statement. -/
def badTry : Parser Tree :=
  badHeader (.statement "try") (expect "try") false
  <|> (do
    let _ ← expect "try"
    let _ ← expect ":"
    let _ ← block self
    notAhead (oneOf ["except", "finally"])
    haltHere .missingHandler)
  <|> (do
    let _ ← expect "try"
    let _ ← expect ":"
    let _ ← many (block self)
    let _ ← many1 (handler self)
    let t ← expect "except"
    let _ ← expect "*"
    let _ ← handledType self
    let _ ← expect ":"
    haltAtToken .mixedHandlers t)
  <|> (do
    let _ ← expect "try"
    let _ ← expect ":"
    let _ ← many (block self)
    let _ ← many1 (groupHandler self)
    let t ← expect "except"
    let _ ← optional (handledType self)
    let _ ← expect ":"
    haltAtToken .mixedHandlers t)

/-- A `try` statement. -/
def tryStatement : Parser Tree :=
  diagnose (badTry self)
  <|> (do
    let start ← here
    let _ ← expect "try"
    let _ ← force ":"
    let body ← block self
    (do
      let last ← finallyBlock self
      build start (.statement "try") [body, last])
    <|> (do
      let handlers ← many1 (handler self)
      let other ← optional (elseBlock self)
      let last ← optional (finallyBlock self)
      build start (.statement "try") (body :: handlers ++ other.toList ++ last.toList))
    <|> (do
      let handlers ← many1 (groupHandler self)
      let other ← optional (elseBlock self)
      let last ← optional (finallyBlock self)
      build start (.statement "try") (body :: handlers ++ other.toList ++ last.toList)))

/-! ## Pattern matching -/

/-- What is matched. -/
def matchSubject : Parser Tree := do
  let start ← here
  (do
    let first ← starNamedExpression self
    let _ ← expect ","
    let more ← optional (starNamedExpressions self)
    build start .tuple (first :: more.getD []))
  <|> namedExpression self

/-- The condition of a case. -/
def caseGuard : Parser Tree := do
  let _ ← expect "if"
  namedExpression self

/-- The start of a case. -/
def caseHeader : Parser Token := do
  let t ← softWord "case"
  let _ ← patterns self
  let _ ← optional (caseGuard self)
  pure t

/-- A case. -/
def matchCase : Parser Tree :=
  diagnose (badHeader (.statement "case") (caseHeader self) true)
  <|> (do
    let start ← here
    let _ ← softWord "case"
    let pattern ← patterns self
    let condition ← optional (caseGuard self)
    let _ ← expect ":"
    let body ← block self
    build start .case (pattern :: condition.toList ++ [body]))

/-- The start of a `match` statement. -/
def matchHeader : Parser Token := do
  let t ← softWord "match"
  let _ ← matchSubject self
  pure t

/-- A `match` statement. -/
def matchStatement : Parser Tree :=
  (do
    let start ← here
    let _ ← softWord "match"
    let subject ← matchSubject self
    let _ ← expect ":"
    let _ ← ofKind .newline
    let _ ← ofKind .indent
    let cases ← many1 (matchCase self)
    let _ ← ofKind .dedent
    build start (.statement "match") (subject :: cases))
  <|> diagnose (badHeader (.statement "match") (matchHeader self) true)

/-! ## Definitions -/

/-- The decorators before a definition. -/
def decorators : Parser (List Tree) := many1 do
  let _ ← expect "@"
  let t ← namedExpression self
  let _ ← ofKind .newline
  pure t

/-- The type of a function's result. -/
def resultType : Parser Tree := do
  let _ ← expect "->"
  self .expression

/-- The start of a function definition up to the type of its result. -/
def functionHeader : Parser Token := do
  let _ ← optional (expect "async")
  let t ← expect "def"
  let _ ← ofKind .name
  let _ ← expect "("
  let _ ← optional (parameters .definition self)
  let _ ← expect ")"
  let _ ← optional (resultType self)
  pure t

/-- A function definition behind its decorators. -/
def functionBody (start : Nat) (decorators : List Tree) : Parser Tree :=
  diagnose (badHeader .functionDefinition (functionHeader self) false)
  <|> (do
    let _ ← optional (expect "async")
    let _ ← expect "def"
    let _ ← ofKind .name
    let _ ← force "("
    let list ← optional (parameters .definition self)
    let _ ← expect ")"
    let type ← optional (resultType self)
    let _ ← force ":"
    let body ← block self
    build start (.statement "def") (list.toList ++ body :: decorators ++ type.toList))

/-- The bases and other arguments of a class definition. -/
def classArguments : Parser (Option Tree) := do
  let _ ← expect "("
  let list ← optional (arguments self)
  let _ ← expect ")"
  pure list

/-- The start of a class definition. -/
def classHeader : Parser Token := do
  let t ← expect "class"
  let _ ← ofKind .name
  let _ ← optional (classArguments self)
  pure t

/-- A class definition behind its decorators. -/
def classBody (start : Nat) (decorators : List Tree) : Parser Tree :=
  diagnose (badHeader .classDefinition (classHeader self) true)
  <|> (do
    let _ ← expect "class"
    let _ ← ofKind .name
    let list ← optional (classArguments self)
    let _ ← expect ":"
    let body ← block self
    let list := match list.join with
      | some t => t.children
      | none => []
    build start (.statement "class") (list ++ body :: decorators))

/-- A definition with its decorators if it has any. -/
def decorated (body : Nat → List Tree → Parser Tree) : Parser Tree := do
  let start ← here
  (do
    let list ← decorators self
    body start list)
  <|> body start []

/-! ## The whole text -/

/-- A compound statement. -/
def compoundStatement : Parser Tree := do
  let t ← peek
  let guarded (words : List String) (p : Parser Tree) : Parser Tree :=
    if words.any t.is then p else fail
  guarded ["def", "@", "async"] (decorated self (functionBody self))
  <|> guarded ["if"] (branch self "if")
  <|> guarded ["class", "@"] (decorated self (classBody self))
  <|> guarded ["with", "async"] (withStatement self)
  <|> guarded ["for", "async"] (forStatement self)
  <|> guarded ["try"] (tryStatement self)
  <|> guarded ["while"] (whileStatement self)
  <|> matchStatement self

/-- One compound statement, or the simple statements of a line. -/
def statement : Parser (List Tree) :=
  (do
    let t ← compoundStatement self
    pure [t])
  <|> simpleStatements self

/-- One or more statements. -/
def statements : Parser Tree := do
  let start ← here
  let items ← many1 (statement self)
  build start .suite items.flatten

/-- A whole source text. -/
def file : Parser Tree := do
  let start ← here
  let t ← optional (statements self)
  let _ ← ofKind .finish
  match t with
  | some t => build start .module t.children
  | none => build start .module []

/-- The rules that the others refer to, and failure for those that are only
names of remembered results. -/
def rule : Rule → Parser Tree
  | .file => file self
  | .field => starExpressions self
  | .statements => statements self
  | .expression => expression self
  | .starExpression => starExpression self
  | .badNamedExpression => badNamedExpression self
  | .disjunction => disjunction self
  | .inversion => inversion self
  | .bitOr => bitOr self
  | .factor => factor self
  | .targets => targets self
  | .target => target self
  | .plainTarget => plainTarget self
  | .singleTarget => singleTarget self
  | .deleteTarget => deleteTarget self
  | .pattern => pattern self
  | .elifs => branch self "elif"
  | .annotationTarget => annotationTarget self
  | _ => fail

/-- The grammar, with a bound on how deep rules can refer to each other. -/
def run : Nat → Rule → Parser Tree
  | 0, _ => fail
  | n + 1, r => rule (run n) r

end ImportPolicy.Source.Grammar
