/-!
# Why a source text is refused

A text that does not parse is refused for one cause, at one place. Causes
are the constructors of `Cause`; their wording is in `Cause.message` and
nowhere else, and `Cause.category` says which of the four families a cause
belongs to. A `Fault` adds the place: the line, counted from one, and the
column counted in characters from one.

The column is an integer and not a natural number. Columns inside a
replacement field of a formatted string are counted from the start of the
field, so on its later lines they can fall below one.
-/

namespace ImportPolicy.Source

/-- The family a cause belongs to. -/
inductive Category where
  /-- The text does not follow the grammar. -/
  | grammar
  /-- The indentation does not follow the grammar. -/
  | indentation
  /-- Tabs and blanks are mixed so that the indentation is ambiguous. -/
  | tabs
  /-- The text holds a value no source text may hold. -/
  | value
  deriving DecidableEq, Repr

/-- The name a family is reported under. -/
def Category.name : Category → String
  | .grammar => "SyntaxError"
  | .indentation => "IndentationError"
  | .tabs => "TabError"
  | .value => "ValueError"

/-- The forms of a number. -/
inductive NumberForm where
  | decimal
  | hexadecimal
  | octal
  | binary
  | imaginary
  deriving DecidableEq, Repr

/-- The name of a form in a message. -/
def NumberForm.name : NumberForm → String
  | .decimal => "decimal"
  | .hexadecimal => "hexadecimal"
  | .octal => "octal"
  | .binary => "binary"
  | .imaginary => "imaginary"

/-- What stands before an indented block. -/
inductive BlockOwner where
  /-- A statement that starts with the given word. -/
  | statement (word : String)
  | functionDefinition
  | classDefinition
  deriving DecidableEq, Repr

/-- The name of a block's owner in a message. -/
def BlockOwner.name : BlockOwner → String
  | .statement word => "'" ++ word ++ "' statement"
  | .functionDefinition => "function definition"
  | .classDefinition => "class definition"

/-- What is wrong with a list of parameters, in a definition or in an
anonymous function. -/
inductive ParameterFault where
  | defaultOrder
  | parenthesizedFunction
  | parenthesizedLambda
  | slashFirst
  | slashTwice
  | slashAfterStar
  | commaBetween
  | missingDefault
  | bareStar
  | starDefault
  | starTwice
  | keywordsDefault
  | afterKeywords
  deriving DecidableEq, Repr

/-- The wording of a fault in a parameter list. -/
def ParameterFault.message : ParameterFault → String
  | .defaultOrder => "non-default argument follows default argument"
  | .parenthesizedFunction => "Function parameters cannot be parenthesized"
  | .parenthesizedLambda => "Lambda expression parameters cannot be parenthesized"
  | .slashFirst => "at least one argument must precede /"
  | .slashTwice => "/ may appear only once"
  | .slashAfterStar => "/ must be ahead of *"
  | .commaBetween => "expected comma between / and *"
  | .missingDefault => "expected default value expression"
  | .bareStar => "named arguments must follow bare *"
  | .starDefault => "var-positional argument cannot have default value"
  | .starTwice => "* argument may appear only once"
  | .keywordsDefault => "var-keyword argument cannot have default value"
  | .afterKeywords => "arguments cannot follow var-keyword argument"

/-- What is wrong with a replacement field of a formatted string. -/
inductive FieldFault where
  | singleBrace
  | tooDeep
  | backslash
  | comment
  | tooManyParens
  | unmatched (bracket : Char)
  | mismatched (closing opening : Char)
  | unterminated
  | unclosed
  | empty
  | emptyBefore (mark : Char)
  | conversion
  deriving DecidableEq, Repr

/-- The wording of a fault in a replacement field. -/
def FieldFault.message : FieldFault → String
  | .singleBrace => "f-string: single '\x7d' is not allowed"
  | .tooDeep => "f-string: expressions nested too deeply"
  | .backslash => "f-string expression part cannot include a backslash"
  | .comment => "f-string expression part cannot include '#'"
  | .tooManyParens => "f-string: too many nested parenthesis"
  | .unmatched bracket => "f-string: unmatched '" ++ bracket.toString ++ "'"
  | .mismatched closing opening =>
    "f-string: closing parenthesis '" ++ closing.toString
      ++ "' does not match opening parenthesis '" ++ opening.toString ++ "'"
  | .unterminated => "f-string: unterminated string"
  | .unclosed => "f-string: expecting '\x7d'"
  | .empty => "f-string: empty expression not allowed"
  | .emptyBefore mark => "f-string: expression required before '" ++ mark.toString ++ "'"
  | .conversion => "f-string: invalid conversion character: expected 's', 'r', or 'a'"

/-- Why a source text is refused. -/
inductive Cause where
  | nulByte
  | nonPrintable (c : Char)
  | strayCharacter (c : Char)
  | badNumber (how : NumberForm)
  | badDigit (digit : Char) (how : NumberForm)
  | leadingZeros
  | longNumber (digits : Nat)
  | unterminatedString (line : Nat)
  | unterminatedTriple (line : Nat)
  | tooManyParens
  | unmatched (bracket : Char)
  | mismatched (closing opening : Char) (openedOn : Option Nat)
  | neverClosed (bracket : Char)
  | unexpectedEnd
  | badDedent
  | mixedTabs
  | tooManyIndents
  | strayContinuation
  | unexpectedIndent
  | unexpectedUnindent
  | invalid
  | expected (token : String)
  | missingBlock
  | missingBlockAfter (owner : BlockOwner) (line : Nat)
  | missingHandler
  | mixedHandlers
  | unparenthesizedTypes
  | missingTypes
  | missingElse
  | missingComma
  | missingParentheses (function : String)
  | assignmentMeant
  | assignTo (what : String)
  | assignHere (what : String)
  | assignYield
  | augmented (what : String)
  | namedTarget (what : String)
  | annotated (what : String)
  | annotationTarget
  | delete (what : String)
  | keywordAssignment
  | unpackingInComprehension
  | mappingInComprehension
  | comprehensionTarget
  | parameters (fault : ParameterFault)
  | starredHere
  | doubleStarredHere
  | trailingComma
  | unpackingOrder
  | bareGenerator
  | positionalAfterKeyword
  | positionalAfterUnpacking
  | keyColon
  | valueAfterKey
  | starredValue
  | wildcardTarget
  | patternTarget
  | patternOrder
  | realRequired
  | imaginaryRequired
  | bytesNotAscii
  | mixedStrings
  | badEscape (detail : String)
  | badByteEscape (position : Nat)
  | field (fault : FieldFault)
  | inField (cause : Cause)
  deriving DecidableEq, Repr

/-- A code point as it is shown in a message: at least four upper case
hexadecimal digits. -/
def showCodePoint (c : Char) : String :=
  let digits := (Nat.toDigits 16 c.toNat).map Char.toUpper
  "U+" ++ String.ofList (List.replicate (4 - digits.length) '0' ++ digits)

/-- The wording of a cause. -/
def Cause.message : Cause → String
  | .nulByte => "source code string cannot contain null bytes"
  | .nonPrintable c => "invalid non-printable character " ++ showCodePoint c
  | .strayCharacter c =>
    "invalid character '" ++ c.toString ++ "' (" ++ showCodePoint c ++ ")"
  | .badNumber how => "invalid " ++ how.name ++ " literal"
  | .badDigit digit how =>
    "invalid digit '" ++ digit.toString ++ "' in " ++ how.name ++ " literal"
  | .leadingZeros =>
    "leading zeros in decimal integer literals are not permitted; "
      ++ "use an 0o prefix for octal integers"
  | .longNumber digits =>
    "Exceeds the limit (4300 digits) for integer string conversion: value has "
      ++ toString digits
      ++ " digits; use sys.set_int_max_str_digits() to increase the limit"
      ++ " - Consider hexadecimal for huge integer literals to avoid decimal conversion limits."
  | .unterminatedString line =>
    "unterminated string literal (detected at line " ++ toString line ++ ")"
  | .unterminatedTriple line =>
    "unterminated triple-quoted string literal (detected at line " ++ toString line ++ ")"
  | .tooManyParens => "too many nested parentheses"
  | .unmatched bracket => "unmatched '" ++ bracket.toString ++ "'"
  | .mismatched closing opening openedOn =>
    "closing parenthesis '" ++ closing.toString
      ++ "' does not match opening parenthesis '" ++ opening.toString ++ "'"
      ++ (match openedOn with
          | some line => " on line " ++ toString line
          | none => "")
  | .neverClosed bracket => "'" ++ bracket.toString ++ "' was never closed"
  | .unexpectedEnd => "unexpected EOF while parsing"
  | .badDedent => "unindent does not match any outer indentation level"
  | .mixedTabs => "inconsistent use of tabs and spaces in indentation"
  | .tooManyIndents => "too many levels of indentation"
  | .strayContinuation => "unexpected character after line continuation character"
  | .unexpectedIndent => "unexpected indent"
  | .unexpectedUnindent => "unexpected unindent"
  | .invalid => "invalid syntax"
  | .expected token => "expected '" ++ token ++ "'"
  | .missingBlock => "expected an indented block"
  | .missingBlockAfter owner line =>
    "expected an indented block after " ++ owner.name ++ " on line " ++ toString line
  | .missingHandler => "expected 'except' or 'finally' block"
  | .mixedHandlers => "cannot have both 'except' and 'except*' on the same 'try'"
  | .unparenthesizedTypes => "multiple exception types must be parenthesized"
  | .missingTypes => "expected one or more exception types"
  | .missingElse => "expected 'else' after 'if' expression"
  | .missingComma => "invalid syntax. Perhaps you forgot a comma?"
  | .missingParentheses function =>
    "Missing parentheses in call to '" ++ function ++ "'. Did you mean " ++ function ++ "(...)?"
  | .assignmentMeant => "invalid syntax. Maybe you meant '==' or ':=' instead of '='?"
  | .assignTo what => "cannot assign to " ++ what
  | .assignHere what =>
    "cannot assign to " ++ what ++ " here. Maybe you meant '==' instead of '='?"
  | .assignYield => "assignment to yield expression not possible"
  | .augmented what => "'" ++ what ++ "' is an illegal expression for augmented assignment"
  | .namedTarget what => "cannot use assignment expressions with " ++ what
  | .annotated what => "only single target (not " ++ what ++ ") can be annotated"
  | .annotationTarget => "illegal target for annotation"
  | .delete what => "cannot delete " ++ what
  | .keywordAssignment => "expression cannot contain assignment, perhaps you meant \"==\"?"
  | .unpackingInComprehension => "iterable unpacking cannot be used in comprehension"
  | .mappingInComprehension => "dict unpacking cannot be used in dict comprehension"
  | .comprehensionTarget => "did you forget parentheses around the comprehension target?"
  | .parameters fault => fault.message
  | .starredHere => "cannot use starred expression here"
  | .doubleStarredHere => "cannot use double starred expression here"
  | .trailingComma => "trailing comma not allowed without surrounding parentheses"
  | .unpackingOrder => "iterable argument unpacking follows keyword argument unpacking"
  | .bareGenerator => "Generator expression must be parenthesized"
  | .positionalAfterKeyword => "positional argument follows keyword argument"
  | .positionalAfterUnpacking => "positional argument follows keyword argument unpacking"
  | .keyColon => "':' expected after dictionary key"
  | .valueAfterKey => "expression expected after dictionary key and ':'"
  | .starredValue => "cannot use a starred expression in a dictionary value"
  | .wildcardTarget => "cannot use '_' as a target"
  | .patternTarget => "invalid pattern target"
  | .patternOrder => "positional patterns follow keyword patterns"
  | .realRequired => "real number required in complex literal"
  | .imaginaryRequired => "imaginary number required in complex literal"
  | .bytesNotAscii => "bytes can only contain ASCII literal characters"
  | .mixedStrings => "cannot mix bytes and nonbytes literals"
  | .badEscape detail => "(unicode error) 'unicodeescape' codec can't decode " ++ detail
  | .badByteEscape position =>
    "(value error) invalid \\x escape at position " ++ toString position
  | .field fault => fault.message
  | .inField cause => "f-string: " ++ cause.message

/-- The family of a cause. -/
def Cause.category : Cause → Category
  | .nulByte => .value
  | .mixedTabs => .tabs
  | .badDedent | .tooManyIndents | .unexpectedIndent | .unexpectedUnindent
  | .missingBlock | .missingBlockAfter .. => .indentation
  | .inField cause => cause.category
  | _ => .grammar

/-- A refusal: a cause and, unless the text as a whole is at fault, its
place. -/
structure Fault where
  /-- Why the text is refused. -/
  cause : Cause
  /-- The line, counted from one; zero when there is no place. -/
  line : Nat
  /-- The column, counted in characters from one. -/
  column : Int
  deriving DecidableEq, Repr

/-- A fault as it is reported: the name of its family and its wording. -/
def Fault.message (f : Fault) : String :=
  f.cause.category.name ++ ": " ++ f.cause.message

end ImportPolicy.Source
