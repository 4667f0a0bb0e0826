/-!
# Tokens of a source text

A source text is read as a sequence of tokens: names, keywords, literals and
operators, the end of each logical line, and the marks that open and close
an indented block. Marks and the token that ends the text take no room: they
have no column of their own, and a fault at one of them points to how far
the line had been read (`Token.reach`).

Lines are counted from one and columns in bytes of UTF-8 from zero.
-/

namespace ImportPolicy.Source

/-- The kinds of token. -/
inductive TokenKind where
  | name
  | keyword
  | number
  | string
  | operator
  | newline
  | indent
  | dedent
  | finish
  deriving DecidableEq, Repr, Inhabited

/-- A token with the place it takes in the text. -/
structure Token where
  /-- What kind of token it is. -/
  kind : TokenKind
  /-- The characters of the token. -/
  text : String
  /-- The line the token starts on. -/
  line : Nat
  /-- The byte column the token starts at, unless it takes no room. -/
  column : Option Nat
  /-- The line the token ends on. -/
  endLine : Nat
  /-- The byte column the token ends before. -/
  endColumn : Nat
  /-- How many bytes of the last line had been read with the token. -/
  reach : Nat
  /-- How many brackets are open behind the token. -/
  depth : Nat
  deriving Repr, Inhabited

/-- Words that cannot be used as names. -/
def keywords : List String :=
  ["False", "None", "True", "and", "as", "assert", "async", "await", "break", "class",
    "continue", "def", "del", "elif", "else", "except", "finally", "for", "from", "global",
    "if", "import", "in", "is", "lambda", "nonlocal", "not", "or", "pass", "raise", "return",
    "try", "while", "with", "yield"]

/-- Words that are names except at the places where the grammar asks for
them. -/
def softKeywords : List String := ["_", "case", "match"]

namespace Token

/-- Whether the token is the given keyword or operator. -/
def is (t : Token) (text : String) : Bool :=
  (t.kind == .operator || t.kind == .keyword) && t.text == text

/-- Whether the token is a name with the given spelling. -/
def isName (t : Token) (text : String) : Bool :=
  t.kind == .name && t.text == text

end Token

end ImportPolicy.Source
