import ImportPolicy.Occurrence
import ImportPolicy.Text.Lines
import ImportPolicy.Source.Module

/-!
# Imports of a source text

Three constructs import a module: an import of modules, an import from a
module, and a call of an importing function whose first argument is a string
literal. They are found everywhere in the tree of a text and listed in the
order of the text.

The tree says where a construct starts, and the specifier is then looked for
in the text itself: an occurrence gets a place only if the text there *is*
the specifier. Where it cannot be found – the module's name is written with
blanks around its dots, the string is put together from several – the
occurrence has no known place.

The recursion limit is put aside: trees of every depth are made and walked
through here, also those so deep that the parser or the walk would break
off.
-/

namespace ImportPolicy.Source

/-- The stretch of `text` from `start` on, if it is the specifier. -/
def located (text : List Char) (specifier : String) (start : Nat) : Occurrence :=
  let stop := start + specifier.toList.length
  if (text.drop start).take specifier.toList.length = specifier.toList then
    ⟨specifier, start, stop⟩
  else .unknown specifier

/-- How many characters the gap behind `from` takes: blanks, tabs and form
feeds, and continued lines. -/
def gapLength : List Char → Nat
  | '\\' :: '\n' :: rest => gapLength rest + 2
  | '\\' :: '\r' :: '\n' :: rest => gapLength rest + 3
  | c :: rest => if c = ' ' ∨ c = '\t' ∨ c = '\x0c' then gapLength rest + 1 else 0
  | [] => 0

/-- An import from a module whose `from` stands at `start`. -/
def locatedBehindFrom (text : List Char) (specifier : String) (start : Nat) : Occurrence :=
  let behind := start + "from".length
  match gapLength (text.drop behind) with
  | 0 => .unknown specifier
  | gap => located text specifier (behind + gap)

/-- A string literal that covers the text from `start` to `stop`: its place
is known if what stands between the quotes is its value. -/
def locatedLiteral (text : List Char) (value : String) (start stop : Nat) : Occurrence :=
  match (text.drop start).take (stop - start) with
  | first :: second :: rest =>
    let inner := second :: rest
    if (first = '\'' ∨ first = '"') ∧ inner.getLast? = some first
        ∧ inner.dropLast = value.toList then
      ⟨value, (start : Int) + 1, (stop : Int) - 1⟩
    else .unknown value
  | _ => .unknown value

/-- Whether an expression is one of the importing functions. -/
def isImporter (function : Tree) : Bool :=
  match function with
  | .node (.name id) _ _ => id = "import_module" ∨ id = "__import__"
  | .node (.attribute "import_module") _ [.node (.name "importlib") _ _] => true
  | _ => false

/-- The specifier of an import from a module. -/
def fromSpecifier (module : Option String) (level : Nat) : String :=
  String.ofList (List.replicate level '.') ++ module.getD ""

/-- An occurrence with the place of the construct it comes from. -/
structure Found where
  /-- The line of the construct. -/
  line : Nat
  /-- The byte column of the construct. -/
  column : Nat
  /-- The occurrence. -/
  occurrence : Occurrence
  deriving DecidableEq, Repr

/-- Whether one construct starts no later than another. -/
def Found.notAfter (a b : Found) : Bool :=
  a.line < b.line || (a.line == b.line && a.column ≤ b.column)

/-- The import of one module. -/
def aliasFound (text : List Char) : Tree → Option Found
  | .node (.alias name) span _ =>
    some ⟨span.line, span.column,
      located text name (Text.Lines.offset text span.line span.column)⟩
  | _ => none

/-- The imports that a node itself makes, whatever stands below it. -/
def nodeFound (text : List Char) : Tree → List Found
  | .node .importModules _ modules => modules.filterMap (aliasFound text)
  | .node (.importFrom module level) span _ =>
    [⟨span.line, span.column,
      locatedBehindFrom text (fromSpecifier module level)
        (Text.Lines.offset text span.line span.column)⟩]
  | .node (.call (_ + 1)) span (function :: .node (.literal (.text value)) place _ :: _) =>
    if isImporter function then
      [⟨span.line, span.column,
        if place.line = place.endLine then
          locatedLiteral text value (Text.Lines.offset text place.line place.column)
            (Text.Lines.offset text place.endLine place.endColumn)
        else .unknown value⟩]
    else []
  | _ => []

/-- The imports of a tree, in the order of the text. -/
def Tree.imports (text : List Char) (tree : Tree) : List Occurrence :=
  ((tree.preorder.flatMap (nodeFound text)).mergeSort Found.notAfter).map (·.occurrence)

/-- The mark that can stand before a text to tell its encoding. -/
def byteOrderMark : Char := '\uFEFF'

/-- The imports of a text without a byte order mark; a text that is refused
has none. -/
def importsOf [CharacterNames] (text : List Char) : List Occurrence :=
  match parse (String.ofList text) with
  | .ok tree => tree.imports text
  | .error _ => []

/-- The imports of a text. Byte order marks before it are skipped, and the
places still count them. -/
def imports [CharacterNames] : List Char → List Occurrence
  | [] => importsOf []
  | c :: rest =>
    if c = byteOrderMark then (imports rest).map (·.shift 1) else importsOf (c :: rest)

end ImportPolicy.Source
