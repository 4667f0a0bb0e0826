/-!
# Syntax trees

A parsed source is a tree of labelled nodes. The label says what construct a
node stands for and carries the names and values that are not constructs
themselves; the children are the constructs inside it, in a fixed order for
each label. Keeping one kind of node makes "everywhere in the tree" a plain
recursion: `Tree.preorder` lists a node before its children and the children
in order.

A node covers the text from its first token to its last. Lines are counted
from one and columns in bytes of UTF-8 from zero.
-/

namespace ImportPolicy.Source

/-- The stretch of text a node covers. -/
structure Span where
  /-- The line it starts on. -/
  line : Nat
  /-- The byte column it starts at. -/
  column : Nat
  /-- The line it ends on. -/
  endLine : Nat
  /-- The byte column it ends before. -/
  endColumn : Nat
  deriving Repr, DecidableEq, Inhabited

/-- The value of a literal. -/
inductive Literal where
  | none
  | true
  | false
  | ellipsis
  /-- A number; of its value only whether it is imaginary is kept. -/
  | number (imaginary : Bool)
  /-- A text. -/
  | text (value : String)
  /-- A sequence of bytes, whose value is not kept. -/
  | bytes
  deriving Repr, DecidableEq

/-- What a node stands for. -/
inductive Label where
  -- expressions
  | name (id : String)
  | literal (value : Literal)
  /-- A formatted string: literal texts and fields in order. -/
  | formatted
  /-- A replacement field: the expression, then the format if there is one. -/
  | field
  | attribute (id : String)
  /-- A subscript: the value, then what stands in the brackets. -/
  | subscript
  /-- A slice: the bounds and the step that are given. -/
  | slice
  /-- A call: the function, then the positional arguments, of which there
  are as many as the label says, then the named ones. -/
  | call (positional : Nat)
  /-- The arguments of a call by themselves, in the same order. -/
  | arguments (positional : Nat)
  /-- A named argument, or an unpacked mapping when it has no name. -/
  | argument (name : Option String)
  | starred
  | list
  | tuple
  | set
  /-- A mapping: the keys, then the values. -/
  | dict
  | listComprehension
  | setComprehension
  | dictComprehension
  | generator
  /-- A clause of a comprehension: the target, the iterable, the filters. -/
  | clause
  | boolean
  | binary
  | unary
  /-- A comparison; the label says whether its first operator is `in`. -/
  | compare (membership : Bool)
  /-- A conditional: the condition, the value if it holds, the value if
  not. -/
  | conditional
  /-- An anonymous function: the parameters, then the body. -/
  | lambda
  | named
  | await
  | yield
  | yieldFrom
  -- parameters
  | parameters
  /-- A parameter: its annotation if there is one. -/
  | parameter (name : String)
  -- statements
  | module
  | suite
  | expression
  /-- An import of modules: one `module` alias for each. -/
  | importModules
  /-- One imported module, with its dotted name. -/
  | alias (name : String)
  /-- An import from a module: the module's dotted name if there is one, and
  the number of dots before it. -/
  | importFrom (module : Option String) (level : Nat)
  /-- A statement of another kind, known by its keyword. -/
  | statement (keyword : String)
  /-- A handler of exceptions: the type if there is one, then the body. -/
  | handler
  /-- An item of a `with` statement: the value, then the target. -/
  | item
  /-- A case of a `match` statement: the pattern, the guard, the body. -/
  | case
  -- patterns
  | pattern
  deriving Repr, DecidableEq

/-- A syntax tree. -/
inductive Tree where
  /-- A node with its label, the text it covers and its children. -/
  | node (label : Label) (span : Span) (children : List Tree)
  deriving Repr

namespace Tree

instance : Inhabited Tree := ⟨.node .module default []⟩

/-- The label of the root. -/
def label : Tree → Label
  | node label _ _ => label

/-- The text the tree covers. -/
def span : Tree → Span
  | node _ span _ => span

/-- The subtrees right below the root. -/
def children : Tree → List Tree
  | node _ _ children => children

mutual

/-- Every subtree, a tree before its children and the children in order. -/
def preorder : Tree → List Tree
  | node label span children => node label span children :: preorderAll children

/-- Every subtree of a list of trees. -/
def preorderAll : List Tree → List Tree
  | [] => []
  | t :: rest => t.preorder ++ preorderAll rest

end

/-- The name of an expression in a message. -/
def describe (t : Tree) : String :=
  match t.label with
  | .attribute _ => "attribute"
  | .subscript => "subscript"
  | .starred => "starred"
  | .name _ => "name"
  | .list => "list"
  | .tuple => "tuple"
  | .lambda => "lambda"
  | .call _ => "function call"
  | .boolean | .binary | .unary => "expression"
  | .generator => "generator expression"
  | .yield | .yieldFrom => "yield expression"
  | .await => "await expression"
  | .listComprehension => "list comprehension"
  | .setComprehension => "set comprehension"
  | .dictComprehension => "dict comprehension"
  | .dict => "dict literal"
  | .set => "set display"
  | .formatted | .field => "f-string expression"
  | .literal .none => "None"
  | .literal .true => "True"
  | .literal .false => "False"
  | .literal .ellipsis => "ellipsis"
  | .literal _ => "literal"
  | .compare _ => "comparison"
  | .conditional => "conditional expression"
  | .named => "named expression"
  | _ => "expression"

end Tree

/-- The places where an expression is used as a target. -/
inductive TargetUse where
  | assign
  | loop
  | delete
  deriving DecidableEq, Repr

mutual

/-- The first part of an expression that cannot be a target. Lists and
tuples are searched from the left; behind a `for` the left side of `a in b`
is the target. -/
def Tree.badTarget (use : TargetUse) : Tree → Option Tree
  | .node .list _ children => Tree.badTargets use children
  | .node .tuple _ children => Tree.badTargets use children
  | .node .starred span children =>
    if use = .delete then some (.node .starred span children)
    else Tree.badTargets use children
  | .node (.compare membership) span children =>
    if use = .loop then
      if membership then
        match children with
        | left :: _ => left.badTarget use
        | [] => none
      else none
    else some (.node (.compare membership) span children)
  | .node (.name _) _ _ | .node .subscript _ _ | .node (.attribute _) _ _ => none
  | t => some t

/-- The first bad target among several expressions. -/
def Tree.badTargets (use : TargetUse) : List Tree → Option Tree
  | [] => none
  | t :: rest => match t.badTarget use with
    | some bad => some bad
    | none => Tree.badTargets use rest

end

end ImportPolicy.Source
