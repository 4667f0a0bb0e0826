import ImportPolicy.Files.Path

/-!
# File trees

A file tree is a folder with files, links and further folders. A place in it
is the row of names that leads there from the root without links and dots;
`walk` finds the place that a row of names leads to when links are followed,
and `settle` does so without asking that the place exists.
-/

namespace ImportPolicy

/-- What stands at a place of a file tree. -/
inductive Node where
  /-- A file with its bytes. -/
  | file (bytes : List UInt8)
  /-- A link to somewhere else. -/
  | link (target : String)
  /-- A folder with what is in it. -/
  | folder (entries : List (String × Node))

/-- A place: the names that lead to it from the root. -/
abbrev Place := List String

/-- Why a file cannot be reached or read. -/
inductive FileError where
  | missing
  | notFolder
  | isFolder
  | linkLoop
  deriving DecidableEq, Repr

/-- The wording of an error about a path. -/
def FileError.message (e : FileError) (shown : String) : String :=
  let text := match e with
    | .missing => "[Errno 2] No such file or directory: "
    | .notFolder => "[Errno 20] Not a directory: "
    | .isFolder => "[Errno 21] Is a directory: "
    | .linkLoop => "[Errno 40] Too many levels of symbolic links: "
  text ++ shown

namespace Node

/-- The entry of a folder with the given name. -/
def child? (node : Node) (name : String) : Option Node :=
  match node with
  | folder entries => entries.lookup name
  | _ => none

/-- What stands at a place. -/
def at? (node : Node) : Place → Option Node
  | [] => some node
  | name :: more => match node.child? name with
    | some inner => inner.at? more
    | none => none

/-- Whether a folder is at a place. -/
def isFolderAt (node : Node) (place : Place) : Bool :=
  match node.at? place with
  | some (folder _) => true
  | _ => false

/-- Whether a text names an absolute target. -/
def isAbsoluteTarget (target : String) : Bool := target.toList.head? = some '/'

/-- The place that a row of names leads to from `here`. Every name is looked
up in a folder. A link is handed to `onLink` with its place, its target and
the names behind it, unless it is the last name and `followLast` does not
hold. -/
def walkWith (root : Node) (followLast : Bool)
    (onLink : Place → String → List String → Except FileError Place) :
    Place → List String → Except FileError Place
  | here, [] => .ok here
  | here, name :: rest =>
    if !root.isFolderAt here then .error .notFolder
    else if name = "" ∨ name = "." then walkWith root followLast onLink here rest
    else if name = ".." then walkWith root followLast onLink here.dropLast rest
    else
      let next := here ++ [name]
      match root.at? next with
      | none => .error .missing
      | some (link target) =>
        if followLast || !rest.isEmpty then onLink here target rest
        else .ok next
      | some _ => walkWith root followLast onLink next rest

/-- How many links are followed on one way. -/
def mostLinks : Nat := 40

/-- The place that a row of names leads to, following at most the given
number of links. -/
def walkWithin (root : Node) (followLast : Bool) : Nat → Place → List String →
    Except FileError Place
  | 0 => walkWith root followLast fun _ _ _ => .error .linkLoop
  | n + 1 => walkWith root followLast fun here target rest =>
    if target = "" then .error .missing
    else walkWithin root followLast n (if isAbsoluteTarget target then [] else here)
      (Path.names target ++ rest)

/-- The place that a row of names leads to from a place. -/
def walk (root : Node) (here : Place) (names : List String) : Except FileError Place :=
  walkWithin root true mostLinks here names

/-- Adds the names of a row to a settled place. A link is settled by `inner`
before the row goes on; `active` holds the places of the links that are being
settled, and a link among them is a loop, where settling stops. -/
def settleWith (root : Node) (inner : List Place → Place → List String → Place × Bool)
    (active : List Place) : Place → List String → Place × Bool
  | done, [] => (done, true)
  | done, name :: rest =>
    if name = "" ∨ name = "." then settleWith root inner active done rest
    else if name = ".." then settleWith root inner active done.dropLast rest
    else
      let next := done ++ [name]
      match root.at? next with
      | some (link target) =>
        if active.contains next then (next ++ rest, false)
        else
          let start := if isAbsoluteTarget target then [] else done
          match inner (next :: active) start (Path.names target) with
          | (place, true) => settleWith root inner active place rest
          | (place, false) => (place ++ rest, false)
      | _ => settleWith root inner active next rest

/-- The same, with a bound on how deep links can lead to further links. -/
def settleWithin (root : Node) : Nat → List Place → Place → List String → Place × Bool
  | 0 => settleWith root fun _ place rest => (place ++ rest, false)
  | n + 1 => settleWith root (settleWithin root n)

mutual

/-- How many links there are in a tree. -/
def linkCount : Node → Nat
  | file _ => 0
  | link _ => 1
  | folder entries => entryLinkCount entries

/-- How many links there are in the entries of a folder. -/
def entryLinkCount : List (String × Node) → Nat
  | [] => 0
  | (_, node) :: more => node.linkCount + entryLinkCount more

end

/-- The place that a row of names leads to from a place. Links are followed,
and names that lead nowhere are kept. Where settling stops at a loop, the
names behind it are still as they were written. -/
def settle (root : Node) (here : Place) (names : List String) : Place :=
  Path.lexical [] ((settleWithin root (root.linkCount + 1) [] here names).1.filter Path.isName)

mutual

/-- The places below a folder, each folder before what is in it. Links are
not followed. -/
def placesBelow (here : Place) : Node → List Place
  | folder entries => entryPlaces here entries
  | _ => []

/-- The places of some entries of a folder and of what is below them. -/
def entryPlaces (here : Place) : List (String × Node) → List Place
  | [] => []
  | (name, node) :: more =>
    (here ++ [name]) :: placesBelow (here ++ [name]) node ++ entryPlaces here more

end

/-! ## Changes -/

/-- Sets the entry of a folder with the given name. -/
def setEntry (name : String) (node : Node) : List (String × Node) → List (String × Node)
  | [] => [(name, node)]
  | (key, inner) :: more =>
    if key = name then (key, node) :: more else (key, inner) :: setEntry name node more

/-- The entries of a folder; other nodes have none. -/
def entries : Node → List (String × Node)
  | folder entries => entries
  | _ => []

/-- Puts a node at a place, making the folders on the way. -/
def put (node new : Node) : Place → Node
  | [] => new
  | name :: more =>
    folder (setEntry name (((node.child? name).getD (folder [])).put new more) node.entries)

/-- Removes what stands at a place. -/
def erase (node : Node) : Place → Node
  | [] => node
  | [name] => folder (node.entries.filter (·.1 ≠ name))
  | name :: more =>
    match node.child? name with
    | some inner => folder (setEntry name (inner.erase more) node.entries)
    | none => node

end Node

end ImportPolicy
