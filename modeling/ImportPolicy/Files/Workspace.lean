import ImportPolicy.Files.Tree
import ImportPolicy.Text.Lines
import ImportPolicy.Text.Quoted
import ImportPolicy.Text.Utf8

/-!
# Reading from a file tree

A workspace is a file tree with a folder to work in. Relative paths start in
that folder. A path that holds a NUL character names nothing and cannot even
be asked for, and neither can one whose links lead in a circle be resolved;
both are reported apart from files that are merely missing (`PathTrouble`).
-/

namespace ImportPolicy

/-- Why nothing can be asked about a path. -/
inductive PathTrouble where
  /-- A file with a NUL in its path was to be opened. -/
  | nulOpened
  /-- A path with a NUL in it was to be resolved. -/
  | nulResolved
  /-- The links on a path lead in a circle. -/
  | linkLoop (path : Path)
  deriving DecidableEq, Repr

/-- The wording of a trouble. -/
def PathTrouble.message : PathTrouble → String
  | .nulOpened => "embedded null byte"
  | .nulResolved => "lstat: embedded null character in path"
  | .linkLoop path => "Symlink loop from " ++ Text.quoted path.toString

/-- Whether a path holds a NUL character. -/
def Path.hasNul (p : Path) : Bool := p.parts.any fun part => part.toList.contains (Char.ofNat 0)

/-- A file tree and the folder to work in. -/
structure Workspace where
  /-- The whole tree. -/
  files : Node
  /-- The folder that relative paths start in. -/
  here : Place := []

namespace Workspace

/-- Where a path starts. -/
def origin (w : Workspace) (path : Path) : Place := if path.isAbsolute then [] else w.here

/-- What a path leads to, links followed. -/
def find (w : Workspace) (path : Path) : Except FileError Node := do
  let place ← w.files.walk (w.origin path) path.parts
  match w.files.at? place with
  | some node => .ok node
  | none => .error .missing

/-- Whether a path leads to something. -/
def exists? (w : Workspace) (path : Path) : Bool :=
  !path.hasNul && match w.find path with
    | .ok _ => true
    | .error _ => false

/-- Whether a path leads to a folder. -/
def isFolder (w : Workspace) (path : Path) : Bool :=
  !path.hasNul && match w.find path with
    | .ok (.folder _) => true
    | _ => false

/-- The bytes of a file. -/
def readBytes (w : Workspace) (path : Path) : Except FileError (List UInt8) := do
  match ← w.find path with
  | .file bytes => .ok bytes
  | _ => .error .isFolder

/-- The place a path leads to, whether there is something or not. -/
def settled (w : Workspace) (path : Path) : Place := w.files.settle (w.origin path) path.parts

/-- The absolute path without links and dots that a path stands for. -/
def resolve (w : Workspace) (path : Path) : Except PathTrouble Path :=
  if path.hasNul then .error .nulResolved
  else
    let place := w.settled path
    match w.files.walk [] place with
    | .error .linkLoop => .error (.linkLoop (.ofParts place))
    | _ => .ok (.ofParts place)

/-! ## Changes -/

/-- The place of the entry that a path names: its folder is settled, and a
link at its end is not followed. -/
def entryPlace (w : Workspace) (path : Path) : Place :=
  w.settled path.parent ++ path.parts.getLast?.toList

/-- Writes a file. A link at the end of the path is followed. -/
def write (w : Workspace) (path : Path) (bytes : List UInt8) : Workspace :=
  { w with files := w.files.put (.file bytes) (w.settled path) }

/-- Makes a link. -/
def makeLink (w : Workspace) (path : Path) (target : String) : Workspace :=
  { w with files := w.files.put (.link target) (w.entryPlace path) }

/-- Makes a folder, unless there is one. -/
def makeFolder (w : Workspace) (path : Path) : Workspace :=
  if w.isFolder path then w else { w with files := w.files.put (.folder []) (w.settled path) }

/-- Removes the entry that a path names. -/
def remove (w : Workspace) (path : Path) : Workspace :=
  { w with files := w.files.erase (w.entryPlace path) }

end Workspace

end ImportPolicy
