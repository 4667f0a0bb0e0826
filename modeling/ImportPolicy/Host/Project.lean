import ImportPolicy.Files.Workspace
import ImportPolicy.Host.Service
import ImportPolicy.Source.Imports

/-!
# Projects

A project is the part of a file tree below a root. It answers questions about
its source files, and so is the service that policies are put around.

A file is known by its path from the root. Links at the end of the path are
not followed, so a link inside the project keeps the name it has there. The
name is found without looking at the tree if the path leads below the root as
it is written; otherwise the folder of the file is resolved first. A file
outside the root keeps its path.
-/

namespace ImportPolicy

/-- A file tree and the root of a project in it. -/
structure Project where
  /-- The file tree. -/
  work : Workspace
  /-- The root, without links and dots. -/
  root : Path

namespace Project

/-- The project at a path. -/
def atPath (w : Workspace) (path : Path) : Except PathTrouble Project := do
  let root ← w.resolve path
  .ok { work := w, root }

/-- The path that a file name stands for. -/
def locate (p : Project) (name : String) : Path := p.root.join (.ofString name)

/-- The path of a file after its folder has been resolved. -/
def throughFolder (p : Project) (path : Path) : Path :=
  (Path.ofParts (p.work.settled path.parent)).join ⟨.relative, path.parts.getLast?.toList⟩

/-- The name by which a file is known. -/
def identity (p : Project) (name : String) : String :=
  let path := p.locate name
  match path.normal.relativeTo? p.root with
  | some inner => inner.toString
  | none => match (p.throughFolder path).relativeTo? p.root with
    | some inner => inner.toString
    | none => path.toString

/-- Why the name of a file cannot be found, if it cannot. -/
def identityTrouble? (p : Project) (name : String) : Option PathTrouble :=
  match p.work.resolve (p.locate name).parent with
  | .ok _ => none
  | .error t => some t

/-- Why a file cannot be asked for, if it cannot. -/
def trouble? (p : Project) (name : String) : Option PathTrouble :=
  if (p.locate name).hasNul then some .nulOpened else none

/-- The text of a file. A byte order mark at its start is dropped, and so are
the differences between line breaks. -/
def text? (p : Project) (name : String) : Option (List Char) :=
  if (p.trouble? name).isSome then none
  else match p.work.readBytes (p.locate name) with
    | .error _ => none
    | .ok bytes => match Text.Utf8.decodeMarked bytes with
      | .error _ => none
      | .ok chars => some (Text.Lines.unify chars)

/-- A file with its text and imports. -/
def sourceFile [CharacterNames] (p : Project) (name : String) : Option SourceFile :=
  (p.text? name).map fun text =>
    { name := p.identity name, text := String.ofList text, imports := Source.imports text }

/-- The name under which syntax errors are reported. -/
def syntaxSource : String := "python"

/-- The place of a fault in a text. -/
def faultStart (text : List Char) (f : Source.Fault) : Nat :=
  let start := match f.line with
    | 0 => 0
    | line + 1 => match (Text.Lines.starts text)[line]? with
      | some start => start + (f.column - 1).toNat
      | none => 0
  min start text.length

/-- The text that is parsed: a byte order mark is left out. -/
def parsedText (text : List Char) : List Char :=
  match text with
  | c :: rest => if c = Source.byteOrderMark then rest else text
  | [] => text

/-- What is wrong with the text of a file. -/
def syntaxDiagnostics [CharacterNames] (p : Project) (name : String) : List Diagnostic :=
  match p.text? name with
  | none => []
  | some text => match Source.parse (String.ofList (parsedText text)) with
    | .ok _ => []
    | .error f =>
      [{ file := p.identity name, start := faultStart text f, length := 0,
         message := f.message, category := .error, code := 0, source := some syntaxSource }]

/-- The project as a service. -/
def service [CharacterNames] (p : Project) : Service where
  sourceFile := p.sourceFile
  diagnostics name := pure (p.syntaxDiagnostics name)

end Project

end ImportPolicy
