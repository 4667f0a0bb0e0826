import ImportPolicy.Document.Json
import ImportPolicy.Document.Toml
import ImportPolicy.Environment.Basic
import ImportPolicy.Interruption
import ImportPolicy.Policy.Decode

/-!
# Finding and loading a policy

The table of a policy is taken from the first of these that applies: the
file that is asked for, the file that the environment names, a file of its
own in the root of the project, or a part of the project's own file there.
The first one that is there decides, also when it turns out to be faulty; a
fault is never passed over in favour of the next source.

A file is read as JSON if its name says so, and as TOML otherwise. Without
any configuration the policy has no rules, so that every import is reported.
-/

namespace ImportPolicy

open Document (Value Entries)

/-- Why a configuration is refused. -/
inductive ConfigFault where
  | unreadable (path : Path) (e : FileError)
  /-- The text is not a document; the message says where. -/
  | malformed (path : Path) (message : String)
  | notTable (path : Path)
  | toolNotTable (path : Path)
  | toolMissing (path : Path)
  | shape (f : DecodeFault)
  deriving Repr

/-- The wording of a fault. -/
def ConfigFault.message : ConfigFault → String
  | .unreadable path e =>
    "cannot read config " ++ path.toString ++ ": " ++ e.message (Text.quoted path.toString)
  | .malformed path message => "invalid config " ++ path.toString ++ ": " ++ message
  | .notTable path => "invalid config " ++ path.toString ++ ": top level must be a table/object"
  | .toolNotTable path => path.toString ++ ": [tool.importguard] must be a table"
  | .toolMissing path => path.toString ++ ": no [tool.importguard] table"
  | .shape f => f.message

/-- Why there is no policy. -/
inductive LoadFault where
  /-- The configuration is refused. -/
  | refused (f : ConfigFault)
  /-- The run ends. -/
  | interrupted (i : Interruption)
  deriving Repr

namespace Policy

/-- The table in the text of a JSON document. -/
def jsonTable (path : Path) (text : List Char) : Except LoadFault Entries :=
  match Document.Json.read text with
  | .ok (.table entries) => .ok entries
  | .ok _ => .error (.refused (.notTable path))
  | .error f => match f.problem with
    | .digits _ => .error (.interrupted (.number (f.message text)))
    | _ => .error (.refused (.malformed path (f.message text)))

/-- The table in the text of a TOML document. -/
def tomlTable (path : Path) (text : List Char) : Except LoadFault Entries :=
  match Document.Toml.read text with
  | .ok entries => .ok entries
  | .error f => match f.problem with
    | .digits _ => .error (.interrupted (.number (f.message text)))
    | _ => .error (.refused (.malformed path (f.message text)))

/-- The table in a file. -/
def readTable (w : Workspace) (path : Path) : Except LoadFault Entries :=
  if path.hasNul then .error (.interrupted (.path .nulOpened))
  else match w.readBytes path with
    | .error e => .error (.refused (.unreadable path e))
    | .ok bytes => match Text.Utf8.decode bytes with
      | .error f => .error (.interrupted (.encoding f))
      | .ok chars =>
        let text := Text.Lines.unify chars
        if path.suffix = ".json" then jsonTable path text else tomlTable path text

/-- The name of the project's own file. -/
def projectFile : String := "pyproject.toml"

/-- The name of the file for policies alone. -/
def policyFile : String := ".importguard.toml"

/-- The part of a table for this tool, if there is one. -/
def toolPart (path : Path) (entries : Entries) : Except LoadFault (Option Entries) :=
  match entries.get? "tool" with
  | some (.table tools) => match Entries.get? tools "importguard" with
    | none => .ok none
    | some (.table entries) => .ok (some entries)
    | some _ => .error (.refused (.toolNotTable path))
  | _ => .ok none

/-- The part for this tool of the table in a file, if there is one. -/
def readToolPart (w : Workspace) (path : Path) : Except LoadFault (Option Entries) := do
  let entries ← readTable w path
  toolPart path entries

/-- The file that is asked for, if one is: the argument, or else what the
environment names. -/
def requested (env : Environment) (config : Option Path) : Option Path :=
  match config with
  | some path => some path
  | none => (env.given? "IMPORTGUARD_CONFIG").map Path.ofString

/-- The table in a file that is asked for. A relative path that leads nowhere
from the working folder is taken from the root. -/
def requestedTable (w : Workspace) (root path : Path) : Except LoadFault (Path × Entries) := do
  let path := if !path.isAbsolute && !w.exists? path then root.join path else path
  if path.name = projectFile then
    match ← readToolPart w path with
    | some entries => .ok (path, entries)
    | none => .error (.refused (.toolMissing path))
  else
    let entries ← readTable w path
    .ok (path, entries)

/-- The table of a policy with the file it is in, if there is one. -/
def findTable (w : Workspace) (env : Environment) (root : Path) (config : Option Path) :
    Except LoadFault (Option (Path × Entries)) := do
  match requested env config with
  | some path => do
    let found ← requestedTable w root path
    .ok (some found)
  | none =>
    let own := root.child policyFile
    if w.exists? own then
      let entries ← readTable w own
      .ok (some (own, entries))
    else
      let shared := root.child projectFile
      if w.exists? shared then
        let entries ← readToolPart w shared
        .ok (entries.map (shared, ·))
      else .ok none

/-- The policy of a table that was found, or the one without rules, with a
remark on which it is. -/
def fromFound (env : Environment) (root : Path) :
    Option (Path × Entries) → Except LoadFault (Policy × Log.Record)
  | none =>
    .ok ({ name := (env.given? "IMPORTGUARD_SOURCE").getD defaultName },
      { severity := .warning, logger := Log.fullName "config",
        message := "importguard: no policy configured under " ++ root.toString
          ++ "; every import will be reported" })
  | some (path, entries) =>
    match Policy.decode entries (env.given? "IMPORTGUARD_SOURCE") with
    | .ok policy =>
      .ok (policy,
        { severity := .debug, logger := Log.fullName "config",
          message := "importguard: loaded " ++ toString policy.rules.length ++ " rule(s) from "
            ++ path.toString })
    | .error .longNumber =>
      .error (.interrupted (.number DecodeFault.longNumber.message))
    | .error f => .error (.refused (.shape f))

/-- The root of a project without links and dots. -/
def rootOf (w : Workspace) (root : Path) : Except LoadFault Path :=
  match w.resolve root with
  | .ok root => .ok root
  | .error t => .error (.interrupted (.path t))

/-- The file that the policy for a project comes from, if there is one. -/
def origin? (w : Workspace) (env : Environment) (root : Path) (config : Option Path) :
    Except LoadFault (Option Path) := do
  let root ← rootOf w root
  let found ← findTable w env root config
  .ok (found.map (·.1))

/-- Loads the policy for a project, with a remark on where it comes from. -/
def load (w : Workspace) (env : Environment) (root : Path) (config : Option Path) :
    Except LoadFault (Policy × Log.Record) := do
  let root ← rootOf w root
  let found ← findTable w env root config
  fromFound env root found

end Policy

end ImportPolicy
