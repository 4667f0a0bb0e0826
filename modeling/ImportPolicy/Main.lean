import ImportPolicy.Command.Run

/-!
# The program

The outer layer. It takes up the part of the file system that a request can
reach, runs the command on it, and writes what the command says.

A link is taken up with the place that it leads to in the end as its target.
Of the files that only happen to stand in the project, those are read that
can be sources or hold settings.
-/

namespace ImportPolicy

/-- Whether a file is read when it is met in a folder. -/
def isRead (name : String) : Bool :=
  [".py", ".toml", ".json"].contains (Path.ofString name).suffix
    || name = Command.assignmentsFile || Project.isSourceName name

/-- What stands at a path, with all that is below it. -/
partial def nodeAt (path : String) (isWhole : Bool) : IO (Option Node) := do
  let file := (← IO.currentDir) / path
  try
    match (← file.symlinkMetadata).type with
    | .dir =>
      let entries ← (← file.readDir).toList.filterMapM fun entry => do
        let node ← nodeAt (path ++ "/" ++ entry.fileName) (isRead entry.fileName)
        return node.map (entry.fileName, ·)
      return some (.folder entries)
    | .symlink =>
      let target ← try pure (← IO.FS.realPath file).toString catch _ => pure ""
      return some (.link target)
    | .file =>
      if isWhole then return some (.file (← IO.FS.readBinFile file).toList)
      else return some (.file [])
    | .other => return none
  catch _ => return none

/-- Takes up what stands at a path. If links lead there, its own place gets a
link to the place it stands at. -/
def takeUp (tree : Node) (path : String) : IO Node := do
  let file := (← IO.currentDir) / path
  let real ← try pure (← IO.FS.realPath file).toString catch _ => pure file.toString
  let here := (Path.ofString file.toString).normal.parts
  let there := (Path.ofString real).parts
  match ← nodeAt real true with
  | none => return tree
  | some node =>
    let tree := tree.put node there
    return if here = there then tree else tree.put (.link real) here

/-- The variables with the given names that are set. -/
def environmentOf (names : List String) : IO Environment :=
  names.eraseDups.filterMapM fun name => return (← IO.getEnv name).map (name, ·)

/-- The paths that a request can reach: the root of the project, and the file
with the policy as seen from the working folder and from the root. -/
def reachable (env : Environment) (arguments : List String) : List String :=
  match Command.request arguments with
  | .error _ => []
  | .ok r =>
    let root := Path.ofString r.settings.path
    let config := Policy.requested env (r.settings.config.map Path.ofString)
    root.toString :: (config.toList.flatMap fun path =>
      [path.toString, (root.join path).toString])

/-- Writes what a run says, and gives its exit code. -/
def report (outcome : Except Interruption Command.Outcome) : IO UInt32 := do
  match outcome with
  | .ok o =>
    IO.print o.output
    IO.eprint o.errors
    return o.code.toUInt32
  | .error i =>
    IO.eprintln i.message
    return 1

end ImportPolicy

open ImportPolicy in
/-- Runs the program. -/
def main (arguments : List String) : IO UInt32 := do
  let here := (Path.ofString (← IO.currentDir).toString).parts
  let start ← takeUp (.folder []) Command.assignmentsFile
  let statements := match Command.assignmentsText { files := start, here } with
    | .ok text => Environment.Statement.readAll text
    | .error _ => []
  let env ← environmentOf (["IMPORTGUARD_CONFIG", "IMPORTGUARD_SOURCE", Log.levelName,
    Environment.switchName] ++ statements.flatMap (·.mentioned))
  let prepared := match Command.prepare { files := start, here } env with
    | .ok (env, _) => env
    | .error _ => env
  let tree ← (reachable prepared arguments).foldlM takeUp start
  let tree ← takeUp tree Command.assignmentsFile
  report (Command.run { files := tree, here } env arguments)
