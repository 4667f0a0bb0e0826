import ImportPolicy.Host.Service

/-!
# Sessions

A session is a host with policies put around it one after another. The host
keeps files and diagnostics in memory; both change from step to step, and so
does the row of policies, while the answers of the session are those of the
guarded service in its present state. Everything else that is asked of a
session goes to the host.

A step that has no outcome leaves the session as it is.
-/

namespace ImportPolicy

open Glob (Overflow)

/-- A host that keeps files and diagnostics in memory. -/
structure Host where
  /-- The files, by the keys they are asked for. -/
  files : List (String × SourceFile) := []
  /-- The diagnostics about all files. -/
  existing : List Diagnostic := []

namespace Host

/-- Sets the file under a key. -/
def put (host : Host) (key : String) (file : SourceFile) : Host :=
  { host with files := (key, file) :: host.files.filter (·.1 ≠ key) }

/-- Whether there is a file under a key. -/
def has (host : Host) (key : String) : Bool := host.files.any (·.1 = key)

/-- Removes the file under a key. -/
def drop (host : Host) (key : String) : Host :=
  { host with files := host.files.filter (·.1 ≠ key) }

/-- Adds diagnostics behind those there are. -/
def add (host : Host) (more : List Diagnostic) : Host :=
  { host with existing := host.existing ++ more }

/-- The host as a service: the diagnostics about a file are those that name
it. -/
def service (host : Host) : Service where
  sourceFile name := host.files.lookup name
  diagnostics name := pure (host.existing.filter (·.file = name))

/-- What the host proposes at a place of a file: the place itself. -/
def completions (_ : Host) (file : String) (position : Int) : String × Int := (file, position)

/-- The names of what a host can be asked. -/
def offers : List String :=
  ["get_source_file", "get_semantic_diagnostics", "get_completions", "files", "existing"]

end Host

/-- A session: a host and the policies put around it one after another. -/
structure Session where
  /-- The host. -/
  host : Host := {}
  /-- The policy that was put around it last. -/
  policy : Policy
  /-- The policies before it, the first one first. -/
  earlier : List Policy := []

namespace Session

/-- All policies, the innermost first. -/
def policies (s : Session) : List Policy := s.earlier ++ [s.policy]

/-- The service of a session. -/
def service (s : Session) : Service := s.host.service.guardAll s.policies

/-- What the host proposes at a place of a file. -/
def completions (s : Session) (file : String) (position : Int) : String × Int :=
  s.host.completions file position

/-- Whether a session can be asked something: for its policy, or for what its
host can be asked. -/
def isOffered (name : String) : Bool := name = "config" || Host.offers.contains name

/-- Puts one more policy around. -/
def wrap (s : Session) (policy : Policy) : Session :=
  { s with policy, earlier := s.policies }

/-- Replaces the diagnostics of the host by those of the service about one
file. -/
def absorb (s : Session) (file : String) : Except Overflow Session := do
  let found ← s.service.diagnostics file
  pure { s with host := { s.host with existing := found } }

/-- What changes a session. -/
inductive Step where
  | putFile (key : String) (file : SourceFile)
  | dropFile (key : String)
  | addDiagnostics (more : List Diagnostic)
  | absorb (file : String)
  | wrap (policy : Policy)
  deriving DecidableEq, Repr

/-- The session after a step that has an outcome. -/
def step (s : Session) : Step → Except Overflow Session
  | .putFile key file => pure { s with host := s.host.put key file }
  | .dropFile key => pure { s with host := s.host.drop key }
  | .addDiagnostics more => pure { s with host := s.host.add more }
  | .absorb file => s.absorb file
  | .wrap policy => pure (s.wrap policy)

/-- The session after a step. -/
def after (s : Session) (change : Step) : Session :=
  match s.step change with
  | .ok next => next
  | .error _ => s

/-- The session after some steps. -/
def run (s : Session) (changes : List Step) : Session := changes.foldl after s

end Session

end ImportPolicy
