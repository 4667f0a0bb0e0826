import ImportPolicy.Host.Diagnostic
import ImportPolicy.Policy.Evaluate

/-!
# Services and the policies around them

A service answers two questions about a file: what its source is, and what
there is to say about it. `Service.guard` puts a policy around a service. The
guarded service answers as before, except that it leaves out what was said
under the policy's own name and adds the violations of the policy.

Guarding can be repeated. The result has the violations of each policy once,
those of the policy applied last at the end, and a policy applied later under
the same name takes the place of an earlier one.
-/

namespace ImportPolicy

open Glob (Overflow)

/-- A source of answers about files. -/
structure Service where
  /-- The source of a file, if there is one under this name. -/
  sourceFile : String → Option SourceFile
  /-- What there is to say about a file. -/
  diagnostics : String → Except Overflow (List Diagnostic)

namespace Service

/-- The diagnostics that a policy adds to a file. -/
def policyDiagnostics (policy : Policy) : Option SourceFile →
    Except Overflow (List Diagnostic)
  | none => pure []
  | some file => do
    let found ← policy.evaluate file.name file.imports
    pure (found.map (·.toDiagnostic))

/-- The service with a policy around it. -/
def guard (service : Service) (policy : Policy) : Service where
  sourceFile := service.sourceFile
  diagnostics name := do
    let existing ← service.diagnostics name
    let added ← policyDiagnostics policy (service.sourceFile name)
    pure (existing.filter (·.source ≠ some policy.name) ++ added)

/-- The service with several policies around it, the first one innermost. -/
def guardAll (service : Service) (policies : List Policy) : Service :=
  policies.foldl guard service

end Service

end ImportPolicy
