import ImportPolicy.Host.Session
import ImportPolicy.Proofs.Policy.Violations

/-!
# The normal form of a stack of policies

Every policy of a stack takes away what was said under its name and adds its
own violations, so what an inner policy adds can be taken away again further
out. Written out, little of this is left: the host's diagnostics under names
that no policy has, and then the violations of those policies that *last*,
which no later policy of the same name replaces.

The induction runs over the stack from the inside. One layer changes the
service below the rest, and so the statement is about every service and
whatever that service says (`guardAll_diagnostics`); the host's own answers
come in only at the end.
-/

namespace ImportPolicy.Service

open Glob (Overflow)

/-- The policies of a stack, innermost first, that no later one of the same
name replaces. -/
def lasting : List Policy → List Policy
  | [] => []
  | policy :: later =>
    if later.any (·.name = policy.name) then lasting later else policy :: lasting later

/-- The diagnostics under a name that none of the policies has. -/
def foreign (policies : List Policy) (ds : List Diagnostic) : List Diagnostic :=
  ds.filter fun d => policies.all fun policy => d.source ≠ some policy.name

@[simp] theorem foreign_nil (ds : List Diagnostic) : foreign [] ds = ds :=
  List.filter_eq_self.mpr (fun _ _ => rfl)

/-- Taking away the names of a stack is taking away the innermost one and
then the others. -/
theorem foreign_cons (policy : Policy) (later : List Policy) (ds : List Diagnostic) :
    foreign (policy :: later) ds = foreign later (ds.filter (·.source ≠ some policy.name)) := by
  unfold foreign
  rw [List.filter_filter]
  refine List.filter_congr (fun d _ => ?_)
  rw [List.all_cons, Bool.and_comm]

theorem foreign_append (policies : List Policy) (ds es : List Diagnostic) :
    foreign policies (ds ++ es) = foreign policies ds ++ foreign policies es :=
  List.filter_append _ _

/-- Of what a policy adds, the policies further out leave all or nothing:
it all carries the one name. -/
theorem foreign_of_source {policy : Policy} {later : List Policy} {ds : List Diagnostic}
    (h : ∀ d ∈ ds, d.source = some policy.name) :
    foreign later ds = if later.any (·.name = policy.name) then [] else ds := by
  unfold foreign
  by_cases hlater : later.any (·.name = policy.name) = true
  · rw [if_pos hlater, List.filter_eq_nil_iff]
    intro d hd hall
    obtain ⟨other, hother, hname⟩ := List.any_eq_true.mp hlater
    have hne := List.all_eq_true.mp hall other hother
    rw [h d hd, of_decide_eq_true hname] at hne
    simp at hne
  · rw [if_neg hlater, List.filter_eq_self]
    intro d hd
    rw [List.all_eq_true]
    intro other hother
    have hne : other.name ≠ policy.name := fun heq =>
      hlater (List.any_eq_true.mpr ⟨other, hother, decide_eq_true heq⟩)
    rw [h d hd]
    simpa using hne.symm

/-- One layer: what was said is kept as far as it is under another name. -/
theorem guard_diagnostics {service : Service} {policy : Policy} {name : String}
    {existing added : List Diagnostic} (hexisting : service.diagnostics name = .ok existing)
    (hadded : policyDiagnostics policy (service.sourceFile name) = .ok added) :
    (service.guard policy).diagnostics name
      = .ok (existing.filter (·.source ≠ some policy.name) ++ added) := by
  show (service.diagnostics name >>= fun existing =>
    policyDiagnostics policy (service.sourceFile name) >>= fun added =>
      pure (existing.filter (·.source ≠ some policy.name) ++ added)) = _
  rw [hexisting, hadded]
  rfl

theorem policyDiagnostics_some {policy : Policy} {source : SourceFile} {found : List Violation}
    (h : policy.evaluate source.name source.imports = .ok found) :
    policyDiagnostics policy (some source) = .ok (found.map (·.toDiagnostic)) := by
  rw [policyDiagnostics, h]
  rfl

/-- **The diagnostics of a stack**, over any service: what is said under
other names, then what the lasting policies add. -/
theorem guardAll_diagnostics {service : Service} {name : String} {existing : List Diagnostic}
    {policies : List Policy} {added : Policy → List Diagnostic}
    (hexisting : service.diagnostics name = .ok existing)
    (hadded : ∀ policy ∈ policies,
      policyDiagnostics policy (service.sourceFile name) = .ok (added policy))
    (hsource : ∀ policy ∈ policies, ∀ d ∈ added policy, d.source = some policy.name) :
    (service.guardAll policies).diagnostics name
      = .ok (foreign policies existing ++ (lasting policies).flatMap added) := by
  induction policies generalizing service existing with
  | nil => simpa [guardAll, lasting] using hexisting
  | cons policy later ih =>
    have hfirst := guard_diagnostics hexisting (hadded policy List.mem_cons_self)
    have hrest := ih hfirst (fun other hother => hadded other (List.mem_cons_of_mem _ hother))
      (fun other hother => hsource other (List.mem_cons_of_mem _ hother))
    rw [show service.guardAll (policy :: later) = (service.guard policy).guardAll later from rfl,
      hrest, foreign_append, ← foreign_cons,
      foreign_of_source (hsource policy List.mem_cons_self), List.append_assoc]
    -- the innermost policy lasts exactly when its own violations are left
    by_cases hlater : later.any (·.name = policy.name) = true
    · rw [lasting, if_pos hlater, if_pos hlater, List.nil_append]
    · rw [lasting, if_neg hlater, if_neg hlater, List.flatMap_cons]

/-- What a policy adds to a file, given its violations there. -/
def fresh (file : Option SourceFile) (found : Policy → List Violation) (policy : Policy) :
    List Diagnostic :=
  if file.isSome then (found policy).map (·.toDiagnostic) else []

theorem policyDiagnostics_eq_fresh {policy : Policy} {file : Option SourceFile}
    {found : Policy → List Violation}
    (h : ∀ source, file = some source →
      policy.evaluate source.name source.imports = .ok (found policy)) :
    policyDiagnostics policy file = .ok (fresh file found policy) := by
  cases file with
  | none => rfl
  | some source => exact policyDiagnostics_some (h source rfl)

theorem source_of_mem_fresh {policy : Policy} {file : Option SourceFile}
    {found : Policy → List Violation}
    (h : ∀ source, file = some source →
      policy.evaluate source.name source.imports = .ok (found policy))
    {d : Diagnostic} (hd : d ∈ fresh file found policy) : d.source = some policy.name := by
  cases file with
  | none => simp [fresh] at hd
  | some source =>
    obtain ⟨v, hv, rfl⟩ := List.mem_map.mp hd
    exact congrArg some (Policy.source_of_mem_evaluate (h source rfl) hv)

/-! ## Over a host -/

/-- What a host says about a file, as far as it is under foreign names. -/
theorem foreign_existing (host : Host) (name : String) (policies : List Policy) :
    foreign policies (host.existing.filter (·.file = name))
      = host.existing.filter fun d =>
          d.file = name ∧ ∀ policy ∈ policies, d.source ≠ some policy.name := by
  unfold foreign
  rw [List.filter_filter]
  refine List.filter_congr (fun d _ => ?_)
  rw [Bool.eq_iff_iff]
  simp [and_comm]

theorem flatMap_fresh (file : Option SourceFile) (found : Policy → List Violation)
    (policies : List Policy) :
    policies.flatMap (fresh file found)
      = if file.isSome then policies.flatMap fun policy => (found policy).map (·.toDiagnostic)
        else [] := by
  cases file with
  | none => simp [fresh]
  | some source => rfl

/-- **Normal form of a stack of policies around a host.** Where every policy
has an answer for the file, so has the stack: the host's diagnostics about
the file under names that no policy of the stack has, in the host's order,
then, from the inside out, the violations of each policy that no later one of
the same name replaces – nothing of these if the host has no source for the
file. A diagnostic of the host that names no tool is always kept. -/
theorem stack_diagnostics (host : Host) (name : String) (policies : List Policy)
    (found : Policy → List Violation)
    (hfound : ∀ policy ∈ policies, ∀ source, host.service.sourceFile name = some source →
      policy.evaluate source.name source.imports = .ok (found policy)) :
    ∃ answer, (host.service.guardAll policies).diagnostics name = .ok answer
      ∧ answer
        = (host.existing.filter fun d =>
            d.file = name ∧ ∀ policy ∈ policies, d.source ≠ some policy.name)
          ++ (if (host.service.sourceFile name).isSome then
              (lasting policies).flatMap fun policy => (found policy).map (·.toDiagnostic)
            else [])
      ∧ ∀ d ∈ host.existing, d.file = name → d.source = none → d ∈ answer := by
  have hhost : host.service.diagnostics name
      = .ok (host.existing.filter (·.file = name)) := rfl
  have hstack := guardAll_diagnostics hhost
    (fun policy hpolicy => policyDiagnostics_eq_fresh (hfound policy hpolicy))
    (fun policy hpolicy _ hd => source_of_mem_fresh (hfound policy hpolicy) hd)
  rw [foreign_existing, flatMap_fresh] at hstack
  refine ⟨_, hstack, rfl, fun d hd hfile hsource => ?_⟩
  refine List.mem_append_left _ (List.mem_filter.mpr ⟨hd, ?_⟩)
  simp [hfile, hsource]

/-- A stack of three in which the outermost policy replaces the innermost
one, around a host with a stale diagnostic under their common name: the
violations of the middle one come first, and the stale one is gone. -/
theorem stack_diagnostics_replaced :
    ∃ answer,
      ((Host.service
          { files := [("a.py", ⟨"a.py", "import os", [⟨"os", 7, 9⟩]⟩)]
            existing := [⟨"a.py", 0, 1, "stale", .error, 1, some "layers"⟩,
              ⟨"a.py", 3, 1, "note", .message, 0, none⟩] }).guardAll
        [⟨[], "layers"⟩, ⟨[], "names"⟩, ⟨[⟨"*.py", ["json"]⟩], "layers"⟩]).diagnostics "a.py"
        = .ok answer
      ∧ answer.map (fun d => (d.source, d.start, d.code))
        = [(none, 3, 0), (some "names", 7, 1), (some "layers", 7, 2)] := by
  obtain ⟨answer, hanswer, heq, -⟩ := stack_diagnostics
    { files := [("a.py", ⟨"a.py", "import os", [⟨"os", 7, 9⟩]⟩)]
      existing := [⟨"a.py", 0, 1, "stale", .error, 1, some "layers"⟩,
        ⟨"a.py", 3, 1, "note", .message, 0, none⟩] } "a.py"
    [⟨[], "layers"⟩, ⟨[], "names"⟩, ⟨[⟨"*.py", ["json"]⟩], "layers"⟩]
    (fun policy =>
      [violationAt policy "a.py" (policy.rules.flatMap (·.allowed)) ⟨"os", 7, 9⟩])
    (by
      intro policy hpolicy source hsource
      cases hsource
      simp only [List.mem_cons, List.not_mem_nil, or_false] at hpolicy
      obtain rfl | rfl | rfl := hpolicy
      · rfl
      · rfl
      · rfl)
  exact ⟨answer, hanswer, by rw [heq]; rfl⟩

end ImportPolicy.Service
