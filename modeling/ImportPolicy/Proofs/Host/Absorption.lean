import ImportPolicy.Proofs.Host.Stack

/-!
# Absorbing is done at once

A session can absorb what it says about a file: the diagnostics of the host
are replaced by those of the whole stack. The host's list then mixes what the
host had said with what every layer added, and each layer will drop and add
its own again, in another place of the row than where it found them. Files
can moreover be kept under a key that is not their name, and what is said
about such a file is not even found again under the key.

Neither matters. By the normal form of a stack an answer has two parts: what
is under foreign names, and what the lasting policies add. When the answer is
handed back to the host, the second part is gone, since all of it is under
names of the stack, and the first part is left as it is
(`foreign_absorbed`). The violations depend on the files alone, which do not
change. So the answer is the same, and a second absorption finds everything
as it is.
-/

namespace ImportPolicy

open Glob (Overflow)

namespace Service

variable {service : Service} {name : String} {policies : List Policy} {file : Option SourceFile}

/-! ## The answer of a stack, taken apart -/

/-- What a policy adds to a file, nothing if it has no answer. -/
def additions (file : Option SourceFile) (policy : Policy) : List Diagnostic :=
  match policyDiagnostics policy file with
  | .ok added => added
  | .error _ => []

theorem policyDiagnostics_eq_additions {policy : Policy} {added : List Diagnostic}
    (h : policyDiagnostics policy file = .ok added) :
    policyDiagnostics policy file = .ok (additions file policy) := by
  unfold additions
  rw [h]

/-- What a policy adds carries its name. -/
theorem source_of_mem_additions {policy : Policy} {d : Diagnostic}
    (hd : d ∈ additions file policy) : d.source = some policy.name := by
  unfold additions at hd
  split at hd
  · rename_i added hadded
    cases file with
    | none =>
      cases hadded
      cases hd
    | some source =>
      rw [policyDiagnostics, bind_eq_ok] at hadded
      obtain ⟨found, hfound, hadded⟩ := hadded
      cases hadded
      obtain ⟨v, hv, rfl⟩ := List.mem_map.mp hd
      exact congrArg some (Policy.source_of_mem_evaluate hfound hv)
  · cases hd

/-- A layer has an answer only if the service below it and its policy have
one. -/
theorem guard_diagnostics_eq_ok {policy : Policy} {found : List Diagnostic}
    (h : (service.guard policy).diagnostics name = .ok found) :
    ∃ existing added, service.diagnostics name = .ok existing
      ∧ policyDiagnostics policy (service.sourceFile name) = .ok added := by
  obtain ⟨existing, hexisting, h⟩ := bind_eq_ok.mp h
  obtain ⟨added, hadded, -⟩ := bind_eq_ok.mp h
  exact ⟨existing, added, hexisting, hadded⟩

/-- A stack has an answer only if the service below it and every one of its
policies have one. -/
theorem guardAll_diagnostics_eq_ok {found : List Diagnostic}
    (h : (service.guardAll policies).diagnostics name = .ok found) :
    (∃ existing, service.diagnostics name = .ok existing)
    ∧ ∀ policy ∈ policies,
      policyDiagnostics policy (service.sourceFile name)
        = .ok (additions (service.sourceFile name) policy) := by
  induction policies generalizing service with
  | nil => exact ⟨⟨found, h⟩, fun _ hpolicy => absurd hpolicy List.not_mem_nil⟩
  | cons policy later ih =>
    have hlater : ((service.guard policy).guardAll later).diagnostics name = .ok found := h
    obtain ⟨⟨below, hbelow⟩, hrest⟩ := ih hlater
    obtain ⟨existing, added, hexisting, hadded⟩ := guard_diagnostics_eq_ok hbelow
    refine ⟨⟨existing, hexisting⟩, fun other hother => ?_⟩
    obtain rfl | hother := List.mem_cons.mp hother
    · exact policyDiagnostics_eq_additions hadded
    · exact hrest other hother

/-- **The answer of a stack around a host**, whenever there is one. -/
theorem answer_eq {host : Host} {found : List Diagnostic}
    (h : (host.service.guardAll policies).diagnostics name = .ok found) :
    found = foreign policies (host.existing.filter (·.file = name))
      ++ (lasting policies).flatMap (additions (host.files.lookup name)) := by
  obtain ⟨-, hadded⟩ := guardAll_diagnostics_eq_ok h
  have hhost : host.service.diagnostics name
      = .ok (host.existing.filter (·.file = name)) := rfl
  have hform := guardAll_diagnostics hhost hadded (fun _ _ _ => source_of_mem_additions)
  exact Except.ok.inj (h.symm.trans hform)

/-! ## What is left of an answer that is handed back -/

theorem mem_of_mem_lasting {policy : Policy} (h : policy ∈ lasting policies) :
    policy ∈ policies := by
  induction policies with
  | nil => exact h
  | cons first later ih =>
    rw [lasting] at h
    split at h
    · exact List.mem_cons_of_mem _ (ih h)
    · obtain rfl | h := List.mem_cons.mp h
      · exact List.mem_cons_self
      · exact List.mem_cons_of_mem _ (ih h)

/-- Nothing of what the policies of a stack say is under a foreign name. -/
theorem foreign_additions (file : Option SourceFile) :
    foreign policies ((lasting policies).flatMap (additions file)) = [] := by
  refine List.filter_eq_nil_iff.mpr fun d hd hforeign => ?_
  obtain ⟨policy, hpolicy, hd⟩ := List.mem_flatMap.mp hd
  have hother := List.all_eq_true.mp hforeign policy (mem_of_mem_lasting hpolicy)
  rw [source_of_mem_additions hd] at hother
  simp at hother

theorem foreign_filter (test : Diagnostic → Bool) (ds : List Diagnostic) :
    foreign policies (ds.filter test) = (foreign policies ds).filter test := by
  unfold foreign
  rw [List.filter_filter, List.filter_filter]
  exact List.filter_congr fun d _ => Bool.and_comm _ _

theorem foreign_foreign (ds : List Diagnostic) :
    foreign policies (foreign policies ds) = foreign policies ds := by
  unfold foreign
  rw [List.filter_filter]
  exact List.filter_congr fun d _ => Bool.and_self _

/-- **Of an answer that is handed back to the host** the part under foreign
names is left, as it was. -/
theorem foreign_absorbed (ds : List Diagnostic) (file : Option SourceFile) :
    foreign policies ((foreign policies (ds.filter (·.file = name))
        ++ (lasting policies).flatMap (additions file)).filter (·.file = name))
      = foreign policies (ds.filter (·.file = name)) := by
  rw [foreign_filter, foreign_append, foreign_additions, List.append_nil, foreign_foreign,
    foreign_filter, List.filter_filter]
  exact List.filter_congr fun d _ => Bool.and_self _

end Service

namespace Session

open Service

variable {s : Session} {file : String} {found : List Diagnostic}

/-- A session whose host says something else. -/
def saying (s : Session) (ds : List Diagnostic) : Session :=
  { s with host := { s.host with existing := ds } }

/-- **One absorption**: handed back to the host, an answer is given again. -/
theorem diagnostics_saying (h : s.service.diagnostics file = .ok found) :
    (s.saying found).service.diagnostics file = .ok found := by
  obtain ⟨-, hadded⟩ := guardAll_diagnostics_eq_ok h
  have hhost : (s.saying found).host.service.diagnostics file
      = .ok (found.filter (·.file = file)) := rfl
  -- the files are those of before, and so is what the policies add
  have hform := guardAll_diagnostics hhost hadded (fun _ _ _ => source_of_mem_additions)
  have hfound := answer_eq h
  have hforeign : foreign s.policies (found.filter (·.file = file))
      = foreign s.policies (s.host.existing.filter (·.file = file)) :=
    hfound ▸ foreign_absorbed s.host.existing (s.host.files.lookup file)
  rw [hforeign] at hform
  exact hform.trans (congrArg Except.ok hfound.symm)

theorem after_absorb (h : s.service.diagnostics file = .ok found) :
    s.after (.absorb file) = s.saying found := by
  have hstep : s.step (.absorb file) = .ok (s.saying found) := by
    show (s.service.diagnostics file >>= fun found => pure (s.saying found)) = _
    rw [h, ok_bind, pure_eq_ok]
  rw [after, hstep]

/-- Absorbing over and over does no more than absorbing once. -/
theorem run_absorb (h : s.service.diagnostics file = .ok found) (n : Nat) :
    s.run (List.replicate (n + 1) (.absorb file)) = s.saying found := by
  induction n generalizing s with
  | zero => exact after_absorb h
  | succ n ih =>
    show (s.after (.absorb file)).run (List.replicate (n + 1) (.absorb file)) = s.saying found
    rw [after_absorb h, ih (diagnostics_saying h)]
    rfl

/-- **What was absorbed is said again.** After any steps of any session, with
any policies around it: if the session has an answer for a file, it has the
same answer, in the same order, once the diagnostics of the host have been
replaced by it. So absorbing the file any number of times leaves the session
as the first time did, and its answer for the file as it was. -/
theorem diagnostics_absorbed (start : Session) (changes : List Step) (file : String)
    (found : List Diagnostic)
    (h : (start.run changes).service.diagnostics file = .ok found) :
    ((start.run changes).saying found).service.diagnostics file = .ok found
    ∧ (∀ n, start.run (changes ++ List.replicate (n + 1) (.absorb file))
      = (start.run changes).saying found)
    ∧ ∀ n, (start.run (changes ++ List.replicate n (.absorb file))).service.diagnostics file
      = .ok found := by
  have hrun : ∀ n, start.run (changes ++ List.replicate (n + 1) (.absorb file))
      = (start.run changes).saying found := fun n =>
    List.foldl_append.trans (run_absorb h n)
  refine ⟨diagnostics_saying h, hrun, fun n => ?_⟩
  cases n with
  | zero => rw [List.replicate_zero, List.append_nil, h]
  | succ n => rw [hrun n, diagnostics_saying h]

/-- A session with a file under another key than its name, and three policies
of which the first and the last have one name. The host has a stale
diagnostic under that name, and one of its own. -/
def renamed : List Step :=
  [.putFile "key" ⟨"a.py", "import os", [⟨"os", 7, 9⟩]⟩,
    .addDiagnostics [⟨"key", 0, 1, "stale", .error, 1, some "layers"⟩,
      ⟨"key", 3, 1, "note", .message, 0, none⟩],
    .wrap ⟨[], "names"⟩, .wrap ⟨[⟨"*.py", ["json"]⟩], "layers"⟩]

/-- What is said about the key is said again after three absorptions,
although the violations are not about the key. -/
theorem diagnostics_absorbed_renamed :
    ∃ found : List Diagnostic,
      found.map (fun d => (d.file, d.source, d.start, d.code))
        = [("key", none, 3, 0), ("a.py", some "names", 7, 1), ("a.py", some "layers", 7, 2)]
      ∧ (run { policy := ⟨[], "layers"⟩ } renamed).service.diagnostics "key" = .ok found
      ∧ (run { policy := ⟨[], "layers"⟩ }
          (renamed ++ List.replicate 3 (.absorb "key"))).service.diagnostics "key" = .ok found := by
  have hrun : ((run { policy := ⟨[], "layers"⟩ } renamed).service.diagnostics "key").toOption.map
      (·.map fun d => (d.file, d.source, d.start, d.code))
      = some [("key", none, 3, 0), ("a.py", some "names", 7, 1), ("a.py", some "layers", 7, 2)] :=
    rfl
  obtain ⟨found, hfound, hsaid⟩ := Option.map_eq_some_iff.mp hrun
  have hanswer := toOption_eq_some.mp hfound
  exact ⟨found, hsaid, hanswer, (diagnostics_absorbed _ renamed "key" found hanswer).2.2 3⟩

end Session

end ImportPolicy
