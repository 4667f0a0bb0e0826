import Mathlib.Data.List.Forall2
import Mathlib.Data.List.ReduceOption
import ImportPolicy.Report.Check
import ImportPolicy.Proofs.Files.Identity
import ImportPolicy.Proofs.Host.Stack
import ImportPolicy.Proofs.Report.Places
import ImportPolicy.Proofs.Source.Placement

/-!
# A check reports exactly the unpermitted imports

From the bytes of a file to the line that a reader is sent to, a check goes
through a file name, a text, a tree, a policy, a service and a report. The
main theorem says what all of it amounts to, target by target: under the name
of the policy a report says one thing for each unpermitted import of the
text, in the order of the imports, and each of them covers the specifier and
is printed with a line and a column that lead to it.

One target is taken apart by `file_eq_ok`, which knows nothing of texts or
patterns; the closed form of an evaluation says which imports are reported,
and that an occurrence stands where it says gives the rest. That the policy
is asked about the same name under which the text was read is
`Project.identity_identity`.
-/

namespace ImportPolicy.Check

variable {p : Project} {policy : Policy} {target : String} {text : List Char}

/-- What a report says under a name. No report says nothing. -/
def saidUnder (name : String) : Option Report → List Diagnostic
  | none => []
  | some report => report.diagnostics.filter (·.source = some name)

/-- A diagnostic of a report points at an import of a text: it covers the
specifier, and the line and the column that are printed for it, whatever
reports it is printed with, lead to where the specifier starts. Of a
specifier that holds a line feed only the first row can stand on that
line. -/
structure PointsAt (file : String) (text : List Char) (report : Option Report)
    (o : Occurrence) (d : Diagnostic) : Prop where
  start_eq : d.start = o.start
  length_eq : d.length = o.specifier.toList.length
  quoted_eq : Report.quoted text d = o.specifier.toList
  printed : ∃ r offset line column, report = some r ∧ r.path = file
    ∧ r.text = String.ofList text
    ∧ (∀ reports, r ∈ reports → Report.Printed reports r d line column)
    ∧ d.start = Int.ofNat offset
    ∧ Report.Designates text line column offset
    ∧ ∃ row, (Report.rows text)[line - 1]? = some row
      ∧ o.specifier.toList.takeWhile (· ≠ '\n') <+: row.drop (column - 1)

/-- The report that a target should have: none if it cannot be read, and else
one that has under the name of the policy a diagnostic for each import of its
text that no pattern allowed for the file matches. -/
structure Exact [CharacterNames] (p : Project) (policy : Policy) (target : String)
    (report : Option Report) : Prop where
  unreadable : p.text? (p.identity target) = none → report = none
  readable : ∀ text, p.text? (p.identity target) = some text → '\r' ∉ text
    ∧ ∃ allowed, policy.allowedFor (p.identity target) = .ok allowed
      ∧ List.Forall₂ (PointsAt (p.identity target) text report)
        ((Source.imports text).filter (unpermitted allowed)) (saidUnder policy.name report)

/-! ## One target -/

theorem counted_ok {α : Type} (a : α) : counted (.ok a) = .ok a := rfl

theorem counted_eq_ok {α : Type} {answer : Except Glob.Overflow α} {a : α}
    (h : counted answer = .ok a) : answer = .ok a := by
  cases answer with
  | ok b => exact congrArg Except.ok (Except.ok.inj h)
  | error o => cases h

theorem sourceFile_of_none [CharacterNames] {name : String} (h : p.text? name = none) :
    p.sourceFile name = none := by
  rw [Project.sourceFile, h, Option.map_none]

theorem sourceFile_of_some [CharacterNames] {name : String} (h : p.text? name = some text) :
    p.sourceFile name = some ⟨p.identity name, String.ofList text, Source.imports text⟩ := by
  rw [Project.sourceFile, h, Option.map_some]

/-- What is said about a file once the policy has been put around the
project. -/
theorem guarded_diagnostics [CharacterNames] {name : String} (htext : p.text? name = some text)
    {found : List Violation}
    (hfound : policy.evaluate (p.identity name) (Source.imports text) = .ok found) :
    (p.service.guard policy).diagnostics name
      = .ok ((p.syntaxDiagnostics name).filter (·.source ≠ some policy.name)
        ++ found.map (·.toDiagnostic)) := by
  have hservice : p.service.sourceFile = p.sourceFile := rfl
  have hexisting : p.service.diagnostics name = .ok (p.syntaxDiagnostics name) := rfl
  refine Service.guard_diagnostics hexisting ?_
  rw [hservice, sourceFile_of_some htext]
  exact @Service.policyDiagnostics_some policy
    ⟨p.identity name, String.ofList text, Source.imports text⟩ found hfound

/-- What a check of one target does: a target that cannot be read has no
report, and the report of any other one holds what the host says under other
names and then the violations of the policy. -/
theorem file_eq_ok [CharacterNames] {outcome : Outcome} (h : file p policy target = .ok outcome) :
    (p.text? (p.identity target) = none ∧ outcome.reports = [])
    ∨ ∃ text found, p.text? (p.identity target) = some text
      ∧ policy.evaluate (p.identity (p.identity target)) (Source.imports text) = .ok found
      ∧ outcome.reports
        = let said := (p.syntaxDiagnostics (p.identity target)).filter
            (·.source ≠ some policy.name) ++ found.map (·.toDiagnostic)
          if said.isEmpty then []
          else [⟨p.identity (p.identity target), String.ofList text, said⟩] := by
  -- the two guards in front only let the run go on
  rw [file, bind_eq_ok] at h
  obtain ⟨-, -, h⟩ := h
  rw [bind_eq_ok] at h
  obtain ⟨-, -, h⟩ := h
  cases htext : p.text? (p.identity target) with
  | none =>
    rw [sourceFile_of_none htext] at h
    cases h
    exact .inl ⟨rfl, rfl⟩
  | some text =>
    rw [sourceFile_of_some htext] at h
    dsimp only at h
    rw [bind_eq_ok] at h
    obtain ⟨found, hfound, h⟩ := h
    have hevaluate := counted_eq_ok hfound
    rw [guarded_diagnostics htext hevaluate, counted_ok, ok_bind, Except.ok.injEq] at h
    refine .inr ⟨text, found, rfl, hevaluate, ?_⟩
    rw [← h]

/-- What a check reports under the name of the policy are the violations. -/
theorem saidUnder_violations {file : String} {imports : List Occurrence} {found : List Violation}
    (h : policy.evaluate file imports = .ok found) (existing : List Diagnostic) :
    (existing.filter (·.source ≠ some policy.name) ++ found.map (·.toDiagnostic)).filter
      (·.source = some policy.name) = found.map (·.toDiagnostic) := by
  rw [List.filter_append, List.filter_filter, List.filter_eq_nil_iff.mpr, List.nil_append,
    List.filter_eq_self]
  · intro d hd
    obtain ⟨v, hv, rfl⟩ := List.mem_map.mp hd
    exact decide_eq_true (congrArg some (Policy.source_of_mem_evaluate h hv))
  · intro d _ hboth
    simp at hboth

/-! ## One import -/

/-- **The diagnostic of an import points at it**, in every report of the
text that holds it. -/
theorem pointsAt_violation {o : Occurrence} {allowed : List String} {r : Report}
    (hplaced : Source.Placed text o) (htext : r.text = String.ofList text)
    (hd : (violationAt policy r.path allowed o).toDiagnostic ∈ r.diagnostics) :
    PointsAt r.path text (some r) o (violationAt policy r.path allowed o).toDiagnostic := by
  obtain ⟨before, behind, rfl, hbefore, hstop⟩ := hplaced
  have hstart : (violationAt policy r.path allowed o).toDiagnostic.start = before.length := hbefore
  have hlength : (violationAt policy r.path allowed o).toDiagnostic.length
      = o.specifier.toList.length := by
    show max o.start o.stop - o.start = _
    omega
  have hdesignates := @Report.designates_lineColumn
    (before ++ (o.specifier.toList ++ behind)) before.length (by simp)
  have hdrop : o.specifier.toList
      <+: (before ++ (o.specifier.toList ++ behind)).drop before.length := by
    rw [List.drop_left]
    exact List.prefix_append _ _
  refine ⟨rfl, hlength, ?_, ?_⟩
  · unfold Report.quoted
    rw [hlength, hstart, ← Int.natCast_add, Report.slice_append]
  · refine ⟨r, before.length, _, _, rfl, rfl, htext, fun reports hr => ?_, hstart,
      hdesignates, hdesignates.starts_with hdrop⟩
    have hprinted := Report.printed_lineColumn hr hd
    rw [htext, String.toList_ofList, hstart] at hprinted
    exact hprinted

/-! ## The report of a target -/

theorem return_not_mem_text? {name : String} (h : p.text? name = some text) : '\r' ∉ text := by
  unfold Project.text? at h
  split at h
  · cases h
  split at h
  · cases h
  split at h
  · cases h
  · cases h
    exact Text.Lines.return_not_mem_unify _

theorem exact_of_text? [CharacterNames] {report : Option Report}
    (htext : p.text? (p.identity target) = some text) {allowed : List String}
    (hallowed : policy.allowedFor (p.identity target) = .ok allowed)
    (h : List.Forall₂ (PointsAt (p.identity target) text report)
      ((Source.imports text).filter (unpermitted allowed)) (saidUnder policy.name report)) :
    Exact p policy target report where
  unreadable hnone := by
    rw [htext] at hnone
    cases hnone
  readable other hother := by
    cases Option.some.inj (htext.symm.trans hother)
    exact ⟨return_not_mem_text? htext, allowed, hallowed, h⟩

/-- A report is right if what it says under the name of the policy are the
violations that the unpermitted imports are. -/
theorem exact_some [CharacterNames] {allowed : List String} {said : List Diagnostic}
    (htext : p.text? (p.identity target) = some text)
    (hallowed : policy.allowedFor (p.identity target) = .ok allowed)
    (hsaid : said.filter (·.source = some policy.name)
      = ((Source.imports text).filter (unpermitted allowed)).map
        fun o => (violationAt policy (p.identity target) allowed o).toDiagnostic) :
    Exact p policy target (some ⟨p.identity target, String.ofList text, said⟩) := by
  refine exact_of_text? htext hallowed ?_
  rw [saidUnder, hsaid, List.forall₂_map_right_iff, List.forall₂_same]
  intro o ho
  obtain ⟨himport, hunpermitted⟩ := List.mem_filter.mp ho
  have hknown : o.isKnown = true := decide_eq_true (unpermitted_iff.mp hunpermitted).1
  have hmem : (violationAt policy (p.identity target) allowed o).toDiagnostic
      ∈ said.filter (·.source = some policy.name) :=
    hsaid ▸ List.mem_map.mpr ⟨o, ho, rfl⟩
  exact @pointsAt_violation policy text o allowed ⟨p.identity target, String.ofList text, said⟩
    ((Source.truthful_imports himport).placed hknown) rfl (List.mem_filter.mp hmem).1

/-- There need not be a report if no import is unpermitted. -/
theorem exact_none [CharacterNames] {allowed : List String}
    (htext : p.text? (p.identity target) = some text)
    (hallowed : policy.allowedFor (p.identity target) = .ok allowed)
    (hnil : (Source.imports text).filter (unpermitted allowed) = []) :
    Exact p policy target none := by
  refine exact_of_text? htext hallowed ?_
  rw [hnil]
  exact .nil

/-- **One target gets the report that it should have.** -/
theorem exact_of_file [CharacterNames] {w : Workspace} {path : Path}
    (hp : Project.atPath w path = .ok p) {outcome : Outcome}
    (h : file p policy target = .ok outcome) :
    ∃ report : Option Report, outcome.reports = report.toList ∧ Exact p policy target report := by
  obtain ⟨htext, hreports⟩ | ⟨text, found, htext, hfound, hreports⟩ := file_eq_ok h
  · refine ⟨none, hreports, fun _ => rfl, fun text hsome => ?_⟩
    rw [htext] at hsome
    cases hsome
  · -- the policy is asked about the name under which the text was read
    rw [Project.identity_identity hp htext] at hfound hreports
    have hsaid := saidUnder_violations hfound (p.syntaxDiagnostics (p.identity target))
    obtain ⟨allowed, hallowed, rfl⟩ := Policy.evaluate_eq_ok hfound
    rw [List.map_map] at hsaid
    dsimp only at hreports
    rw [List.map_map] at hreports
    split at hreports
    · -- nothing at all is said, so there are no violations either
      rename_i hempty
      have hnil := (List.append_eq_nil_iff.mp (List.isEmpty_iff.mp hempty)).2
      rw [List.map_eq_nil_iff] at hnil
      exact ⟨none, hreports, exact_none htext hallowed hnil⟩
    · exact ⟨some ⟨_, _, _⟩, hreports, exact_some htext hallowed hsaid⟩

/-! ## All targets -/

/-- A report of a check is the report of one of its targets. -/
theorem mem_reports_files [CharacterNames] {targets : List String} {outcome : Outcome}
    (h : files p policy targets = .ok outcome) {r : Report} :
    r ∈ outcome.reports
      ↔ ∃ target ∈ targets, ∃ one, file p policy target = .ok one ∧ r ∈ one.reports := by
  induction targets generalizing outcome with
  | nil =>
    cases h
    simp
  | cons target more ih =>
    rw [files, bind_eq_ok] at h
    obtain ⟨first, hfirst, h⟩ := h
    rw [bind_eq_ok] at h
    obtain ⟨later, hlater, h⟩ := h
    cases h
    rw [Outcome.append, List.mem_append, ih hlater]
    simp [hfirst]

/-- Every target of a check that has an outcome has one. -/
theorem file_of_mem_files [CharacterNames] {targets : List String} {outcome : Outcome}
    (h : files p policy targets = .ok outcome) (ht : target ∈ targets) :
    ∃ one, file p policy target = .ok one := by
  induction targets generalizing outcome with
  | nil => cases ht
  | cons other more ih =>
    rw [files, bind_eq_ok] at h
    obtain ⟨first, hfirst, h⟩ := h
    rw [bind_eq_ok] at h
    obtain ⟨later, hlater, -⟩ := h
    obtain rfl | ht := List.mem_cons.mp ht
    · exact ⟨first, hfirst⟩
    · exact ih hlater ht

/-- The report of a target carries the name of the target's file. -/
theorem path_of_mem_file [CharacterNames] {w : Workspace} {path : Path}
    (hp : Project.atPath w path = .ok p) {outcome : Outcome}
    (h : file p policy target = .ok outcome) {r : Report}
    (hr : r ∈ outcome.reports) : r.path = p.identity target := by
  obtain ⟨-, hreports⟩ | ⟨other, found, hother, -, hreports⟩ := file_eq_ok h
  · simp [hreports] at hr
  · rw [Project.identity_identity hp hother] at hreports
    dsimp only at hreports
    split at hreports
    · simp [hreports] at hr
    · rw [hreports] at hr
      rw [List.mem_singleton.mp hr]

/-- **A check reports exactly the unpermitted imports.** For every file tree,
root, policy and list of targets for which a check has an outcome, the
reports are those of the targets in order, and each target has the one that
it should have. -/
theorem files_exact [CharacterNames] {w : Workspace} {path : Path}
    (hp : Project.atPath w path = .ok p) {targets : List String} {outcome : Outcome}
    (h : files p policy targets = .ok outcome) :
    ∃ found : List (Option Report), outcome.reports = found.reduceOption
      ∧ List.Forall₂ (Exact p policy) targets found := by
  induction targets generalizing outcome with
  | nil =>
    cases h
    exact ⟨[], rfl, .nil⟩
  | cons target more ih =>
    rw [files, bind_eq_ok] at h
    obtain ⟨first, hfirst, h⟩ := h
    rw [bind_eq_ok] at h
    obtain ⟨later, hlater, h⟩ := h
    cases h
    obtain ⟨report, hreport, hexact⟩ := exact_of_file hp hfirst
    obtain ⟨found, hfound, hall⟩ := ih hlater
    refine ⟨report :: found, ?_, .cons hexact hall⟩
    rw [Outcome.append, hreport, hfound]
    cases report with
    | none => rfl
    | some r => rfl

/-- A tree with one file, which starts with two byte order marks and has a
wide character and a line break of two characters before its import. -/
def markedTree : Node :=
  .folder [("lib", .folder [("a.py", .file "\uFEFF\uFEFF# ä\r\nimport os".toUTF8.toList)])]

/-- The marked file is checked next to a target that is not there: one of the
marks is left in the text, and the one diagnostic covers the specifier. -/
theorem files_exact_marked :
    ∃ outcome found,
      Project.atPath ⟨markedTree, []⟩ (.ofString "/lib")
        = .ok ⟨⟨markedTree, []⟩, ⟨.absolute, ["lib"]⟩⟩
      ∧ files ⟨⟨markedTree, []⟩, ⟨.absolute, ["lib"]⟩⟩ ⟨[⟨"*.py", ["json"]⟩], "layers"⟩
        ["a.py", "b.py"] = .ok outcome
      ∧ outcome.reports.map (fun r => (r.path, r.diagnostics.map fun d => (d.start, d.length)))
        = [("a.py", [(12, 2)])]
      ∧ outcome.reports = found.reduceOption
      ∧ List.Forall₂
        (Exact ⟨⟨markedTree, []⟩, ⟨.absolute, ["lib"]⟩⟩ ⟨[⟨"*.py", ["json"]⟩], "layers"⟩)
        ["a.py", "b.py"] found := by
  have hp : Project.atPath ⟨markedTree, []⟩ (.ofString "/lib")
      = .ok ⟨⟨markedTree, []⟩, ⟨.absolute, ["lib"]⟩⟩ := rfl
  have hrun : ((files ⟨⟨markedTree, []⟩, ⟨.absolute, ["lib"]⟩⟩
      ⟨[⟨"*.py", ["json"]⟩], "layers"⟩ ["a.py", "b.py"]).toOption.map fun outcome =>
        outcome.reports.map fun r => (r.path, r.diagnostics.map fun d => (d.start, d.length)))
      = some [("a.py", [(12, 2)])] := by decide +kernel
  obtain ⟨outcome, houtcome, hreports⟩ := Option.map_eq_some_iff.mp hrun
  have hfiles := toOption_eq_some.mp houtcome
  obtain ⟨found, hfound, hexact⟩ := files_exact hp hfiles
  exact ⟨outcome, found, hp, hfiles, hreports, hfound, hexact⟩

end ImportPolicy.Check
