import ImportPolicy.Command.Run
import ImportPolicy.Proofs.Report.Exactness

/-!
# Files that do not parse

A file that does not parse has no imports, so no policy says anything about
it. What keeps it from passing a check is a single diagnostic of the host,
which comes under the host's own name and goes through the policy's filter:
a policy takes away what was said under *its* name before it adds its own
findings.

So the name of the policy decides. Under every other name than the host's a
file that does not parse is reported; under the host's name it is reported
only for an unpermitted import. There can be one, since a text that starts
with several byte order marks does not parse and yet has imports.
-/

namespace ImportPolicy.Check

variable {p : Project} {policy : Policy} {target : String} {text : List Char}

/-- The text that is read for a target does not parse, a byte order mark left
out. -/
structure Unparseable [CharacterNames] (p : Project) (target : String)
    (text : List Char) : Prop where
  read : p.text? (p.identity target) = some text
  rejected : ∃ fault, Source.parse (String.ofList (Project.parsedText text)) = .error fault

/-- There is something that can be reported about a file that does not parse:
the policy leaves the host its say, or one of the imports is not
permitted. -/
def Noticed [CharacterNames] (policy : Policy) (file : String) (text : List Char) : Prop :=
  policy.name ≠ Project.syntaxSource
    ∨ ∃ allowed, policy.allowedFor file = .ok allowed
      ∧ ∃ o ∈ Source.imports text, unpermitted allowed o = true

/-- The host has one thing to say about a text that does not parse, under its
own name. -/
theorem syntaxDiagnostics_of_rejected [CharacterNames] {name : String} {fault : Source.Fault}
    (hread : p.text? name = some text)
    (hfault : Source.parse (String.ofList (Project.parsedText text)) = .error fault) :
    ∃ d, p.syntaxDiagnostics name = [d] ∧ d.source = some Project.syntaxSource := by
  unfold Project.syntaxDiagnostics
  rw [hread]
  dsimp only
  rw [hfault]
  exact ⟨_, rfl, rfl⟩

/-- What a policy leaves of a single diagnostic. -/
theorem filter_source_eq_nil {d : Diagnostic} {source : String} (h : d.source = some source)
    (name : String) : [d].filter (·.source ≠ some name) = [] ↔ name = source := by
  rw [List.filter_eq_nil_iff]
  simpa [h] using eq_comm

/-- **One target that does not parse** has a report exactly if there is
something to report. -/
theorem reports_of_unparseable [CharacterNames] {w : Workspace} {path : Path}
    (hp : Project.atPath w path = .ok p) (h : Unparseable p target text) {outcome : Outcome}
    (hfile : file p policy target = .ok outcome) :
    (outcome.reports = [] ∧ ¬ Noticed policy (p.identity target) text)
    ∨ ∃ r, outcome.reports = [r] ∧ r.path = p.identity target ∧ r.diagnostics ≠ []
      ∧ Noticed policy (p.identity target) text := by
  obtain ⟨hnone, -⟩ | ⟨other, found, hother, hfound, hreports⟩ := file_eq_ok hfile
  · rw [h.read] at hnone
    cases hnone
  cases Option.some.inj (h.read.symm.trans hother)
  rw [Project.identity_identity hp h.read] at hfound hreports
  obtain ⟨fault, hfault⟩ := h.rejected
  obtain ⟨d, hd, hsource⟩ := syntaxDiagnostics_of_rejected h.read hfault
  obtain ⟨allowed, hallowed, rfl⟩ := Policy.evaluate_eq_ok hfound
  rw [hd] at hreports
  -- nothing is said exactly if the host is silenced and there are no violations
  have hempty : [d].filter (·.source ≠ some policy.name)
      ++ (((Source.imports text).filter (unpermitted allowed)).map
          (violationAt policy (p.identity target) allowed)).map (·.toDiagnostic) = []
      ↔ ¬ Noticed policy (p.identity target) text := by
    rw [List.append_eq_nil_iff, filter_source_eq_nil hsource, List.map_eq_nil_iff,
      List.map_eq_nil_iff, List.filter_eq_nil_iff]
    unfold Noticed
    simp [hallowed]
  dsimp only at hreports
  split at hreports
  · rename_i hnil
    exact .inl ⟨hreports, hempty.mp (List.isEmpty_iff.mp hnil)⟩
  · rename_i hne
    have hsome := mt List.isEmpty_iff.mpr hne
    exact .inr ⟨_, hreports, rfl, hsome, not_not.mp (mt hempty.mpr hsome)⟩

/-! ## All targets -/

/-- Targets that are known by the same name are judged alike. -/
theorem Unparseable.congr [CharacterNames] {other : String} (h : Unparseable p target text)
    (hname : p.identity other = p.identity target) : Unparseable p other text :=
  ⟨hname ▸ h.read, h.rejected⟩

theorem code_of_check [CharacterNames] {s : Command.Settings} {answer : Command.Answer}
    (h : Command.check s p policy = .ok answer) :
    ∃ outcome, files p policy (p.targets s.includeTests) = .ok outcome
      ∧ answer.code = if outcome.reports.isEmpty then Command.codeFine else Command.codeProblems := by
  rw [Command.check, bind_eq_ok] at h
  obtain ⟨outcome, houtcome, h⟩ := h
  cases h
  exact ⟨outcome, houtcome, rfl⟩

/-- **When a file that does not parse is reported.** For every file tree,
root, policy and list of targets for which a check has an outcome, a target
whose text does not parse has a report with something in it exactly if the
policy has another name than the host, or else forbids one of its imports.
If a file of the project is so, the command ends with the code for
problems. -/
theorem unparseable_reported_iff [CharacterNames] {w : Workspace} {path : Path}
    (hp : Project.atPath w path = .ok p) (policy : Policy) (h : Unparseable p target text) :
    (∀ targets outcome, files p policy targets = .ok outcome → target ∈ targets →
      ((∃ r ∈ outcome.reports, r.path = p.identity target ∧ r.diagnostics ≠ [])
        ↔ Noticed policy (p.identity target) text))
    ∧ ∀ s answer, Command.check s p policy = .ok answer → target ∈ p.targets s.includeTests →
      Noticed policy (p.identity target) text → answer.code = Command.codeProblems := by
  have hreported : ∀ targets outcome, files p policy targets = .ok outcome → target ∈ targets →
      ((∃ r ∈ outcome.reports, r.path = p.identity target ∧ r.diagnostics ≠ [])
        ↔ Noticed policy (p.identity target) text) := by
    intro targets outcome hfiles ht
    constructor
    · rintro ⟨r, hr, hpath, -⟩
      obtain ⟨other, -, one, hone, hr⟩ := (mem_reports_files hfiles).mp hr
      have hname : p.identity other = p.identity target :=
        (path_of_mem_file hp hone hr).symm.trans hpath
      obtain ⟨hnil, -⟩ | ⟨-, -, -, -, hnoticed⟩ :=
        reports_of_unparseable hp (h.congr hname) hone
      · simp [hnil] at hr
      · exact hname ▸ hnoticed
    · intro hnoticed
      obtain ⟨one, hone⟩ := file_of_mem_files hfiles ht
      obtain ⟨-, hnot⟩ | ⟨r, hr, hpath, hdiagnostics, -⟩ := reports_of_unparseable hp h hone
      · exact absurd hnoticed hnot
      · have hmem : r ∈ one.reports := by simp [hr]
        exact ⟨r, (mem_reports_files hfiles).mpr ⟨target, ht, one, hone, hmem⟩, hpath,
          hdiagnostics⟩
  refine ⟨hreported, fun s answer hcheck ht hnoticed => ?_⟩
  obtain ⟨outcome, hfiles, hcode⟩ := code_of_check hcheck
  obtain ⟨r, hr, -⟩ := (hreported _ outcome hfiles ht).mpr hnoticed
  rw [hcode, if_neg (by simpa using List.ne_nil_of_mem hr)]

/-- A tree with one file, which does not parse. -/
def brokenTree : Node := .folder [("lib", .folder [("a.py", .file "def f(:\n".toUTF8.toList)])]

/-- The project in that tree. -/
def brokenProject : Project := ⟨⟨brokenTree, []⟩, ⟨.absolute, ["lib"]⟩⟩

theorem unparseable_broken : Unparseable brokenProject "/lib/a.py" "def f(:\n".toList where
  read := by decide +kernel
  rejected := by
    have hok : (Source.parse (String.ofList (Project.parsedText "def f(:\n".toList))).isOk
        = false := by decide +kernel
    cases hparse : Source.parse (String.ofList (Project.parsedText "def f(:\n".toList)) with
    | error fault => exact ⟨fault, rfl⟩
    | ok tree =>
      rw [hparse] at hok
      cases hok

/-- Under a name of its own a policy that allows everything has the broken
file reported. -/
theorem unparseable_reported_iff_named :
    Unparseable brokenProject "/lib/a.py" "def f(:\n".toList
    ∧ ∃ answer, Command.check {} brokenProject ⟨[⟨"**", ["**"]⟩], "layers"⟩ = .ok answer
      ∧ answer.code = Command.codeProblems := by
  have hp : Project.atPath ⟨brokenTree, []⟩ (.ofString "/lib") = .ok brokenProject := rfl
  have hrun : (Command.check {} brokenProject ⟨[⟨"**", ["**"]⟩], "layers"⟩).isOk = true := by
    decide +kernel
  refine ⟨unparseable_broken, ?_⟩
  cases hcheck : Command.check {} brokenProject ⟨[⟨"**", ["**"]⟩], "layers"⟩ with
  | error i =>
    rw [hcheck] at hrun
    cases hrun
  | ok answer =>
    refine ⟨answer, rfl, ?_⟩
    exact (unparseable_reported_iff hp _ unparseable_broken).2 {} answer hcheck (by decide +kernel)
      (.inl (by decide))

/-- **Under the name of the host the broken file passes**: there is no report
about it, and the command says that all is well. -/
theorem unparseable_passes :
    Project.atPath ⟨brokenTree, []⟩ (.ofString "/lib") = .ok brokenProject
    ∧ Unparseable brokenProject "/lib/a.py" "def f(:\n".toList
    ∧ (files brokenProject ⟨[⟨"**", ["**"]⟩], "python"⟩ ["/lib/a.py"]).toOption.map (·.reports)
      = some []
    ∧ (Command.check {} brokenProject ⟨[⟨"**", ["**"]⟩], "python"⟩).toOption.map (·.code)
      = some Command.codeFine := by
  refine ⟨rfl, unparseable_broken, ?_, ?_⟩
  · decide +kernel
  · decide +kernel

end ImportPolicy.Check
