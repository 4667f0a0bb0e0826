import Mathlib.Data.List.Basic
import ImportPolicy.Proofs.Files.Collected
import ImportPolicy.Proofs.Report.Exactness

/-!
# Files are checked independently of each other

A check goes through its targets with one service, one policy and one list of
reports, and nothing in its code says that what it finds in one file does not
depend on the others. The reports of some targets are those of each target,
one after the other (`reports_files`), and the report of a target is made from
its name and its text (`reports_congr`). In a tree without links a collected
file has a name and a text of its own: its place below the root and its bytes.
So neither the other files of the tree nor whether tests are included can
change its report.
-/

namespace ImportPolicy.Check

open Project (Unlinked nameOf)

variable {p q : Project} {policy : Policy} {includeTests : Bool} {place : Place}
  {target : String} {targets : List String} {outcome : Outcome}

/-! ## One target after the other -/

theorem Outcome.append_assoc (a b c : Outcome) : (a.append b).append c = a.append (b.append c) := by
  simp [Outcome.append]

/-- **Targets can be checked in two runs.** -/
theorem files_append [CharacterNames] {before later : List String} :
    files p policy (before ++ later) = .ok outcome
      ↔ ∃ first second, files p policy before = .ok first ∧ files p policy later = .ok second
        ∧ outcome = first.append second := by
  induction before generalizing outcome with
  | nil =>
    constructor
    · exact fun h => ⟨{}, outcome, rfl, h, rfl⟩
    · rintro ⟨first, second, hfirst, hsecond, rfl⟩
      cases hfirst
      exact hsecond
  | cons target more ih =>
    rw [List.cons_append, files, bind_eq_ok]
    constructor
    · rintro ⟨one, hone, h⟩
      obtain ⟨rest, hrest, h⟩ := bind_eq_ok.mp h
      obtain ⟨first, second, hfirst, hsecond, rfl⟩ := ih.mp hrest
      cases h
      refine ⟨one.append first, second, ?_, hsecond, (Outcome.append_assoc _ _ _).symm⟩
      rw [files, hone, ok_bind, hfirst, ok_bind]
    · rintro ⟨_, second, hfirst, hsecond, rfl⟩
      rw [files, bind_eq_ok] at hfirst
      obtain ⟨one, hone, hfirst⟩ := hfirst
      obtain ⟨rest, hrest, hfirst⟩ := bind_eq_ok.mp hfirst
      cases hfirst
      refine ⟨one, hone, ?_⟩
      rw [ih.mpr ⟨rest, second, hrest, hsecond, rfl⟩, ok_bind, Outcome.append_assoc]

/-- The reports of one target, none if its check has no outcome. -/
def reportsOf [CharacterNames] (p : Project) (policy : Policy) (target : String) : List Report :=
  match file p policy target with
  | .ok outcome => outcome.reports
  | .error _ => []

theorem reportsOf_eq [CharacterNames] (h : file p policy target = .ok outcome) :
    reportsOf p policy target = outcome.reports := by
  unfold reportsOf
  rw [h]

/-- **The reports of a check are those of its targets**, one after the
other. -/
theorem reports_files [CharacterNames] (h : files p policy targets = .ok outcome) :
    outcome.reports = targets.flatMap (reportsOf p policy) := by
  induction targets generalizing outcome with
  | nil =>
    cases h
    rfl
  | cons target more ih =>
    rw [files, bind_eq_ok] at h
    obtain ⟨first, hfirst, h⟩ := h
    obtain ⟨later, hlater, h⟩ := bind_eq_ok.mp h
    cases h
    rw [List.flatMap_cons, reportsOf_eq hfirst, ← ih hlater]
    rfl

/-- A check has an outcome if each of its targets has one. -/
theorem files_of_forall [CharacterNames]
    (h : ∀ target ∈ targets, ∃ one, file p policy target = .ok one) :
    ∃ outcome, files p policy targets = .ok outcome := by
  induction targets with
  | nil => exact ⟨{}, rfl⟩
  | cons target more ih =>
    obtain ⟨first, hfirst⟩ := h target List.mem_cons_self
    obtain ⟨later, hlater⟩ := ih fun other hother => h other (List.mem_cons_of_mem _ hother)
    exact ⟨first.append later, by rw [files, hfirst, ok_bind, hlater, ok_bind]⟩

/-! ## The report of one target -/

theorem guardPath_eq_ok {trouble : Option PathTrouble} (h : guardPath trouble = .ok ()) :
    trouble = none := by
  cases trouble with
  | none => rfl
  | some t => cases h

/-- A target that was checked could be asked for. -/
theorem trouble?_of_file [CharacterNames] (h : file p policy target = .ok outcome) :
    p.trouble? (p.identity target) = none := by
  rw [file, bind_eq_ok] at h
  obtain ⟨-, -, h⟩ := h
  obtain ⟨_, htrouble, -⟩ := bind_eq_ok.mp h
  exact guardPath_eq_ok htrouble

theorem syntaxDiagnostics_congr [CharacterNames] {name : String}
    (htext : p.text? name = q.text? name) (hname : p.identity name = q.identity name) :
    p.syntaxDiagnostics name = q.syntaxDiagnostics name := by
  unfold Project.syntaxDiagnostics
  rw [htext, hname]

/-- **The report of a target is made from its name and its text.** -/
theorem reports_congr [CharacterNames] (hp : ∃ w path, Project.atPath w path = .ok p)
    (hq : ∃ w path, Project.atPath w path = .ok q) {other name : String}
    (hname : p.identity target = name) (hother : q.identity other = name)
    (htext : p.text? name = q.text? name) {one two : Outcome}
    (hone : file p policy target = .ok one) (htwo : file q policy other = .ok two) :
    one.reports = two.reports := by
  obtain ⟨_, _, hp⟩ := hp
  obtain ⟨_, _, hq⟩ := hq
  obtain ⟨hnone, hreports⟩ | ⟨text, found, hread, hfound, hreports⟩ := file_eq_ok hone
  · obtain ⟨-, hreports'⟩ | ⟨text', _, hread', -⟩ := file_eq_ok htwo
    · rw [hreports, hreports']
    · rw [hother, ← htext, ← hname, hnone] at hread'
      cases hread'
  · obtain ⟨hnone', -⟩ | ⟨text', found', hread', hfound', hreports'⟩ := file_eq_ok htwo
    · rw [hother, ← htext, ← hname, hread] at hnone'
      cases hnone'
    · have hsame := Project.identity_identity hp hread
      have hsame' := Project.identity_identity hq hread'
      rw [hsame, hname] at hfound hreports
      rw [hsame', hother] at hfound' hreports'
      rw [hname] at hread hsame
      rw [hother] at hread' hsame'
      obtain rfl : text = text' := Option.some.inj (hread.symm.trans (htext.trans hread'))
      obtain rfl : found = found' := Except.ok.inj (hfound.symm.trans hfound')
      rw [hreports, hreports', syntaxDiagnostics_congr htext (hsame.trans hsame'.symm)]

/-- The reports of a collected file carry its name. -/
theorem path_of_mem_reportsOf [CharacterNames] (h : Unlinked p)
    (hplace : place ∈ p.sourcePlaces includeTests) {r : Report}
    (hr : r ∈ reportsOf p policy (p.target place)) : r.path = nameOf place := by
  obtain ⟨w, path, hp⟩ := h.resolved
  obtain ⟨base, hroot, hbase⟩ := Project.root_of_atPath hp
  unfold reportsOf at hr
  split at hr
  · rename_i one hone
    rw [path_of_mem_file hp hone hr]
    exact Project.identity_target hroot hbase (h.leads hplace).2.1
  · cases hr

/-! ## The report of a collected file -/

theorem flatMap_eq_of_nodup {α β : Type} {l : List α} {f : α → List β} {a : α} (hl : l.Nodup)
    (ha : a ∈ l) (hf : ∀ b ∈ l, b ≠ a → f b = []) : l.flatMap f = f a := by
  obtain ⟨front, back, rfl⟩ := List.append_of_mem ha
  obtain ⟨-, hback, hdisjoint⟩ := List.nodup_append.mp hl
  have hfront : front.flatMap f = [] := List.flatMap_eq_nil_iff.mpr fun b hb =>
    hf b (List.mem_append_left _ hb) (hdisjoint b hb a List.mem_cons_self)
  have hrest : back.flatMap f = [] := List.flatMap_eq_nil_iff.mpr fun b hb =>
    hf b (List.mem_append_right _ (List.mem_cons_of_mem _ hb))
      fun heq => (List.nodup_cons.mp hback).1 (heq ▸ hb)
  rw [List.flatMap_append, List.flatMap_cons, hfront, hrest, List.append_nil, List.nil_append]

theorem flatMap_filter {α β : Type} (l : List α) (keep : α → Bool) (f : α → List β) :
    (l.filter keep).flatMap f = l.flatMap fun a => if keep a then f a else [] := by
  induction l with
  | nil => rfl
  | cons a more ih =>
    rw [List.flatMap_cons, ← ih, List.filter_cons]
    split
    · rw [List.flatMap_cons]
    · rw [List.nil_append]

theorem reports_project [CharacterNames] (h : project p policy includeTests = .ok outcome) :
    outcome.reports
      = (p.sourcePlaces includeTests).flatMap fun place => reportsOf p policy (p.target place) := by
  rw [reports_files h, Project.targets_eq, List.flatMap_map]

/-- **What a check says about a collected file** is the report of that
file. -/
theorem filter_reports [CharacterNames] (h : Unlinked p)
    (hrun : project p policy includeTests = .ok outcome)
    (hplace : place ∈ p.sourcePlaces includeTests) :
    outcome.reports.filter (·.path = nameOf place) = reportsOf p policy (p.target place) := by
  rw [reports_project hrun, List.filter_flatMap,
    flatMap_eq_of_nodup (h.nodup_sourcePlaces includeTests) hplace]
  · exact List.filter_eq_self.mpr fun r hr =>
      decide_eq_true (path_of_mem_reportsOf h hplace hr)
  · intro other hother hne
    refine List.filter_eq_nil_iff.mpr fun r hr hpath => hne ?_
    have hname : nameOf other = nameOf place :=
      (path_of_mem_reportsOf h hother hr).symm.trans (of_decide_eq_true hpath)
    exact Project.nameOf_inj (h.leads hother).2.1 (h.leads hplace).2.1 hname

theorem file_of_mem_sourcePlaces [CharacterNames]
    (hrun : project p policy includeTests = .ok outcome)
    (hplace : place ∈ p.sourcePlaces includeTests) :
    ∃ one, file p policy (p.target place) = .ok one := by
  refine file_of_mem_files hrun ?_
  rw [Project.targets_eq]
  exact List.mem_map_of_mem hplace

/-- **The report of a collected file depends on its place and its bytes
alone.** -/
theorem reportsOf_congr [CharacterNames] (hp : Unlinked p) (hq : Unlinked q) {tests : Bool}
    {one two : Outcome} (hone : project p policy includeTests = .ok one)
    (htwo : project q policy tests = .ok two)
    (hplace : place ∈ p.sourcePlaces includeTests) (hother : place ∈ q.sourcePlaces tests)
    (hbytes : p.work.files.bytesAt? (p.root.parts ++ place)
      = q.work.files.bytesAt? (q.root.parts ++ place)) :
    reportsOf p policy (p.target place) = reportsOf q policy (q.target place) := by
  obtain ⟨_, hfile⟩ := file_of_mem_sourcePlaces hone hplace
  obtain ⟨_, hfile'⟩ := file_of_mem_sourcePlaces htwo hother
  have hname : ∀ {r : Project}, Unlinked r → ∀ {tests}, place ∈ r.sourcePlaces tests →
      r.identity (r.target place) = nameOf place := by
    intro r hr tests hmem
    obtain ⟨_, _, hresolved⟩ := hr.resolved
    obtain ⟨base, hroot, hbase⟩ := Project.root_of_atPath hresolved
    exact Project.identity_target hroot hbase (hr.leads hmem).2.1
  have htrouble := trouble?_of_file hfile
  have htrouble' := trouble?_of_file hfile'
  rw [hname hp hplace] at htrouble
  rw [hname hq hother] at htrouble'
  have htext : p.text? (nameOf place) = q.text? (nameOf place) := by
    rw [hp.text?_nameOf hplace htrouble, hq.text?_nameOf hother htrouble', hbytes]
  rw [reportsOf_eq hfile, reportsOf_eq hfile']
  exact reports_congr hp.resolved hq.resolved (hname hp hplace) (hname hq hother) htext hfile hfile'

/-- **Leaving the tests out leaves out their reports and nothing else.** -/
theorem reports_without_tests [CharacterNames] (h : Unlinked p) {all : Outcome}
    (hall : project p policy true = .ok all) :
    ∃ few, project p policy false = .ok few
      ∧ few.reports = all.reports.filter fun r => (Path.names r.path).head? ≠ some "tests" := by
  have hsubset : ∀ place ∈ p.sourcePlaces false, place ∈ p.sourcePlaces true := by
    intro place hplace
    rw [Project.sourcePlaces_false] at hplace
    exact List.mem_of_mem_filter hplace
  obtain ⟨few, hfew⟩ : ∃ few, project p policy false = .ok few := by
    refine files_of_forall fun target htarget => ?_
    obtain ⟨place, hplace, rfl⟩ := List.mem_map.mp (Project.targets_eq p false ▸ htarget)
    exact file_of_mem_sourcePlaces hall (hsubset place hplace)
  refine ⟨few, hfew, ?_⟩
  rw [reports_project hfew, reports_project hall, List.filter_flatMap, Project.sourcePlaces_false,
    flatMap_filter]
  -- a report has the first component of its file's place
  refine List.flatMap_congr fun place hplace => ?_
  obtain ⟨hne, hplain, -⟩ := h.leads hplace
  have hhead : ∀ r ∈ reportsOf p policy (p.target place),
      (Path.names r.path).head? = place.head? := fun r hr => by
    rw [path_of_mem_reportsOf h hplace hr, Project.head?_names_nameOf hplain hne]
  split
  · rename_i houtside
    refine (List.filter_eq_self.mpr fun r hr => ?_).symm
    rw [hhead r hr]
    exact houtside
  · rename_i htests
    refine (List.filter_eq_nil_iff.mpr fun r hr => ?_).symm
    rw [hhead r hr]
    exact htests

/-! ## All of it -/

/-- **Files are checked independently of each other**, whatever the policy.

* The targets of a check can be cut into two rows anywhere: the check has an
  outcome exactly if both rows have one, and it is the one and then the other.
* If two projects without links both collect a file at the same place, with
  the same bytes, it has the same report in both, or none in both, whatever
  else there is in the trees and whether tests are included or not.
* Without links, a check that leaves the tests out has those reports of the
  whole check, in their order, whose path does not start in `tests`. -/
theorem files_independent [CharacterNames] (policy : Policy) :
    (∀ (p : Project) (before later : List String) (outcome : Outcome),
      files p policy (before ++ later) = .ok outcome
        ↔ ∃ first second, files p policy before = .ok first ∧ files p policy later = .ok second
          ∧ outcome = first.append second)
    ∧ (∀ p q : Project, Unlinked p → Unlinked q → ∀ (includeTests tests : Bool) (one two : Outcome),
      project p policy includeTests = .ok one → project q policy tests = .ok two →
      ∀ place ∈ p.sourcePlaces includeTests, place ∈ q.sourcePlaces tests →
      p.work.files.bytesAt? (p.root.parts ++ place)
        = q.work.files.bytesAt? (q.root.parts ++ place) →
      ∃ report : Option Report,
        one.reports.filter (·.path = nameOf place) = report.toList
        ∧ two.reports.filter (·.path = nameOf place) = report.toList)
    ∧ (∀ p : Project, Unlinked p → ∀ all, project p policy true = .ok all →
      ∃ few, project p policy false = .ok few
        ∧ few.reports = all.reports.filter fun r =>
          (Path.names r.path).head? ≠ some "tests") := by
  refine ⟨fun p before later outcome => files_append, ?_,
    fun p hp all hall => reports_without_tests hp hall⟩
  intro p q hp hq includeTests tests one two hone htwo place hplace hother hbytes
  obtain ⟨_, hfile⟩ := file_of_mem_sourcePlaces hone hplace
  obtain ⟨_, _, hresolved⟩ := hp.resolved
  obtain ⟨report, hreport, -⟩ := exact_of_file hresolved hfile
  have hreport : reportsOf p policy (p.target place) = report.toList :=
    (reportsOf_eq hfile).trans hreport
  refine ⟨report, (filter_reports hp hone hplace).trans hreport, ?_⟩
  rw [filter_reports hq htwo hother, ← reportsOf_congr hp hq hone htwo hplace hother hbytes,
    hreport]

/-- A project with a file and a test. -/
def testedProject : Project :=
  ⟨⟨.folder [("lib", .folder [("a.py", .file "import os\n".toUTF8.toList),
    ("tests", .folder [("t.py", .file "import re\n".toUTF8.toList)])])], []⟩,
    ⟨.absolute, ["lib"]⟩⟩

/-- Another project with the same file at the same place. -/
def movedProject : Project :=
  ⟨⟨.folder [("src", .folder [("a.py", .file "import os\n".toUTF8.toList),
    ("b.py", .file "import json\n".toUTF8.toList)])], []⟩, ⟨.absolute, ["src"]⟩⟩

theorem unlinked_testedProject : Unlinked testedProject where
  resolved := ⟨testedProject.work, .ofString "/lib", rfl⟩
  linkCount_eq := rfl
  wellNamed := by decide +kernel

theorem unlinked_movedProject : Unlinked movedProject where
  resolved := ⟨movedProject.work, .ofString "/src", rfl⟩
  linkCount_eq := rfl
  wellNamed := by decide +kernel

theorem sourcePlaces_testedProject :
    testedProject.sourcePlaces true = [["a.py"], ["tests", "t.py"]] := by
  show (List.mergeSort [["a.py"], ["tests", "t.py"]] Project.inOrder).filter _ = _
  rw [List.mergeSort_of_pairwise (by decide +kernel)]
  decide +kernel

theorem sourcePlaces_movedProject :
    movedProject.sourcePlaces false = [["a.py"], ["b.py"]] := by
  show (List.mergeSort [["a.py"], ["b.py"]] Project.inOrder).filter _ = _
  rw [List.mergeSort_of_pairwise (by decide +kernel)]
  decide +kernel

/-- The paths of the reports of a check. -/
def reportPaths (outcome : Except Interruption Outcome) : Option (List String) :=
  outcome.toOption.map fun found => found.reports.map (·.path)

theorem exists_of_reportPaths {run : Except Interruption Outcome} {paths : List String}
    (h : reportPaths run = some paths) :
    ∃ outcome, run = .ok outcome ∧ outcome.reports.map (·.path) = paths := by
  obtain ⟨outcome, hrun, hpaths⟩ := Option.map_eq_some_iff.mp h
  exact ⟨outcome, toOption_eq_some.mp hrun, hpaths⟩

/-- The policy that both are checked against. -/
def jsonOnly : Policy := ⟨[⟨"**", ["json"]⟩], "layers"⟩

/-- The file has the same report in both projects, and the test has one of
its own, which is left out with the tests. -/
theorem files_independent_moved :
    ∃ one two few report first second,
      project testedProject jsonOnly true = .ok one
      ∧ one.reports.map (·.path) = ["a.py", "tests/t.py"]
      ∧ project movedProject jsonOnly false = .ok two
      ∧ one.reports.filter (·.path = nameOf ["a.py"]) = Option.toList report
      ∧ two.reports.filter (·.path = nameOf ["a.py"]) = Option.toList report
      ∧ project testedProject jsonOnly false = .ok few
      ∧ few.reports = one.reports.filter (fun r => (Path.names r.path).head? ≠ some "tests")
      ∧ files testedProject jsonOnly ["/lib/a.py"] = .ok first
      ∧ files testedProject jsonOnly ["/lib/tests/t.py"] = .ok second
      ∧ one = first.append second := by
  obtain ⟨hcut, hsame, htests⟩ := files_independent jsonOnly
  have htargets : testedProject.targets true = ["/lib/a.py", "/lib/tests/t.py"] := by
    rw [Project.targets_eq, sourcePlaces_testedProject]
    decide +kernel
  have hmoved : movedProject.targets false = ["/src/a.py", "/src/b.py"] := by
    rw [Project.targets_eq, sourcePlaces_movedProject]
    decide +kernel
  obtain ⟨one, hone, hpaths⟩ : ∃ one, project testedProject jsonOnly true = .ok one
      ∧ one.reports.map (·.path) = ["a.py", "tests/t.py"] := by
    rw [project, htargets]
    exact exists_of_reportPaths (by decide +kernel)
  obtain ⟨two, htwo, -⟩ : ∃ two, project movedProject jsonOnly false = .ok two
      ∧ two.reports.map (·.path) = ["a.py"] := by
    rw [project, hmoved]
    exact exists_of_reportPaths (by decide +kernel)
  obtain ⟨report, hreport, hreport'⟩ := hsame testedProject movedProject unlinked_testedProject
    unlinked_movedProject true false one two hone htwo ["a.py"]
    (sourcePlaces_testedProject ▸ List.mem_cons_self)
    (sourcePlaces_movedProject ▸ List.mem_cons_self) (by decide +kernel)
  obtain ⟨few, hfew, hfewer⟩ := htests testedProject unlinked_testedProject one hone
  rw [project, htargets] at hone
  obtain ⟨first, second, hfirst, hsecond, happend⟩ :=
    (hcut testedProject ["/lib/a.py"] ["/lib/tests/t.py"] one).mp hone
  refine ⟨one, two, few, report, first, second, ?_, hpaths, htwo, hreport, hreport', hfew, hfewer,
    hfirst, hsecond, happend⟩
  rw [project, htargets]
  exact hone

end ImportPolicy.Check
