import ImportPolicy.Command.Run
import ImportPolicy.Proofs.Files.Collected
import ImportPolicy.Proofs.Files.SameFile
import ImportPolicy.Proofs.Report.Exactness

/-!
# An explanation agrees with a check

A report names a file and says which imports are not allowed in it; asked for
that name, `explain` says which ones are. The two share little. A check finds
the name from the whole path of a file, and an explanation from the name that
was printed; a check collects the patterns of the rules that match, and an
explanation goes through the rules twice, once for the rules and once for the
patterns. They agree nevertheless (`explain_agrees`).

That there is an explanation at all is the larger part. Its command looks at
the root, which a check does not, and it resolves the folder of the file that
was named, which can fail where links lead in a circle. A file with a report
was read, though: the walk to it has passed its folder, so the folder is
settled to a place that can be walked to (`Node.walk_settle_dropLast`).
-/

namespace ImportPolicy

/-! ## The folder of a file that was read -/

theorem Node.walk_place {root : Node} {place : Place} (hplace : Path.Plain place)
    (hfolder : root.isFolderAt place = true) : root.walk [] place = .ok place := by
  have hwalks : Walks root [] place (some place) 0 := walks_place hplace hfolder
  exact toOption_eq_some.mp (hwalks.toOption_walkWithin (Nat.zero_le _))

/-- **Where a row of names leads somewhere, its folder is settled to a folder
that can be walked to.** -/
theorem Node.walk_settle_dropLast {root : Node} {names : List String} {place : Place}
    (h : root.walk [] names = .ok place) (hnames : ∀ part ∈ names, '/' ∉ part.toList) :
    ∃ folder, root.walk [] (root.settle [] names.dropLast) = .ok folder := by
  have hnil : Path.Plain [] := fun _ hpart => absurd hpart List.not_mem_nil
  obtain rfl | ⟨front, last, rfl⟩ := names.eq_nil_or_concat
  · rw [List.dropLast_nil, settle_eq hnil (settleWithin_nil _ _ _ _)]
    exact ⟨place, h⟩
  · rw [List.concat_eq_append] at h hnames ⊢
    rw [List.dropLast_concat]
    obtain ⟨n, hn, hwalks⟩ := walks_of_walkWithin h (by simp)
    obtain ⟨mid, n₁, n₂, hfront, hlast, -⟩ | ⟨hout, -⟩ := hwalks.split
    · have hplain : Path.Plain mid := hfront.plain rfl hnil fun part hpart =>
        hnames part (List.mem_append_left _ hpart)
      have hsettle := settle_eq hplain (hfront.settles rfl).settleWithin_eq
      -- the last name was looked up, so there is a folder to look it up in
      have hfolder : root.isFolderAt mid = true := by
        cases hlast with
        | go hturn _ => exact isFolderAt_of_turn hturn Turn.noConfusion
        | follow hturn _ _ => exact isFolderAt_of_turn hturn Turn.noConfusion
      rw [hsettle]
      exact ⟨mid, walk_place hplain hfolder⟩
    · cases hout

namespace Project

variable {p : Project} {text : List Char} {name : String} {base : List String}

theorem hasNul_of_text? (h : p.text? name = some text) : (p.locate name).hasNul = false := by
  cases hnul : (p.locate name).hasNul with
  | false => rfl
  | true =>
    rw [text?_of_hasNul hnul] at h
    cases h

/-- **The name of a file that was read can be found again.** -/
theorem identityTrouble?_of_text? (hroot : p.root = ⟨.absolute, base⟩) (hbase : Path.Plain base)
    (h : p.text? name = some text) : p.identityTrouble? name = none := by
  have habsolute := isAbsolute_locate hroot name
  have hparent : (p.locate name).parent.isAbsolute = true := habsolute
  have hnul : (p.locate name).parent.hasNul = false :=
    Path.hasNul_eq_false.mpr fun part hpart =>
      Path.hasNul_eq_false.mp (hasNul_of_text? h) part (List.dropLast_subset _ hpart)
  obtain ⟨bytes, hbytes⟩ := readBytes_of_text? h
  rw [Workspace.readBytes, bind_eq_ok] at hbytes
  obtain ⟨node, hfind, -⟩ := hbytes
  rw [Workspace.find, bind_eq_ok, Workspace.origin, if_pos habsolute] at hfind
  obtain ⟨place, hwalk, -⟩ := hfind
  obtain ⟨folder, hfolder⟩ := Node.walk_settle_dropLast hwalk fun part hpart =>
    (Path.isName_iff.mp (isName_of_mem_locate hroot hbase hpart)).2.2
  unfold identityTrouble? Workspace.resolve Workspace.settled Workspace.origin
  rw [hnul, if_pos hparent]
  change p.work.files.walk [] (p.work.files.settle [] (p.locate name).parent.parts) = _ at hfolder
  simp [hfolder]

end Project

/-! ## The root of a project with a report -/

theorem Path.names_slash_between (front back : String) :
    names (front ++ "/" ++ back) = names front ++ names back := by
  have hslash : (front ++ "/" ++ back).toList = front.toList ++ '/' :: back.toList := by simp
  unfold names
  rw [hslash, Text.pieces_eq_splitOn, Text.pieces_eq_splitOn, Text.pieces_eq_splitOn,
    ← List.map_append]
  exact congrArg _ (List.splitOnP_append_cons _ _ (beq_self_eq_true '/'))

/-- Names are read back from the start of a path, whatever follows them. -/
theorem Path.subset_names_intercalate {base rest : List String}
    (hbase : ∀ part ∈ base, isName part = true) :
    base ⊆ names (String.intercalate "/" (base ++ rest)) := by
  by_cases hnil : base = []
  · rw [hnil]
    exact List.nil_subset _
  by_cases hrest : rest = []
  · rw [hrest, List.append_nil, names_intercalate hbase hnil]
    exact List.Subset.refl _
  · rw [String.intercalate_append_of_ne_nil hnil hrest, names_slash_between,
      names_intercalate hbase hnil]
    exact List.subset_append_left _ _

namespace Project

variable {p : Project} {text : List Char} {place : Place} {base : List String}
  {includeTests : Bool}

/-- The path that a collected file is read under starts with the root. -/
theorem base_subset_locate (hroot : p.root = ⟨.absolute, base⟩) (hbase : Path.Plain base)
    (place : Place) : base ⊆ (p.locate (p.identity (p.target place))).parts := by
  obtain ⟨inner, hname, hinner⟩ | hname := identity_cases hroot hbase (p.target place)
  · have hparts : ∀ part ∈ inner, Path.isName part = true :=
      hinner.elim Path.Plain.isName And.left
    rw [hname, locate_relative hroot hparts]
    exact List.subset_append_left _ _
  · rw [hname, locate_toString_locate hroot hbase]
    unfold locate Path.join
    split
    · have htarget : p.target place
          = Path.Anchor.absolute.slashes ++ String.intercalate "/" (base ++ place) := by
        unfold target
        rw [hroot]
        rfl
      rw [htarget, Path.parts_ofString]
      intro part hpart
      exact List.mem_filter.mpr
        ⟨Path.subset_names_intercalate hbase.isName hpart, hbase.isName part hpart⟩
    · rw [hroot]
      exact List.subset_append_left _ _

/-- **The root of a project is a folder that can be asked for**, if one of the
files that are collected below it was read. -/
theorem find_root_of_text? (hroot : p.root = ⟨.absolute, base⟩) (hbase : Path.Plain base)
    (hplace : place ∈ p.sourcePlaces includeTests)
    (htext : p.text? (p.identity (p.target place)) = some text) :
    p.root.hasNul = false ∧ ∃ entries, p.work.find p.root = .ok (.folder entries) := by
  obtain ⟨node, hnode, hbelow, -⟩ := mem_sourcePlaces hplace
  rw [hroot] at hnode ⊢
  constructor
  · refine Path.hasNul_eq_false.mpr fun part hpart => ?_
    exact Path.hasNul_eq_false.mp (hasNul_of_text? htext) part
      (base_subset_locate hroot hbase place hpart)
  · -- only a folder has something below it
    cases node with
    | file bytes => exact absurd hbelow List.not_mem_nil
    | link target => exact absurd hbelow List.not_mem_nil
    | folder entries =>
      have hfolder : p.work.files.isFolderAt base = true := by
        unfold Node.isFolderAt
        rw [hnode]
      refine ⟨entries, ?_⟩
      show (p.work.files.walk [] base >>= _) = _
      rw [Node.walk_place hbase hfolder, ok_bind, hnode]

end Project

/-! ## The rules that match -/

/-- **The rules that an explanation prints are those whose patterns a check
allows.** Where the patterns have an answer, so do the rules. -/
theorem Command.rulesFor_of_allowedBy {file : String} {rules : List Policy.Rule}
    {allowed : List String} (h : allowedBy file rules = .ok allowed) :
    ∃ found, rulesFor file rules = .ok found
      ∧ found = rules.filter (fun rule => Glob.matched file rule.filePattern)
      ∧ allowed = found.flatMap (·.allowed) := by
  induction rules generalizing allowed with
  | nil =>
    cases h
    exact ⟨[], rfl, rfl, rfl⟩
  | cons rule more ih =>
    rw [allowedBy, bind_eq_ok] at h
    obtain ⟨hit, hhit, h⟩ := h
    rw [bind_eq_ok] at h
    obtain ⟨later, hlater, h⟩ := h
    obtain ⟨found, hfound, hfilter, rfl⟩ := ih hlater
    cases h
    rw [rulesFor, hhit, ok_bind, hfound, ok_bind, List.filter_cons, Glob.matched_of_ok hhit,
      ← hfilter]
    cases hit with
    | true => exact ⟨rule :: found, rfl, rfl, rfl⟩
    | false => exact ⟨found, rfl, rfl, rfl⟩

/-! ## What a report says under the name of the policy -/

namespace Check

/-- What is allowed in the file of a report decides all that the report says
under the name of the policy. -/
theorem verdict_of_mem_file [CharacterNames] {w : Workspace} {path : Path} {p : Project}
    {policy : Policy} {target : String} (hp : Project.atPath w path = .ok p) {outcome : Outcome}
    (h : file p policy target = .ok outcome) {r : Report} (hr : r ∈ outcome.reports) :
    ∃ text allowed, p.text? r.path = some text ∧ policy.allowedFor r.path = .ok allowed
      ∧ ∀ d ∈ r.diagnostics, d.source = some policy.name →
        d.code = (verdict allowed).1.number ∧ d.message = (verdict allowed).2 := by
  have hpath := path_of_mem_file hp h hr
  obtain ⟨-, hreports⟩ | ⟨text, found, htext, hfound, hreports⟩ := file_eq_ok h
  · simp [hreports] at hr
  · rw [Project.identity_identity hp htext, ← hpath] at hfound
    obtain ⟨allowed, hallowed, hviolations⟩ := Policy.evaluate_eq_ok hfound
    refine ⟨text, allowed, hpath ▸ htext, hallowed, fun d hd hsource => ?_⟩
    have hsaid := saidUnder_violations hfound (p.syntaxDiagnostics (p.identity target))
    dsimp only at hreports
    split at hreports
    · simp [hreports] at hr
    · rw [hreports] at hr
      rw [List.mem_singleton.mp hr] at hd
      have hmem := hsaid ▸ List.mem_filter.mpr ⟨hd, decide_eq_true hsource⟩
      obtain ⟨v, hv, rfl⟩ := List.mem_map.mp hmem
      obtain ⟨o, -, rfl⟩ := List.mem_map.mp (hviolations ▸ hv)
      exact ⟨rfl, rfl⟩

end Check

/-! ## Explanations -/

namespace Command

open Check (project)

variable {w : Workspace} {p : Project} {policy : Policy} {r : Report} {allowed : List String}

/-- What an explanation starts with: the name of the file, and a line for each
rule that matches it. -/
def heading (file : String) (rules : List Policy.Rule) : String :=
  file ++ "\n" ++ String.join (rules.map ruleLine)

/-- The line of an explanation for a file for which nothing is configured. -/
def hint : String := "  " ++ unconfiguredMessage ++ "\n"

/-- The lines of an explanation that list patterns. -/
def listing (allowed : List String) : String :=
  "  allowed imports:\n" ++ String.join (allowed.map fun pattern => "    - " ++ pattern ++ "\n")

/-- How an explanation agrees with a report. -/
structure Explained (policy : Policy) (r : Report) (output : String) (rules : List Policy.Rule)
    (allowed : List String) : Prop where
  /-- The name of the report comes first, then the rules, and then the hint or
  the patterns. -/
  printed : output = heading r.path rules ++ if allowed = [] then hint else listing allowed
  rules_eq : rules = policy.rules.filter (fun rule => Glob.matched r.path rule.filePattern)
  /-- The patterns are those of the rules, one rule after the other. -/
  allowed_eq : allowed = rules.flatMap (·.allowed)
  /-- The report lists the patterns that are printed. -/
  listed : ∀ d ∈ r.diagnostics, d.source = some policy.name → d.code = 2 →
    output = heading r.path rules ++ listing allowed ∧ d.message = disallowedMessage allowed
  /-- The hint is printed where the report says that nothing is configured. -/
  hinted : (∃ d ∈ r.diagnostics, d.source = some policy.name) →
    (output = heading r.path rules ++ hint
      ↔ ∀ d ∈ r.diagnostics, d.source = some policy.name → d.code = 1)

theorem allowedLines_eq (allowed : List String) :
    allowedLines allowed = if allowed = [] then hint else listing allowed := by
  cases allowed with
  | nil => rfl
  | cons pattern more => rfl

/-- The hint is no list of patterns. -/
theorem listing_ne_hint (allowed : List String) : listing allowed ≠ hint := by
  intro h
  have hblanks : "  allowed imports:\n" = "  " ++ "allowed imports:\n" := by decide +kernel
  unfold listing hint unconfiguredMessage at h
  rw [hblanks, String.append_assoc, String.append_assoc, String.append_right_inj] at h
  have hfirst := congrArg (fun text => text.toList.head?) h
  simp at hfirst

/-- What is printed agrees with what is said, if both come from the patterns
of the rules that match. -/
theorem explained_of_verdict {rules : List Policy.Rule}
    (hrules : rules = policy.rules.filter (fun rule => Glob.matched r.path rule.filePattern))
    (hallowed : allowed = rules.flatMap (·.allowed))
    (hsaid : ∀ d ∈ r.diagnostics, d.source = some policy.name →
      d.code = (verdict allowed).1.number ∧ d.message = (verdict allowed).2) :
    Explained policy r (heading r.path rules ++ allowedLines allowed) rules allowed where
  printed := by rw [allowedLines_eq]
  rules_eq := hrules
  allowed_eq := hallowed
  listed d hd hsource hcode := by
    obtain ⟨hnumber, hmessage⟩ := hsaid d hd hsource
    unfold verdict at hnumber hmessage
    by_cases hnil : allowed = []
    · rw [hnil, hcode] at hnumber
      cases hnumber
    · rw [allowedLines_eq, if_neg hnil]
      rw [if_neg (by simpa using hnil)] at hmessage
      exact ⟨rfl, hmessage⟩
  hinted hsome := by
    obtain ⟨d, hd, hsource⟩ := hsome
    rw [allowedLines_eq]
    unfold verdict at hsaid
    by_cases hnil : allowed = []
    · rw [if_pos hnil]
      rw [hnil] at hsaid
      exact ⟨fun _ d hd hsource => (hsaid d hd hsource).1, fun _ => rfl⟩
    · rw [if_neg hnil]
      rw [if_neg (by simpa using hnil)] at hsaid
      constructor
      · intro h
        exact absurd ((String.append_right_inj _).mp h) (listing_ne_hint allowed)
      · intro hall
        have hone := (hsaid d hd hsource).1
        rw [hall d hd hsource] at hone
        cases hone

/-- A report on a target has an explanation that agrees with it. -/
theorem explain_of_mem_file [CharacterNames] {path : Path} (hp : Project.atPath w path = .ok p)
    {target : String} {outcome : Check.Outcome} (h : Check.file p policy target = .ok outcome)
    (hr : r ∈ outcome.reports) (s : Settings) :
    ∃ a rules allowed, explain { s with file := r.path } p policy = .ok a
      ∧ Explained policy r a.output rules allowed := by
  obtain ⟨base, hroot, hbase⟩ := Project.root_of_atPath hp
  obtain ⟨text, allowed, htext, hallowed, hsaid⟩ := Check.verdict_of_mem_file hp h hr
  obtain ⟨rules, hfound, hrules, hconcat⟩ := rulesFor_of_allowedBy hallowed
  have htrouble := Project.identityTrouble?_of_text? hroot hbase htext
  have hidentity : p.identity r.path = r.path := by
    rw [Check.path_of_mem_file hp h hr] at htext ⊢
    exact Project.identity_identity hp htext
  refine ⟨⟨codeFine, heading r.path rules ++ allowedLines allowed,
    (policy.ruleNotes ++ policy.ruleNotes).map Check.rejectionRecord⟩, rules, allowed, ?_,
    explained_of_verdict hrules hconcat hsaid⟩
  unfold explain
  dsimp only
  rw [htrouble, hidentity, hfound, hallowed]
  rfl

/-- The command that explains finds nothing wrong with the root of a project
that has a report. -/
theorem rootProblem?_of_mem_file [CharacterNames] {path : Path} (hp : Project.atPath w path = .ok p)
    {place : Place} {includeTests : Bool} (hplace : place ∈ p.sourcePlaces includeTests)
    {outcome : Check.Outcome} (h : Check.file p policy (p.target place) = .ok outcome)
    (hr : r ∈ outcome.reports) : rootProblem? w p.root = none := by
  obtain ⟨base, hroot, hbase⟩ := Project.root_of_atPath hp
  obtain ⟨text, -, htext, -⟩ := Check.verdict_of_mem_file hp h hr
  rw [Check.path_of_mem_file hp h hr] at htext
  obtain ⟨hnul, entries, hfind⟩ := Project.find_root_of_text? hroot hbase hplace htext
  have hwork : p.work = w := by
    rw [Project.atPath, bind_eq_ok] at hp
    obtain ⟨root, -, hp⟩ := hp
    cases hp
    rfl
  rw [hwork] at hfind
  unfold rootProblem? Workspace.exists? Workspace.isFolder
  rw [hnul, hfind]
  rfl

/-- **An explanation agrees with a check.** For every file tree, root and
policy for which a check has an outcome, and for each of its reports, the name
of the report can be explained, and the explanation agrees with the report.
The command prints that explanation wherever the policy is the one that it
loads. -/
theorem explain_agrees [CharacterNames] {s : Settings}
    (hp : Project.atPath w (.ofString s.path) = .ok p) {includeTests : Bool}
    {outcome : Check.Outcome} (h : project p policy includeTests = .ok outcome)
    (hr : r ∈ outcome.reports) :
    ∃ a rules allowed, explain { s with file := r.path } p policy = .ok a
      ∧ Explained policy r a.output rules allowed
      ∧ ∀ env record, Policy.load w env p.root (s.config.map Path.ofString) = .ok (policy, record) →
        answer w env ⟨.explain, { s with file := r.path }⟩
          = .ok { a with records := record :: a.records } := by
  obtain ⟨target, htarget, one, hone, hr⟩ := (Check.mem_reports_files h).mp hr
  rw [Project.targets_eq] at htarget
  obtain ⟨place, hplace, rfl⟩ := List.mem_map.mp htarget
  obtain ⟨a, rules, allowed, hexplain, hexplained⟩ := explain_of_mem_file hp hone hr s
  refine ⟨a, rules, allowed, hexplain, hexplained, fun env record hload => ?_⟩
  unfold answer withPolicy
  dsimp only
  rw [hp]
  dsimp only
  rw [rootProblem?_of_mem_file hp hplace hone hr, hload]
  dsimp only
  rw [hexplain]
  rfl

/-- A project that is reached through a link, with a file that two rules match
and that imports something else. -/
def linkedTree : Node :=
  .folder [("project", .link "lib"), ("lib", .folder [
    (Policy.policyFile,
      .file "[imports]\n'a.py' = ['json']\n'*.py' = ['re', 'json']".toUTF8.toList),
    ("a.py", .file "import os".toUTF8.toList)])]

/-- The policy of the linked project. -/
def linkedPolicy : Policy where
  rules := [⟨"a.py", ["json"]⟩, ⟨"*.py", ["re", "json"]⟩]

/-- The linked project, with the link to it followed. -/
def linkedProject : Project := ⟨⟨linkedTree, []⟩, .ofString "/lib"⟩

/-- The linked project has one report, under the name that the file has below
the root. Asked for that name through the link, the command prints both rules
and their three patterns, one of them twice. -/
theorem explain_agrees_linked :
    ∃ (outcome : Check.Outcome) (r : Report) (a : Answer) (record : Log.Record),
      Project.atPath ⟨linkedTree, []⟩ (.ofString "/project") = .ok linkedProject
      ∧ project linkedProject linkedPolicy false = .ok outcome
      ∧ outcome.reports = [r] ∧ r.path = "a.py" ∧ r.diagnostics.map (·.code) = [2]
      ∧ Explained linkedPolicy r a.output linkedPolicy.rules ["json", "re", "json"]
      ∧ answer ⟨linkedTree, []⟩ [] ⟨.explain, { path := "/project", file := "a.py" }⟩
        = .ok { a with records := record :: a.records } := by
  have hroot : (⟨linkedTree, []⟩ : Workspace).resolve (.ofString "/project")
      = .ok (.ofString "/lib") := by decide +kernel
  have hp : Project.atPath ⟨linkedTree, []⟩ (.ofString "/project") = .ok linkedProject := by
    rw [Project.atPath, hroot]
    rfl
  have hload : (Policy.load ⟨linkedTree, []⟩ [] linkedProject.root none).toOption.map (·.1)
      = some linkedPolicy := by decide +kernel
  have hrun : ((project linkedProject linkedPolicy false).toOption.map fun outcome =>
      outcome.reports.map fun r => (r.path, r.diagnostics.map (·.code)))
      = some [("a.py", [2])] := by decide +kernel
  obtain ⟨⟨policy, record⟩, hload, hpolicy⟩ := Option.map_eq_some_iff.mp hload
  obtain ⟨outcome, houtcome, hreports⟩ := Option.map_eq_some_iff.mp hrun
  obtain ⟨r, hr, hreport⟩ := List.map_eq_singleton_iff.mp hreports
  obtain ⟨hpath, hcodes⟩ := Prod.mk.inj hreport
  have hproject := toOption_eq_some.mp houtcome
  obtain ⟨a, rules, allowed, -, hexplained, hanswer⟩ :=
    explain_agrees (s := { path := "/project" }) hp hproject (hr ▸ List.mem_singleton_self r)
  have hrules : rules = linkedPolicy.rules := by
    rw [hexplained.rules_eq, hpath]
    decide +kernel
  have hallowed : allowed = ["json", "re", "json"] := by
    rw [hexplained.allowed_eq, hrules]
    rfl
  rw [hrules, hallowed] at hexplained
  rw [hpath] at hanswer
  refine ⟨outcome, r, a, record, hp, hproject, hr, hpath, hcodes, hexplained, ?_⟩
  exact hanswer [] record (hpolicy ▸ toOption_eq_some.mp hload)

end Command

end ImportPolicy
