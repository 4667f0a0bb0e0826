import ImportPolicy.Command.Run
import ImportPolicy.Proofs.Report.Exactness
import ImportPolicy.Proofs.Report.ReadBack

/-!
# The exit code and the two formats agree

A check ends with a code, and it prints either a text for people or an array
for programs. The three are made from the same reports, each with an
emptiness test of its own: the code asks whether there is a report, the text
whether it came out empty, the count in its last line whether there is a
diagnostic, and the array whether there is an item. They agree because no
report is empty: what a check keeps of its targets is exactly what is said
about those about which something is said (`diagnostics_files`).

What is said about a target is fixed before any report is made (`said`), so
the code, the count of problems and the count of files are all counts over
the targets.
-/

namespace ImportPolicy.Check

variable {p : Project} {policy : Policy} {target : String} {targets : List String}

/-- What is said about a target: nothing if it cannot be read, and otherwise
what the project says once the policy has been put around it. -/
def said [CharacterNames] (p : Project) (policy : Policy) (target : String) : List Diagnostic :=
  match p.text? (p.identity target) with
  | none => []
  | some _ => match (p.service.guard policy).diagnostics (p.identity target) with
    | .ok found => found
    | .error _ => []

/-- All that is said about some targets. -/
def problems [CharacterNames] (p : Project) (policy : Policy)
    (targets : List String) : List Diagnostic :=
  targets.flatMap (said p policy)

/-- The targets about which something is said. -/
def troubled [CharacterNames] (p : Project) (policy : Policy)
    (targets : List String) : List String :=
  targets.filter (said p policy · ≠ [])

/-! ## Reports of a check -/

/-- A diagnostic stays within a text. -/
structure Within (text : List Char) (d : Diagnostic) : Prop where
  start : d.start.natAbs ≤ text.length
  length : d.length.natAbs ≤ text.length
  code : d.code.natAbs ≤ 2

theorem within_of_mem_syntaxDiagnostics [CharacterNames] {name : String} {text : List Char}
    {d : Diagnostic} (htext : p.text? name = some text) (hd : d ∈ p.syntaxDiagnostics name) :
    Within text d := by
  unfold Project.syntaxDiagnostics at hd
  rw [htext] at hd
  dsimp only at hd
  split at hd
  · cases hd
  · rw [List.mem_singleton.mp hd]
    refine ⟨?_, Nat.zero_le _, Nat.zero_le _⟩
    exact Nat.min_le_right _ _

theorem within_of_mem_evaluate [CharacterNames] {file : String} {text : List Char}
    {found : List Violation} {v : Violation}
    (h : policy.evaluate file (Source.imports text) = .ok found) (hv : v ∈ found) :
    Within text v.toDiagnostic := by
  obtain ⟨allowed, -, rfl⟩ := Policy.evaluate_eq_ok h
  obtain ⟨o, ho, rfl⟩ := List.mem_map.mp hv
  obtain ⟨himport, hunpermitted⟩ := List.mem_filter.mp ho
  have hknown : o.isKnown = true := decide_eq_true (unpermitted_iff.mp hunpermitted).1
  obtain ⟨before, behind, rfl, hstart, hstop⟩ := (Source.truthful_imports himport).placed hknown
  have hlength : (before ++ (o.specifier.toList ++ behind)).length
      = before.length + (o.specifier.toList.length + behind.length) := by simp
  refine ⟨?_, ?_, ?_⟩
  · show o.start.natAbs ≤ _
    omega
  · show (max o.start o.stop - o.start).natAbs ≤ _
    omega
  · show ((verdict allowed).1.number : Int).natAbs ≤ 2
    cases (verdict allowed).1 <;> decide

/-- What a check of one target reports: what is said about the target, unless
that is nothing. -/
theorem reports_of_file [CharacterNames] {outcome : Outcome}
    (h : file p policy target = .ok outcome) :
    outcome.reports.map (·.diagnostics) = [said p policy target].filter (· ≠ [])
    ∧ ∀ r ∈ outcome.reports, ∃ text, p.text? (p.identity target) = some text
      ∧ r.text = String.ofList text ∧ ∀ d ∈ r.diagnostics, Within text d := by
  obtain ⟨htext, hreports⟩ | ⟨text, found, htext, hfound, hreports⟩ := file_eq_ok h
  · have hsaid : said p policy target = [] := by
      unfold said
      rw [htext]
    simp [hreports, hsaid]
  · have hsaid : said p policy target = (p.syntaxDiagnostics (p.identity target)).filter
        (·.source ≠ some policy.name) ++ found.map (·.toDiagnostic) := by
      unfold said
      rw [htext]
      dsimp only
      rw [guarded_diagnostics htext hfound]
    dsimp only at hreports
    rw [← hsaid] at hreports
    by_cases hnil : said p policy target = []
    · simp [hreports, hnil]
    · rw [if_neg (by simpa using hnil)] at hreports
      rw [hreports]
      refine ⟨by simp [hnil], fun r hr => ⟨text, htext, ?_⟩⟩
      rw [List.mem_singleton.mp hr]
      refine ⟨rfl, fun d hd => ?_⟩
      dsimp only at hd
      rw [hsaid] at hd
      obtain hd | hd := List.mem_append.mp hd
      · exact within_of_mem_syntaxDiagnostics htext (List.mem_of_mem_filter hd)
      · obtain ⟨v, hv, rfl⟩ := List.mem_map.mp hd
        exact within_of_mem_evaluate hfound hv

/-- **A check keeps what is said about its targets**, a report for each target
about which something is said. -/
theorem diagnostics_files [CharacterNames] {outcome : Outcome}
    (h : files p policy targets = .ok outcome) :
    outcome.reports.map (·.diagnostics) = (targets.map (said p policy)).filter (· ≠ [])
    ∧ ∀ r ∈ outcome.reports, ∃ target ∈ targets, ∃ text, p.text? (p.identity target) = some text
      ∧ r.text = String.ofList text ∧ ∀ d ∈ r.diagnostics, Within text d := by
  induction targets generalizing outcome with
  | nil =>
    cases h
    simp
  | cons target more ih =>
    rw [files, bind_eq_ok] at h
    obtain ⟨first, hfirst, h⟩ := h
    rw [bind_eq_ok] at h
    obtain ⟨later, hlater, h⟩ := h
    cases h
    obtain ⟨hone, hwithin⟩ := reports_of_file hfirst
    obtain ⟨hmore, hwithins⟩ := ih hlater
    refine ⟨?_, fun r hr => ?_⟩
    · rw [Outcome.append, List.map_append, hone, hmore, List.map_cons, ← List.filter_append]
      rfl
    · obtain hr | hr := List.mem_append.mp hr
      · exact ⟨target, List.mem_cons_self, hwithin r hr⟩
      · obtain ⟨other, hother, hr⟩ := hwithins r hr
        exact ⟨other, List.mem_cons_of_mem _ hother, hr⟩

/-- There is a report for each target about which something is said. -/
theorem length_reports [CharacterNames] {outcome : Outcome}
    (h : files p policy targets = .ok outcome) :
    outcome.reports.length = (troubled p policy targets).length := by
  rw [← List.length_map (·.diagnostics), (diagnostics_files h).1, List.filter_map,
    List.length_map, troubled]
  -- nothing depends on what is said, and it must not be evaluated here
  generalize said p policy = f
  rfl

/-- The reports hold all that is said, in order. -/
theorem diagnostics_all [CharacterNames] {outcome : Outcome}
    (h : files p policy targets = .ok outcome) :
    (Report.all outcome.reports).map (·.2) = problems p policy targets := by
  have hall : (Report.all outcome.reports).map (·.2)
      = (outcome.reports.map (·.diagnostics)).flatten := by
    simp [Report.all, List.flatMap_def, Function.comp_def]
  rw [hall, (diagnostics_files h).1, problems, List.flatMap_def]
  exact List.flatten_filter_ne_nil

/-- A line or a column of a text is at most one more than its length. -/
theorem lineColumn_le (text : List Char) (offset : Int) :
    (Report.lineColumn text offset).1 ≤ text.length + 1
      ∧ (Report.lineColumn text offset).2 ≤ text.length + 1 := by
  have hbefore : (text.take (Report.clamp text.length offset)).length ≤ text.length :=
    List.length_take_le' _ _
  have hcount := @List.count_le_length _ _ '\n' (text.take (Report.clamp text.length offset))
  have hlast : Report.lastLineLength (text.take (Report.clamp text.length offset))
      ≤ (text.take (Report.clamp text.length offset)).length := by
    unfold Report.lastLineLength
    exact (List.takeWhile_prefix _).length_le.trans (List.length_reverse ..).le
  unfold Report.lineColumn
  dsimp only
  omega

/-- The numbers of a report can be read if its text is not too long. -/
theorem legible_of_within {r : Report} {text : List Char} {d : Diagnostic}
    (htext : r.text = String.ofList text) (hd : Within text d)
    (hshort : text.length + 1 < Document.Value.leastLong) : r.Legible d := by
  have hplace := lineColumn_le text d.start
  have htwo : 2 < Document.Value.leastLong := by decide +kernel
  refine ⟨?_, ?_, ?_, ?_, ?_⟩
  · exact Nat.lt_of_le_of_lt hd.start (Nat.lt_of_succ_lt hshort)
  · exact Nat.lt_of_le_of_lt hd.length (Nat.lt_of_succ_lt hshort)
  · rw [htext, String.toList_ofList]
    exact Nat.lt_of_le_of_lt hplace.1 hshort
  · rw [htext, String.toList_ofList]
    exact Nat.lt_of_le_of_lt hplace.2 hshort
  · exact Nat.lt_of_le_of_lt hd.code htwo

/-- The texts of some targets are short enough for every place in them to be
read as a number. -/
def ShortTexts (p : Project) (targets : List String) : Prop :=
  ∀ target ∈ targets, ∀ text, p.text? (p.identity target) = some text →
    text.length + 1 < Document.Value.leastLong

theorem legible_files [CharacterNames] {outcome : Outcome}
    (h : files p policy targets = .ok outcome) (hshort : ShortTexts p targets)
    {r : Report} {d : Diagnostic}
    (hmem : (r, d) ∈ Report.all outcome.reports) : r.Legible d := by
  obtain ⟨hr, hd⟩ := Report.of_mem_all hmem
  obtain ⟨target, htarget, text, hread, htext, hwithin⟩ := (diagnostics_files h).2 r hr
  exact legible_of_within htext (hwithin d hd) (hshort target htarget text hread)

end ImportPolicy.Check

namespace ImportPolicy.Report

/-! ## Places in both formats -/

/-- An entry for people at a place. -/
def entryAt (path : String) (line column : Nat) (about : String) : String :=
  path ++ ":" ++ toString line ++ ":" ++ toString column ++ ": " ++ about

/-- The members of an object and an entry name the same path, line and
column. -/
def SamePlace (object : List (String × List Char)) (entry : String) : Prop :=
  ∃ (path : String) (line column : Nat) (about : String),
    object.lookup "file" = some (Document.Json.writeString path)
    ∧ object.lookup "line" = some (writeInt line)
    ∧ object.lookup "column" = some (writeInt column)
    ∧ entry = entryAt path line column about

/-- A value read from an array is a table with the path, the line and the
column of an entry. -/
def ReadAsPlace (item : Document.Value) (entry : String) : Prop :=
  ∃ (table : Document.Entries) (path : String) (line column : Nat) (about : String),
    item = .table table
    ∧ Document.Entries.get? table "file" = some (.text path)
    ∧ Document.Entries.get? table "line" = some (.int line)
    ∧ Document.Entries.get? table "column" = some (.int column)
    ∧ entry = entryAt path line column about

/-- An entry starts with the place of its diagnostic. -/
theorem entry_eq {reports : List Report} {r : Report} {d : Diagnostic} (h : (r, d) ∈ all reports) :
    ∃ about, r.entry d = entryAt r.path (lineColumn r.text.toList d.start).1
      (lineColumn r.text.toList d.start).2 about :=
  (printed_lineColumn (of_mem_all h).1 (of_mem_all h).2).head

theorem samePlace {reports : List Report} {r : Report} {d : Diagnostic}
    (h : (r, d) ∈ all reports) : SamePlace (r.members d) (r.entry d) := by
  obtain ⟨about, habout⟩ := entry_eq h
  exact ⟨_, _, _, about, rfl, rfl, rfl, habout⟩

theorem readAsPlace {reports : List Report} {r : Report} {d : Diagnostic}
    (h : (r, d) ∈ all reports) : ReadAsPlace (.table (r.table d)) (r.entry d) := by
  obtain ⟨about, habout⟩ := entry_eq h
  exact ⟨_, _, _, _, about, rfl, rfl, rfl, rfl, habout⟩

/-- The entries of some reports, in order. -/
def entries (reports : List Report) : List String := (all reports).map fun (r, d) => r.entry d

theorem length_entries (reports : List Report) : (entries reports).length = total reports := by
  simp [entries, all, total, List.length_flatMap]

/-- The text for people is empty, or it ends with the line that counts. -/
theorem render_eq (reports : List Report) :
    render reports = if entries reports = [] then ""
      else "\n".intercalate (entries reports ++ ["", summary reports]) := by
  have hentries : reports.flatMap (fun r => r.diagnostics.map r.entry) = entries reports := by
    simp [entries, all, List.map_flatMap, Function.comp_def]
  unfold render
  dsimp only
  rw [hentries, ← length_entries]
  by_cases hnil : entries reports = []
  · simp [hnil]
  · simp [hnil]

/-- A text that ends with the line that counts is not empty. -/
theorem intercalate_summary_ne (lines : List String) (reports : List Report) :
    "\n".intercalate (lines ++ ["", summary reports]) ≠ "" := by
  intro hempty
  have hmem : summary reports ∈ lines ++ ["", summary reports] := by simp
  have hinfix := @infix_intercalate "\n" _ _ hmem
  rw [hempty] at hinfix
  have hnil := List.eq_nil_of_infix_nil hinfix
  simp [summary] at hnil

/-- The array for programs is empty, or it lists the objects. -/
theorem toJson_eq_if (reports : List Report) :
    toJson reports = if entries reports = [] then "[]"
      else String.ofList ('[' :: (commas ((objects reports).map writeObject) ++ ['\n', ']'])) := by
  unfold entries
  rw [← String.toList_inj]
  by_cases hnil : all reports = []
  · rw [hnil, if_pos List.map_nil, toJson, hnil]
  · have hobject : onLine ∘ braced = writeObject := funext fun ms => (writeObject_eq ms).symm
    rw [if_neg (mt List.map_eq_nil_iff.mp hnil), toJson_eq hnil, List.map_map, hobject,
      String.toList_ofList]

end ImportPolicy.Report

namespace ImportPolicy.Command

open Check (said problems troubled)

variable {w : Workspace} {env : Environment} {s : Settings} {p : Project} {policy : Policy}

/-! ## The command -/

/-- A check cannot begin: its root is missing or no folder, or its
configuration is refused. -/
def Refused (w : Workspace) (env : Environment) (p : Project) (s : Settings) : Prop :=
  w.exists? p.root = false ∨ w.isFolder p.root = false
    ∨ ∃ f, Policy.load w env p.root (s.config.map Path.ofString) = .error (.refused f)

/-- A request for a check in a format. -/
def checkIn (s : Settings) (format : Format) : Request :=
  { name := .check, settings := { s with format } }

/-- The answer of a check that came to a result. -/
def checked (policy : Policy) (record : Log.Record) (found : Check.Outcome) (format : Format) :
    Answer where
  code := if found.reports.isEmpty then codeFine else codeProblems
  output := reportText policy found.reports format ++ "\n"
  records := record :: found.records

theorem rootProblem?_eq_none {root : Path} :
    rootProblem? w root = none ↔ w.exists? root = true ∧ w.isFolder root = true := by
  unfold rootProblem?
  cases w.exists? root <;> cases w.isFolder root <;> simp

/-- **How a check ends**: it is refused, whatever the format, or it comes to a
result, which every format shows. -/
theorem answer_checkIn [CharacterNames] {format : Format} {a : Answer}
    (h : answer w env (checkIn s format) = .ok a) :
    ∃ p, Project.atPath w (.ofString s.path) = .ok p
      ∧ ((Refused w env p s ∧ a.code = codeUsage ∧ a.output = ""
          ∧ ∀ other, answer w env (checkIn s other) = .ok a)
        ∨ (¬ Refused w env p s ∧ ∃ policy record found,
          Policy.load w env p.root (s.config.map Path.ofString) = .ok (policy, record)
          ∧ Check.files p policy (p.targets s.includeTests) = .ok found
          ∧ a = checked policy record found format
          ∧ ∀ other,
            answer w env (checkIn s other) = .ok (checked policy record found other))) := by
  have hanswer (other : Format) : answer w env (checkIn s other)
      = withPolicy w env { s with format := other } (check { s with format := other }) := rfl
  simp only [hanswer] at h ⊢
  unfold withPolicy at h ⊢
  dsimp only at h ⊢
  cases hp : Project.atPath w (.ofString s.path) with
  | error t =>
    rw [hp] at h
    cases h
  | ok p =>
    rw [hp] at h
    dsimp only at h ⊢
    refine ⟨p, rfl, ?_⟩
    cases hroot : rootProblem? w p.root with
    | some problem =>
      rw [hroot] at h
      cases h
      have hrefused : Refused w env p s := by
        have hnot : ¬ (w.exists? p.root = true ∧ w.isFolder p.root = true) := fun hboth => by
          rw [rootProblem?_eq_none.mpr hboth] at hroot
          cases hroot
        rw [not_and_or, Bool.not_eq_true, Bool.not_eq_true] at hnot
        exact hnot.imp_right .inl
      exact .inl ⟨hrefused, rfl, rfl, fun _ => rfl⟩
    | none =>
      rw [hroot] at h
      dsimp only at h ⊢
      obtain ⟨hexists, hfolder⟩ := rootProblem?_eq_none.mp hroot
      have hrefused : Refused w env p s ↔ ∃ f,
          Policy.load w env p.root (s.config.map Path.ofString) = .error (.refused f) := by
        simp [Refused, hexists, hfolder]
      rw [hrefused]
      cases hload : Policy.load w env p.root (s.config.map Path.ofString) with
      | error e =>
        rw [hload] at h
        cases e with
        | refused f =>
          cases h
          exact .inl ⟨⟨f, rfl⟩, rfl, rfl, fun _ => rfl⟩
        | interrupted i => cases h
      | ok loaded =>
        obtain ⟨policy, record⟩ := loaded
        rw [hload] at h
        dsimp only at h ⊢
        rw [bind_eq_ok] at h
        obtain ⟨one, hone, h⟩ := h
        cases h
        rw [check, bind_eq_ok] at hone
        obtain ⟨found, hfound, hone⟩ := hone
        cases hone
        refine .inr ⟨by simp, policy, record, found, rfl, hfound, rfl, fun other => ?_⟩
        have hproject : Check.project p policy s.includeTests = .ok found := hfound
        rw [check, hproject]
        rfl

/-- **What both formats say about some targets.** -/
structure Agreement [CharacterNames] (p : Project) (policy : Policy) (targets : List String)
    (text json : String) (entries : List String)
    (objects : List (List (String × List Char))) : Prop where
  /-- There is an entry for each diagnostic. -/
  entries_length : entries.length = (problems p policy targets).length
  /-- The entries and the objects name the same places, one after the
  other. -/
  same_places : List.Forall₂ Report.SamePlace objects entries
  /-- The text ends with the number of problems and files, or says that there
  are none. -/
  text_eq : text = (if problems p policy targets = [] then
      "importguard: no policy violations (" ++ toString policy.rules.length ++ " rule(s))"
    else "\n".intercalate (entries ++ ["", toString (problems p policy targets).length
      ++ " problem(s) in " ++ toString (troubled p policy targets).length ++ " file(s)"])) ++ "\n"
  /-- The array lists the objects. -/
  json_eq : json = (if problems p policy targets = [] then "[]" else String.ofList
    ('[' :: (Report.commas (objects.map Report.writeObject) ++ ['\n', ']']))) ++ "\n"
  /-- What is read from the array are as many tables, with the places of the
  entries. -/
  json_read : Check.ShortTexts p targets → ∃ items,
    Document.Json.read json.toList = .ok (.array items)
      ∧ items.length = (problems p policy targets).length
      ∧ List.Forall₂ Report.ReadAsPlace items entries

theorem agreement_reportText [CharacterNames] {targets : List String} {found : Check.Outcome}
    (h : Check.files p policy targets = .ok found) :
    Agreement p policy targets (reportText policy found.reports .text ++ "\n")
      (reportText policy found.reports .json ++ "\n") (Report.entries found.reports)
      (Report.objects found.reports) := by
  have hlength : (Report.entries found.reports).length = (problems p policy targets).length := by
    rw [← Check.diagnostics_all h, Report.entries, List.length_map, List.length_map]
  have hnil : Report.entries found.reports = [] ↔ problems p policy targets = [] := by
    rw [← List.length_eq_zero_iff, hlength, List.length_eq_zero_iff]
  refine ⟨hlength, ?_, ?_, ?_, fun hshort => ?_⟩
  · rw [Report.objects, Report.entries, List.forall₂_map_left_iff, List.forall₂_map_right_iff,
      List.forall₂_same]
    exact fun rd hrd => Report.samePlace hrd
  · congr 1
    have hsummary : Report.summary found.reports
        = toString (problems p policy targets).length ++ " problem(s) in "
          ++ toString (troubled p policy targets).length ++ " file(s)" := by
      rw [Report.summary, ← Report.length_entries, hlength, Check.length_reports h]
    unfold reportText
    dsimp only
    rw [Report.render_eq, ← hsummary]
    simp only [hnil]
    split
    · rw [if_pos rfl]
    · rw [if_neg (Report.intercalate_summary_ne _ _)]
  · congr 1
    unfold reportText
    rw [Report.toJson_eq_if]
    simp only [hnil]
  · have hread := @Report.read_toJson found.reports ['\n'] rfl fun r d =>
      Check.legible_files h hshort
    refine ⟨Report.tables found.reports, ?_, ?_, ?_⟩
    · rw [String.toList_append]
      exact hread
    · rw [← hlength, Report.tables, Report.entries, List.length_map, List.length_map]
    · rw [Report.tables, Report.entries, List.forall₂_map_left_iff, List.forall₂_map_right_iff,
        List.forall₂_same]
      exact fun rd hrd => Report.readAsPlace hrd

/-- A check that came to a result ends with the code for problems if something
is said about one of its targets, and with the code for none otherwise. -/
theorem code_checked [CharacterNames] {targets : List String} {found : Check.Outcome}
    (h : Check.files p policy targets = .ok found) (record : Log.Record) (format : Format) :
    ((checked policy record found format).code = codeProblems
        ↔ ∃ target ∈ targets, said p policy target ≠ [])
      ∧ ((checked policy record found format).code = codeFine
        ↔ ∀ target ∈ targets, said p policy target = []) := by
  have hempty : found.reports.isEmpty = true ↔ ∀ target ∈ targets, said p policy target = [] := by
    rw [List.isEmpty_iff, ← List.length_eq_zero_iff, Check.length_reports h,
      List.length_eq_zero_iff, troubled, List.filter_eq_nil_iff]
    simp
  have hsome : (∃ target ∈ targets, said p policy target ≠ [])
      ↔ ¬ ∀ target ∈ targets, said p policy target = [] := by simp
  rw [hsome, ← hempty]
  unfold checked
  dsimp only
  cases found.reports.isEmpty <;> decide

/-- **The exit code and the two formats of a check agree.** For every file
tree, environment and settings for which a check has an answer:

* it ends with the code for a request that cannot be met, and prints nothing,
  exactly if the root is missing or no folder or the configuration is
  refused;
* it has an answer in the other format too, with the same code;
* unless it is refused, it ends with the code for problems if something is
  said about one of the source files that can be read, and with the code for
  none otherwise; and what the two formats print agrees. -/
theorem check_formats_agree [CharacterNames] {format : Format} {a : Answer}
    (h : answer w env (checkIn s format) = .ok a) :
    ∃ p, Project.atPath w (.ofString s.path) = .ok p
      ∧ (a.code = codeUsage ∧ a.output = "" ↔ Refused w env p s)
      ∧ (∀ other, ∃ b, answer w env (checkIn s other) = .ok b ∧ b.code = a.code)
      ∧ (¬ Refused w env p s → ∃ policy record,
          Policy.load w env p.root (s.config.map Path.ofString) = .ok (policy, record)
          ∧ (a.code = codeProblems
            ↔ ∃ target ∈ p.targets s.includeTests, said p policy target ≠ [])
          ∧ (a.code = codeFine
            ↔ ∀ target ∈ p.targets s.includeTests, said p policy target = [])
          ∧ ∃ text json entries objects,
            answer w env (checkIn s .text) = .ok { a with output := text }
            ∧ answer w env (checkIn s .json) = .ok { a with output := json }
            ∧ Agreement p policy (p.targets s.includeTests) text json entries objects) := by
  obtain ⟨p, hp, ⟨hrefused, hcode, houtput, hall⟩ |
    ⟨hrefused, policy, record, found, hload, hfound, rfl, hall⟩⟩ := answer_checkIn h
  · refine ⟨p, hp, ⟨fun _ => hrefused, fun _ => ⟨hcode, houtput⟩⟩,
      fun other => ⟨a, hall other, rfl⟩, fun hnot => absurd hrefused hnot⟩
  · obtain ⟨hproblems, hfine⟩ := code_checked hfound record format
    have husage : (checked policy record found format).code ≠ codeUsage := by
      unfold checked
      dsimp only
      cases found.reports.isEmpty <;> decide
    refine ⟨p, hp, ⟨fun hboth => absurd hboth.1 husage, fun hyes => absurd hyes hrefused⟩,
      fun other => ⟨_, hall other, rfl⟩, fun _ => ⟨policy, record, hload, hproblems, hfine, ?_⟩⟩
    exact ⟨_, _, _, _, hall .text, hall .json, agreement_reportText hfound⟩

/-- A tree with a policy and a file that imports what it may not. -/
def guardedTree : Node :=
  .folder [("lib", .folder
    [(".importguard.toml", .file "[imports]\n\"*.py\" = [\"json\"]\n".toUTF8.toList),
      ("a.py", .file "import os\n".toUTF8.toList)])]

/-- The project in that tree. -/
def guardedProject : Project := ⟨⟨guardedTree, []⟩, ⟨.absolute, ["lib"]⟩⟩

/-- The policy of that project. -/
def guardedPolicy : Policy := ⟨[⟨"*.py", ["json"]⟩], "importguard"⟩

theorem shortTexts_guarded : Check.ShortTexts guardedProject (guardedProject.targets false) := by
  have hshort : ∀ target ∈ guardedProject.targets false,
      ((guardedProject.text? (guardedProject.identity target)).elim 0 List.length) ≤ 10 := by
    decide +kernel
  have hbound : 11 < Document.Value.leastLong := by decide +kernel
  intro target htarget text htext
  have hlength := hshort target htarget
  rw [htext] at hlength
  exact Nat.lt_of_le_of_lt (Nat.succ_le_succ hlength) hbound

theorem load_guarded {policy : Policy} {record : Log.Record}
    (h : Policy.load ⟨guardedTree, []⟩ [] guardedProject.root none = .ok (policy, record)) :
    policy = guardedPolicy := by
  have hload : (Policy.load ⟨guardedTree, []⟩ [] guardedProject.root none).toOption.map (·.1)
      = some guardedPolicy := by decide +kernel
  rw [h] at hload
  exact Option.some.inj hload

theorem not_refused_guarded :
    ¬ Refused ⟨guardedTree, []⟩ [] guardedProject { path := "/lib" } := by
  have hload : (Policy.load ⟨guardedTree, []⟩ [] guardedProject.root none).isOk = true := by
    decide +kernel
  rintro (hmissing | hfile | ⟨f, hrefused⟩)
  · revert hmissing
    decide +kernel
  · revert hfile
    decide +kernel
  · have hrefused : Policy.load ⟨guardedTree, []⟩ [] guardedProject.root none
        = .error (.refused f) := hrefused
    rw [hrefused] at hload
    cases hload

/-- The check of that project: one problem in one file. The text says so, and
the array that is printed instead has one item. -/
theorem check_formats_agree_guarded :
    ∃ (a : Answer) (text json : String) (entries : List String) (items : List Document.Value),
      a.code = codeProblems
      ∧ answer ⟨guardedTree, []⟩ [] (checkIn { path := "/lib" } .text)
        = .ok { a with output := text }
      ∧ text = "\n".intercalate (entries ++ ["", "1 problem(s) in 1 file(s)"]) ++ "\n"
      ∧ answer ⟨guardedTree, []⟩ [] (checkIn { path := "/lib" } .json)
        = .ok { a with output := json }
      ∧ Document.Json.read json.toList = .ok (.array items) ∧ items.length = 1
      ∧ List.Forall₂ Report.ReadAsPlace items entries := by
  have hrun : (answer ⟨guardedTree, []⟩ [] (checkIn { path := "/lib" } .text)).isOk = true := by
    decide +kernel
  have hproblems : (problems guardedProject guardedPolicy (guardedProject.targets false)).length
      = 1 := by decide +kernel
  have htroubled : (troubled guardedProject guardedPolicy (guardedProject.targets false)).length
      = 1 := by decide +kernel
  cases hanswer : answer ⟨guardedTree, []⟩ [] (checkIn { path := "/lib" } .text) with
  | error i =>
    rw [hanswer] at hrun
    cases hrun
  | ok a =>
    obtain ⟨p, hp, -, -, hresult⟩ := check_formats_agree hanswer
    obtain rfl : guardedProject = p := Except.ok.inj hp
    obtain ⟨policy, record, hload, hcode, -, text, json, entries, objects, htext, hjson, hagree⟩ :=
      hresult not_refused_guarded
    obtain rfl := load_guarded hload
    obtain ⟨items, hread, hitems, hplaces⟩ := hagree.json_read shortTexts_guarded
    obtain ⟨target, htarget⟩ := List.exists_mem_of_length_pos (by rw [htroubled]; decide)
    have hfirst := List.mem_filter.mp htarget
    refine ⟨a, text, json, entries, items, ?_, hanswer ▸ htext, ?_, hjson, hread,
      hitems.trans hproblems, hplaces⟩
    · exact hcode.mpr ⟨target, hfirst.1, of_decide_eq_true hfirst.2⟩
    · have hsome : ¬ problems guardedProject guardedPolicy (guardedProject.targets false) = [] := by
        rintro hnil
        rw [hnil] at hproblems
        cases hproblems
      have heq := hagree.text_eq
      rw [if_neg hsome, hproblems, htroubled] at heq
      exact heq

end ImportPolicy.Command
