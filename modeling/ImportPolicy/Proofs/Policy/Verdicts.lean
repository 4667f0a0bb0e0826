import ImportPolicy.Proofs.Policy.Reorganised

/-!
# What an evaluation reports

The meaning of a policy is a relation between files and specifiers: a policy
*permits* an import if one of its rules has a file pattern that matches the
file and an import pattern that matches the specifier. The evaluation does
not look at rules and patterns in pairs. It first puts the patterns of all
rules for the file into one list and then goes through the list once for
every import, stopping at the first pattern that matches.

`Policy.evaluate_exact` says that the two agree: what is reported are the
imports of known place that are not permitted, as they come, with nothing
moved and nothing left out. The list itself shows in one place only, the
wording that all reports of one evaluation share.

A pattern without an answer is no obstacle if the evaluation never asks it.
So the reports are described for every evaluation that has an outcome, and
apart from this there is an outcome if no pattern that may be asked is
without an answer.
-/

namespace ImportPolicy

open Glob (isMatch matched)

namespace Policy

variable {policy : Policy} {file specifier : String} {allowed : List String}
  {imports : List Occurrence}

/-! ## The meaning of a policy -/

/-- A policy permits a file to import something: a rule that matches the file
has a pattern that matches the specifier. -/
def Permits (policy : Policy) (file specifier : String) : Prop :=
  ∃ rule ∈ policy.rules, isMatch file rule.filePattern = .ok true
    ∧ ∃ pattern ∈ rule.allowed, isMatch specifier pattern = .ok true

/-- A policy lists something for a file: a rule that matches the file has a
pattern. -/
def Lists (policy : Policy) (file : String) : Prop :=
  ∃ rule ∈ policy.rules, isMatch file rule.filePattern = .ok true ∧ rule.allowed ≠ []

/-- Every pattern that an evaluation may ask has an answer there: the file
patterns for the file, and the import patterns of the rules that match it for
the specifiers. -/
structure Answered (policy : Policy) (file : String) (imports : List Occurrence) : Prop where
  /-- The file patterns have an answer. -/
  files : ∀ rule ∈ policy.rules, ∃ answer, isMatch file rule.filePattern = .ok answer
  /-- The import patterns have an answer. -/
  specifiers : ∀ rule ∈ policy.rules, isMatch file rule.filePattern = .ok true →
    ∀ pattern ∈ rule.allowed, ∀ o ∈ imports, ∃ answer, isMatch o.specifier pattern = .ok answer

theorem permits_iff_granted :
    policy.Permits file specifier
      ↔ ∃ pattern ∈ granted file policy.rules, isMatch specifier pattern = .ok true := by
  unfold Permits granted
  simp only [List.mem_flatMap, List.mem_filter, Glob.matched_iff]
  constructor
  · rintro ⟨rule, hrule, hfile, pattern, hpattern, hmatch⟩
    exact ⟨pattern, ⟨rule, ⟨hrule, hfile⟩, hpattern⟩, hmatch⟩
  · rintro ⟨pattern, ⟨rule, ⟨hrule, hfile⟩, hpattern⟩, hmatch⟩
    exact ⟨rule, hrule, hfile, pattern, hpattern, hmatch⟩

/-- Whether an import is permitted can be found out by asking every
pattern. -/
instance (policy : Policy) (file specifier : String) :
    Decidable (policy.Permits file specifier) :=
  decidable_of_iff ((granted file policy.rules).any (matched specifier) = true) <| by
    rw [permits_iff_granted, List.any_eq_true]
    simp only [Glob.matched_iff]

theorem lists_iff_granted : policy.Lists file ↔ granted file policy.rules ≠ [] := by
  unfold Lists granted
  rw [Ne, List.flatMap_eq_nil_iff]
  simp only [List.mem_filter, Glob.matched_iff, not_forall, exists_prop, and_assoc]

/-! ## The list of an evaluation -/

/-- Once the patterns for a file are known, every file pattern has an
answer. -/
theorem answers_of_allowedBy {rules : List Policy.Rule}
    (h : allowedBy file rules = .ok allowed) :
    ∀ rule ∈ rules, Glob.Answers rule.filePattern := by
  induction rules generalizing allowed with
  | nil => simp
  | cons rule more ih =>
    rw [allowedBy, bind_eq_ok] at h
    obtain ⟨hit, hhit, h⟩ := h
    rw [bind_eq_ok] at h
    obtain ⟨later, hlater, -⟩ := h
    intro other hother
    obtain rfl | hother := List.mem_cons.mp hother
    · exact Glob.answers_of_ok hhit
    · exact ih hlater other hother

theorem allowedFor_eq_ok (h : policy.allowedFor file = .ok allowed) :
    allowed = granted file policy.rules :=
  Except.ok.inj (h.symm.trans (allowedBy_eq_granted (answers_of_allowedBy h)))

theorem unpermitted_granted_iff {o : Occurrence} :
    unpermitted (granted file policy.rules) o = true
      ↔ 0 ≤ o.start ∧ ¬ policy.Permits file o.specifier := by
  rw [unpermitted_iff, permits_iff_granted]
  simp only [not_exists, not_and, ne_eq]

/-- The code and the wording of a verdict tell whether something is listed,
and what. -/
theorem verdict_spec (allowed : List String) :
    ((verdict allowed).1.number = 2 ↔ allowed ≠ [])
      ∧ ((verdict allowed).1.number = 1 ↔ ¬ allowed ≠ [])
      ∧ ((verdict allowed).1.number = 2 → (verdict allowed).2
        = "Import not allowed. Only imports below allowed from this file: \n"
          ++ String.intercalate ", \n" allowed ++ "\n")
      ∧ ((verdict allowed).1.number = 1 → (verdict allowed).2 = unconfiguredMessage) := by
  cases allowed with
  | nil =>
    have hnumber : (verdict []).1.number = 1 := rfl
    rw [hnumber]
    exact ⟨by decide, by decide, fun h => absurd h (by decide), fun _ => rfl⟩
  | cons pattern more =>
    have hnumber : (verdict (pattern :: more)).1.number = 2 := rfl
    have hne : pattern :: more ≠ [] := List.cons_ne_nil pattern more
    rw [hnumber]
    exact ⟨iff_of_true rfl hne, iff_of_false (by decide) (not_not_intro hne), fun _ => rfl,
      fun h => absurd h (by decide)⟩

/-- An evaluation has an outcome if the patterns that it may ask have
answers. -/
theorem Answered.evaluate_ok (h : policy.Answered file imports) :
    ∃ found, policy.evaluate file imports = .ok found := by
  have hallowed : policy.allowedFor file = .ok (granted file policy.rules) := by
    refine allowedBy_eq_granted fun rule hrule => ?_
    obtain ⟨answer, hanswer⟩ := h.files rule hrule
    exact Glob.answers_of_ok hanswer
  rw [evaluate, hallowed, ok_bind]
  cases imports with
  | nil => exact ⟨[], rfl⟩
  | cons o more =>
    refine violations_of_answers policy file (fun pattern hpattern => ?_) _
    obtain ⟨rule, hrule, hpattern⟩ := List.mem_flatMap.mp hpattern
    obtain ⟨hrule, hfile⟩ := List.mem_filter.mp hrule
    obtain ⟨answer, hanswer⟩ :=
      h.specifiers rule hrule (Glob.matched_iff.mp hfile) pattern hpattern o List.mem_cons_self
    exact Glob.answers_of_ok hanswer

/-- **An evaluation is exact.** For every policy, file and row of imports,
whatever their places are: there is an outcome if no pattern that may be
asked is without an answer. And in every outcome there is one code and one
wording such that the violations are those of the imports of known place that
the policy does not permit, in the order of the imports and with their
repetitions; a violation starts with its import, ends where the import does
but not before it starts, and carries the name of the policy. The code is 2
exactly if the policy lists something for the file, and the wording then
names the patterns in the order of the rules; otherwise it is 1, and the
wording says that nothing is configured. -/
theorem evaluate_exact (policy : Policy) (file : String) (imports : List Occurrence) :
    (policy.Answered file imports → ∃ found, policy.evaluate file imports = .ok found)
    ∧ ∀ found, policy.evaluate file imports = .ok found →
      ∃ (code : Violation.Code) (message : String),
        found = (imports.filter fun o => 0 ≤ o.start ∧ ¬ policy.Permits file o.specifier).map
          (fun o => { file, start := o.start, stop := max o.start o.stop, message, code,
                      source := policy.name })
        ∧ (∀ v ∈ found, 0 ≤ v.length)
        ∧ (code.number = 2 ↔ policy.Lists file)
        ∧ (code.number = 1 ↔ ¬ policy.Lists file)
        ∧ (code.number = 2 → message
          = "Import not allowed. Only imports below allowed from this file: \n"
            ++ String.intercalate ", \n"
              ((policy.rules.filter fun rule => matched file rule.filePattern).flatMap (·.allowed))
            ++ "\n")
        ∧ (code.number = 1 → message = unconfiguredMessage) := by
  refine ⟨Answered.evaluate_ok, fun found hfound => ?_⟩
  obtain ⟨allowed, hallowed, hfound⟩ := evaluate_eq_ok hfound
  rw [allowedFor_eq_ok hallowed] at hfound
  have hfilter : imports.filter (unpermitted (granted file policy.rules))
      = imports.filter fun o => 0 ≤ o.start ∧ ¬ policy.Permits file o.specifier := by
    refine List.filter_congr fun o _ => ?_
    rw [Bool.eq_iff_iff, unpermitted_granted_iff, decide_eq_true_iff]
  rw [hfilter] at hfound
  refine ⟨_, _, hfound, ?_, ?_⟩
  · intro v hv
    rw [hfound] at hv
    obtain ⟨o, -, rfl⟩ := List.mem_map.mp hv
    exact Int.sub_nonneg_of_le (Int.le_max_left o.start o.stop)
  · rw [lists_iff_granted]
    exact verdict_spec (granted file policy.rules)

/-- A policy with two rules for a file, and a third one for other files whose
pattern cannot be counted. -/
def twoLayers : Policy :=
  ⟨[⟨"src/**", ["json"]⟩, ⟨"**/a.py", ["re", "json"]⟩,
    ⟨"tests/**", ["\x7b0..9223372036854775807\x7d"]⟩], "layers"⟩

/-- Imports of a file: one twice, one of unknown place, one that ends before
it starts, one that is permitted. -/
def unruly : List Occurrence :=
  [⟨"os", 20, 22⟩, ⟨"re", 7, 9⟩, ⟨"sys", -1, -1⟩, ⟨"io", 12, 4⟩, ⟨"os", 20, 22⟩]

/-- The pattern that cannot be counted is not asked, and the rest is reported
as it stands. -/
theorem evaluate_exact_unruly :
    twoLayers.Answered "src/a.py" unruly
    ∧ ∃ found, twoLayers.evaluate "src/a.py" unruly = .ok found
      ∧ found.map (fun v => (v.start, v.stop, v.code.number))
        = [(20, 22, 2), (12, 12, 2), (20, 22, 2)] := by
  have hfiles : ∀ rule ∈ twoLayers.rules, (isMatch "src/a.py" rule.filePattern).isOk = true := by
    decide +kernel
  have hspecifiers : ∀ rule ∈ twoLayers.rules, isMatch "src/a.py" rule.filePattern = .ok true →
      ∀ pattern ∈ rule.allowed, ∀ o ∈ unruly, (isMatch o.specifier pattern).isOk = true := by
    decide +kernel
  have hanswered : twoLayers.Answered "src/a.py" unruly :=
    ⟨fun rule hrule => isOk_iff.mp (hfiles rule hrule), fun rule hrule hmatch pattern hpattern o ho =>
      isOk_iff.mp (hspecifiers rule hrule hmatch pattern hpattern o ho)⟩
  obtain ⟨hok, hexact⟩ := evaluate_exact twoLayers "src/a.py" unruly
  obtain ⟨found, hfound⟩ := hok hanswered
  obtain ⟨code, message, hreported, -, hcode, -⟩ := hexact found hfound
  refine ⟨hanswered, found, hfound, ?_⟩
  have hnumber : code.number = 2 :=
    hcode.mpr ⟨⟨"src/**", ["json"]⟩, List.mem_cons_self, by decide +kernel, by decide⟩
  rw [hreported, List.map_map]
  show (unruly.filter fun o => 0 ≤ o.start ∧ ¬ twoLayers.Permits "src/a.py" o.specifier).map
    (fun o => (o.start, max o.start o.stop, code.number)) = _
  rw [hnumber]
  decide +kernel

end Policy

end ImportPolicy
