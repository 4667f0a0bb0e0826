import Mathlib.Data.List.Basic
import Mathlib.Logic.Relation
import ImportPolicy.Proofs.Policy.Violations

/-!
# Reorganising a policy

The rules of a policy can be written down in many ways: in another order,
with one rule for a file pattern or several, with a pattern listed once or
twice. None of this should matter to a verdict, and a pattern that is added
should never turn an import into a violation.

Both are facts about two evaluations, of a table and of the table after any
number of changes. They are carried by one relation: a table *grants* one
pattern to another if one of its rules lists the first as allowed for files
of the second. A rearrangement keeps what is granted
(`Rearrangement.grants_iff`), an addition only adds to it
(`Addition.grants`), and what a file may use depends on nothing else
(`mem_granted`). The order of the patterns is left in the messages alone.

Patterns that have no answer are kept out by an assumption, because a search
stops at the first pattern that matches: moving a pattern without an answer
behind it would change whether there is a verdict at all.
-/

namespace ImportPolicy

open Glob (isMatch matched)

variable {file : String} {policy : Policy}

/-! ## Patterns that always have an answer -/

/-- A pattern has an answer for every candidate. -/
def Glob.Answers (pattern : String) : Prop :=
  ∀ candidate, ∃ answer, isMatch candidate pattern = .ok answer

/-- What is known of a pattern with answers is the answer. -/
theorem Glob.Answers.isMatch_eq {pattern : String} (h : Glob.Answers pattern)
    (candidate : String) : isMatch candidate pattern = .ok (matched candidate pattern) := by
  obtain ⟨answer, hanswer⟩ := h candidate
  rw [hanswer, Glob.matched_of_ok hanswer]

/-- Whether a pattern fails is decided before it meets a candidate. -/
theorem Glob.judge_error {candidate pattern : List Char} {e : Glob.Failure}
    (h : Glob.judge candidate pattern = .error e) (other : List Char) :
    Glob.judge other pattern = .error e := by
  unfold Glob.judge at h ⊢
  split at h
  · cases h
  · cases h
  · dsimp only at h ⊢
    split at h
    · cases h
    · exact h

/-- A pattern with an answer for one candidate has one for all. -/
theorem Glob.answers_of_ok {candidate pattern : String} {answer : Bool}
    (h : isMatch candidate pattern = .ok answer) : Glob.Answers pattern := by
  intro other
  unfold isMatch at h ⊢
  cases hother : Glob.judge other.toList pattern.toList with
  | ok found => exact ⟨found, rfl⟩
  | error e =>
    rw [Glob.judge_error hother candidate.toList] at h
    cases e with
    | overflow => cases h
    | patterns => exact ⟨false, rfl⟩
    | items => exact ⟨false, rfl⟩
    | digits count => exact ⟨false, rfl⟩

/-- Every pattern of a policy has an answer for every candidate. -/
def Policy.Answers (policy : Policy) : Prop :=
  ∀ rule ∈ policy.rules,
    Glob.Answers rule.filePattern ∧ ∀ pattern ∈ rule.allowed, Glob.Answers pattern

/-! ## The closed form of an evaluation -/

/-- The import patterns of those rules whose file pattern matches a file. -/
def granted (file : String) (rules : List Policy.Rule) : List String :=
  (rules.filter fun rule => matched file rule.filePattern).flatMap (·.allowed)

theorem allowedBy_eq_granted {rules : List Policy.Rule}
    (h : ∀ rule ∈ rules, Glob.Answers rule.filePattern) :
    allowedBy file rules = .ok (granted file rules) := by
  induction rules with
  | nil => rfl
  | cons rule more ih =>
    have hrule := (h rule List.mem_cons_self).isMatch_eq file
    have hmore := ih (fun other hother => h other (List.mem_cons_of_mem _ hother))
    rw [allowedBy, hrule, hmore]
    unfold granted
    cases hhit : matched file rule.filePattern with
    | true => simp [hhit]
    | false => simp [hhit]

theorem isAllowed_of_answers (specifier : String) {allowed : List String}
    (h : ∀ pattern ∈ allowed, Glob.Answers pattern) :
    ∃ answer, isAllowed specifier allowed = .ok answer := by
  induction allowed with
  | nil => exact ⟨false, rfl⟩
  | cons pattern more ih =>
    have hpattern := (h pattern List.mem_cons_self).isMatch_eq specifier
    rw [isAllowed, hpattern, ok_bind]
    cases matched specifier pattern with
    | true => exact ⟨true, rfl⟩
    | false => exact ih (fun other hother => h other (List.mem_cons_of_mem _ hother))

theorem violation?_of_answers (policy : Policy) (file : String) {allowed : List String}
    (h : ∀ pattern ∈ allowed, Glob.Answers pattern) (o : Occurrence) :
    ∃ found, violation? policy file allowed o = .ok found := by
  obtain ⟨answer, hanswer⟩ := isAllowed_of_answers o.specifier h
  unfold violation?
  by_cases hknown : o.isKnown = true
  · rw [if_neg (by simp [hknown]), hanswer, ok_bind]
    cases answer with
    | true => exact ⟨none, rfl⟩
    | false => exact ⟨some _, rfl⟩
  · rw [if_pos (by simpa using hknown)]
    exact ⟨none, rfl⟩

theorem violations_of_answers (policy : Policy) (file : String) {allowed : List String}
    (h : ∀ pattern ∈ allowed, Glob.Answers pattern) (imports : List Occurrence) :
    ∃ found, violations policy file allowed imports = .ok found := by
  induction imports with
  | nil => exact ⟨[], rfl⟩
  | cons o more ih =>
    obtain ⟨first, hfirst⟩ := violation?_of_answers policy file h o
    obtain ⟨later, hlater⟩ := ih
    rw [violations, hfirst, ok_bind, hlater]
    exact ⟨_, rfl⟩

theorem Policy.Answers.allowedFor_eq (h : policy.Answers) (file : String) :
    policy.allowedFor file = .ok (granted file policy.rules) :=
  allowedBy_eq_granted fun rule hrule => (h rule hrule).1

theorem Policy.Answers.of_mem_granted (h : policy.Answers) {pattern : String}
    (hpattern : pattern ∈ granted file policy.rules) : Glob.Answers pattern := by
  obtain ⟨rule, hrule, hpattern⟩ := List.mem_flatMap.mp hpattern
  exact (h rule (List.mem_filter.mp hrule).1).2 pattern hpattern

/-- **An evaluation has an outcome** if every pattern has an answer: the
violations that the unpermitted imports are. -/
theorem Policy.Answers.evaluate_eq (h : policy.Answers) (file : String)
    (imports : List Occurrence) :
    policy.evaluate file imports
      = .ok ((imports.filter (unpermitted (granted file policy.rules))).map
          (violationAt policy file (granted file policy.rules))) := by
  obtain ⟨found, hfound⟩ :=
    violations_of_answers policy file (fun _ hpattern => h.of_mem_granted hpattern) imports
  rw [Policy.evaluate, h.allowedFor_eq, ok_bind, hfound, violations_eq_ok hfound]

/-! ## What a table grants -/

/-- A table grants an import pattern to a file pattern if one of its rules
does. -/
def Grants (rules : List Policy.Rule) (filePattern pattern : String) : Prop :=
  ∃ rule ∈ rules, rule.filePattern = filePattern ∧ pattern ∈ rule.allowed

/-- What a file may import depends on what the table grants. -/
theorem mem_granted {rules : List Policy.Rule} {pattern : String} :
    pattern ∈ granted file rules
      ↔ ∃ filePattern, matched file filePattern = true ∧ Grants rules filePattern pattern := by
  unfold granted Grants
  rw [List.mem_flatMap]
  constructor
  · rintro ⟨rule, hrule, hpattern⟩
    obtain ⟨hrule, hmatched⟩ := List.mem_filter.mp hrule
    exact ⟨rule.filePattern, hmatched, rule, hrule, rfl, hpattern⟩
  · rintro ⟨_, hmatched, rule, hrule, rfl, hpattern⟩
    exact ⟨rule, List.mem_filter.mpr ⟨hrule, hmatched⟩, hpattern⟩

/-- The rules around a changed place grant what they granted. -/
theorem grants_append {front back : List Policy.Rule} {filePattern pattern : String} :
    Grants (front ++ back) filePattern pattern
      ↔ Grants front filePattern pattern ∨ Grants back filePattern pattern := by
  unfold Grants
  simp only [List.mem_append, or_and_right, exists_or]

theorem grants_cons {rule : Policy.Rule} {back : List Policy.Rule}
    {filePattern pattern : String} :
    Grants (rule :: back) filePattern pattern
      ↔ (rule.filePattern = filePattern ∧ pattern ∈ rule.allowed)
        ∨ Grants back filePattern pattern := by
  unfold Grants
  simp only [List.mem_cons, or_and_right, exists_or, exists_eq_left]

/-- One change to the way in which the rules are written down. -/
inductive Rearrangement : List Policy.Rule → List Policy.Rule → Prop
  /-- The rules in another order. -/
  | permuteRules {rules other : List Policy.Rule} :
    rules.Perm other → Rearrangement rules other
  /-- The patterns of a rule in another order. -/
  | permutePatterns {front back : List Policy.Rule} {filePattern : String}
      {allowed other : List String} :
    allowed.Perm other →
    Rearrangement (front ++ ⟨filePattern, allowed⟩ :: back) (front ++ ⟨filePattern, other⟩ :: back)
  /-- A pattern of a rule once more. -/
  | repeatPattern {front back : List Policy.Rule} {filePattern pattern : String}
      {allowed : List String} :
    pattern ∈ allowed →
    Rearrangement (front ++ ⟨filePattern, allowed⟩ :: back)
      (front ++ ⟨filePattern, pattern :: allowed⟩ :: back)
  /-- A rule in two parts with the same file pattern. -/
  | splitRule {front back : List Policy.Rule} {filePattern : String}
      {allowed other : List String} :
    Rearrangement (front ++ ⟨filePattern, allowed ++ other⟩ :: back)
      (front ++ ⟨filePattern, allowed⟩ :: ⟨filePattern, other⟩ :: back)

/-- One rule or pattern more, anywhere in the table. -/
inductive Addition : List Policy.Rule → List Policy.Rule → Prop
  | rule {front back : List Policy.Rule} (rule : Policy.Rule) :
    Addition (front ++ back) (front ++ rule :: back)
  | pattern {front back : List Policy.Rule} {filePattern : String} {before behind : List String}
      (pattern : String) :
    Addition (front ++ ⟨filePattern, before ++ behind⟩ :: back)
      (front ++ ⟨filePattern, before ++ pattern :: behind⟩ :: back)

/-- A rearrangement keeps what is granted. -/
theorem Rearrangement.grants_iff {rules other : List Policy.Rule} (h : Rearrangement rules other)
    (filePattern pattern : String) :
    Grants rules filePattern pattern ↔ Grants other filePattern pattern := by
  cases h with
  | permuteRules hperm =>
    unfold Grants
    simp only [hperm.mem_iff]
  | permutePatterns hperm =>
    rw [grants_append, grants_cons, grants_append, grants_cons]
    simp only [hperm.mem_iff]
  | @repeatPattern _ _ _ repeated allowed hmem =>
    have hsame : pattern ∈ repeated :: allowed ↔ pattern ∈ allowed :=
      ⟨fun h => (List.mem_cons.mp h).elim (fun heq => heq ▸ hmem) id, List.mem_cons_of_mem _⟩
    rw [grants_append, grants_cons, grants_append, grants_cons]
    simp only [hsame]
  | splitRule =>
    rw [grants_append, grants_cons, grants_append, grants_cons, grants_cons]
    simp only [List.mem_append, and_or_left, or_assoc]

/-- So does any number of rearrangements, forwards and backwards. -/
theorem grants_iff_of_rearranged {rules other : List Policy.Rule}
    (h : Relation.EqvGen Rearrangement rules other) (filePattern pattern : String) :
    Grants rules filePattern pattern ↔ Grants other filePattern pattern := by
  induction h with
  | rel _ _ hstep => exact hstep.grants_iff filePattern pattern
  | refl _ => exact Iff.rfl
  | symm _ _ _ ih => exact ih.symm
  | trans _ _ _ _ _ ihfirst ihsecond => exact ihfirst.trans ihsecond

/-- An addition takes nothing away. -/
theorem Addition.grants {rules other : List Policy.Rule} (h : Addition rules other)
    {filePattern pattern : String} (hgrants : Grants rules filePattern pattern) :
    Grants other filePattern pattern := by
  cases h with
  | rule added =>
    rw [grants_append] at hgrants
    rw [grants_append, grants_cons]
    exact hgrants.imp id .inr
  | pattern added =>
    rw [grants_append, grants_cons] at hgrants
    rw [grants_append, grants_cons]
    refine hgrants.imp id (Or.imp (And.imp id fun hmem => ?_) id)
    exact (List.mem_append.mp hmem).elim (List.mem_append_left _)
      (fun hbehind => List.mem_append_right _ (List.mem_cons_of_mem _ hbehind))

/-- Neither does any number of additions. -/
theorem grants_of_extended {rules other : List Policy.Rule}
    (h : Relation.ReflTransGen Addition rules other) {filePattern pattern : String}
    (hgrants : Grants rules filePattern pattern) : Grants other filePattern pattern := by
  induction h with
  | refl => exact hgrants
  | tail _ hstep ih => exact hstep.grants ih

/-! ## Verdicts -/

/-- More allowed patterns leave fewer imports unpermitted. -/
theorem unpermitted_mono {allowed more : List String} (h : allowed ⊆ more) {o : Occurrence}
    (ho : unpermitted more o = true) : unpermitted allowed o = true := by
  rw [unpermitted_iff] at ho ⊢
  exact ⟨ho.1, fun pattern hpattern => ho.2 pattern (h hpattern)⟩

/-- Whether an import is unpermitted depends only on which patterns are
allowed. -/
theorem unpermitted_congr {allowed other : List String} (h : ∀ x, x ∈ allowed ↔ x ∈ other) :
    unpermitted allowed = unpermitted other := by
  funext o
  rw [Bool.eq_iff_iff]
  exact ⟨unpermitted_mono fun x hx => (h x).mpr hx, unpermitted_mono fun x hx => (h x).mp hx⟩

/-- Which code is reported depends only on whether some pattern is allowed. -/
theorem verdict_code_congr {allowed other : List String} (h : ∀ x, x ∈ allowed ↔ x ∈ other) :
    (verdict allowed).1 = (verdict other).1 := by
  have hempty : allowed.isEmpty = other.isEmpty := by
    rw [Bool.eq_iff_iff, List.isEmpty_iff, List.isEmpty_iff, List.eq_nil_iff_forall_not_mem,
      List.eq_nil_iff_forall_not_mem]
    exact forall_congr' fun x => not_congr (h x)
  unfold verdict
  rw [hempty]
  split
  · rfl
  · rfl

/-- A violation without its wording. -/
def Violation.unworded (v : Violation) : Violation := { v with message := "" }

/-- The stretch of text that a violation is about. -/
def Violation.range (v : Violation) : Int × Int := (v.start, v.stop)

theorem unworded_violationAt {other : Policy} (hname : other.name = policy.name)
    {allowed more : List String} (hcode : (verdict allowed).1 = (verdict more).1)
    (o : Occurrence) :
    (violationAt other file more o).unworded = (violationAt policy file allowed o).unworded := by
  unfold Violation.unworded violationAt
  rw [hname, hcode]

/-- **A policy can be reorganised, and permissions never create violations.**
Let two policies have the same name, and patterns that always have an answer.
Then both evaluations of any imports of any file have an outcome. If the
rules of one are a rearrangement of those of the other – rules and patterns
in another order, patterns repeated, rules split or merged, any number of
times – then they report the same violations in the same order, but for the
wording. If rules or patterns were added, negated ones included, then what
is reported afterwards is a part of what was reported before. -/
theorem Policy.evaluate_reorganised {policy other : Policy} (hname : other.name = policy.name)
    (hpolicy : policy.Answers) (hother : other.Answers) (file : String)
    (imports : List Occurrence) :
    ∃ before after, policy.evaluate file imports = .ok before
      ∧ other.evaluate file imports = .ok after
      ∧ (Relation.EqvGen Rearrangement policy.rules other.rules →
          after.map Violation.unworded = before.map Violation.unworded)
      ∧ (Relation.ReflTransGen Addition policy.rules other.rules →
          (after.map Violation.range).Sublist (before.map Violation.range)) := by
  refine ⟨_, _, hpolicy.evaluate_eq file imports, hother.evaluate_eq file imports, ?_, ?_⟩
  · intro hrearranged
    have hmem : ∀ x, x ∈ granted file policy.rules ↔ x ∈ granted file other.rules := by
      intro x
      rw [mem_granted, mem_granted]
      exact exists_congr fun filePattern =>
        and_congr_right fun _ => grants_iff_of_rearranged hrearranged filePattern x
    rw [← unpermitted_congr hmem, List.map_map, List.map_map]
    refine List.map_congr_left fun o _ => ?_
    exact unworded_violationAt hname (verdict_code_congr hmem) o
  · intro hextended
    have hsub : granted file policy.rules ⊆ granted file other.rules := by
      intro x hx
      obtain ⟨filePattern, hmatched, hgrants⟩ := mem_granted.mp hx
      exact mem_granted.mpr ⟨filePattern, hmatched, grants_of_extended hextended hgrants⟩
    -- the range of a violation is that of its import, whatever is allowed
    rw [List.map_map, List.map_map]
    exact (List.monotone_filter_right imports fun o => unpermitted_mono hsub).map _

/-- A policy that allows all but one part of a library, by a negated
pattern. -/
def allButApp : Policy := ⟨[⟨"src/**", ["json", "!app.*"]⟩, ⟨"*.py", ["re"]⟩], "layers"⟩

/-- The same policy with its first rule split, its rules turned around and a
pattern listed twice. -/
def allButAppSplit : Policy :=
  ⟨[⟨"*.py", ["re", "re"]⟩, ⟨"src/**", ["!app.*"]⟩, ⟨"src/**", ["json"]⟩], "layers"⟩

/-- The policy with one more rule and one more negated pattern. -/
def allButAppMore : Policy :=
  ⟨[⟨"tests/**", ["re"]⟩, ⟨"src/**", ["json", "!os", "!app.*"]⟩, ⟨"*.py", ["re"]⟩], "layers"⟩

/-- Rearranged, the policy reports the same import; with more permissions,
none. -/
theorem Policy.evaluate_reorganised_negated :
    (∃ before after, allButApp.evaluate "src/a.py" [⟨"app.core", 7, 15⟩, ⟨"os", 23, 25⟩] = .ok before
      ∧ allButAppSplit.evaluate "src/a.py" [⟨"app.core", 7, 15⟩, ⟨"os", 23, 25⟩] = .ok after
      ∧ before.map Violation.range = [(7, 15)]
      ∧ after.map Violation.unworded = before.map Violation.unworded)
    ∧ ∃ before after,
      allButApp.evaluate "src/a.py" [⟨"app.core", 7, 15⟩, ⟨"os", 23, 25⟩] = .ok before
      ∧ allButAppMore.evaluate "src/a.py" [⟨"app.core", 7, 15⟩, ⟨"os", 23, 25⟩] = .ok after
      ∧ after = []
      ∧ (after.map Violation.range).Sublist (before.map Violation.range) := by
  have hanswers : ∀ pattern ∈ ["src/**", "json", "!app.*", "*.py", "re", "tests/**", "!os"],
      Glob.Answers pattern := by
    intro pattern hpattern
    have hok : (isMatch "" pattern).isOk = true := by
      revert pattern
      decide +kernel
    obtain ⟨answer, hanswer⟩ := isOk_iff.mp hok
    exact Glob.answers_of_ok hanswer
  have hfirst : allButApp.Answers := by simp [Policy.Answers, allButApp, hanswers]
  have hsplit : allButAppSplit.Answers := by simp [Policy.Answers, allButAppSplit, hanswers]
  have hmore : allButAppMore.Answers := by simp [Policy.Answers, allButAppMore, hanswers]
  constructor
  · obtain ⟨before, after, hbefore, hafter, hrearranged, -⟩ :=
      Policy.evaluate_reorganised (Eq.refl "layers") hfirst hsplit "src/a.py"
        [⟨"app.core", 7, 15⟩, ⟨"os", 23, 25⟩]
    have hrun : (allButApp.evaluate "src/a.py" [⟨"app.core", 7, 15⟩, ⟨"os", 23, 25⟩]).map
        (·.map Violation.range) = .ok [(7, 15)] := rfl
    rw [hbefore] at hrun
    refine ⟨before, after, hbefore, hafter, Except.ok.inj hrun, hrearranged ?_⟩
    refine .trans _ _ _ (.rel _ _ (@Rearrangement.splitRule [] _ _ ["json"] _)) ?_
    refine .trans _ _ _ (.rel _ _ (.permuteRules (List.reverse_perm _).symm)) ?_
    exact .rel _ _ (@Rearrangement.repeatPattern [] _ _ _ _ List.mem_cons_self)
  · obtain ⟨before, after, hbefore, hafter, -, hextended⟩ :=
      Policy.evaluate_reorganised (Eq.refl "layers") hfirst hmore "src/a.py"
        [⟨"app.core", 7, 15⟩, ⟨"os", 23, 25⟩]
    have hrun : allButAppMore.evaluate "src/a.py" [⟨"app.core", 7, 15⟩, ⟨"os", 23, 25⟩]
        = .ok [] := rfl
    rw [hafter] at hrun
    refine ⟨before, after, hbefore, hafter, Except.ok.inj hrun, hextended ?_⟩
    refine .tail (.single (@Addition.rule [] _ ⟨"tests/**", ["re"]⟩)) ?_
    exact @Addition.pattern [_] _ _ ["json"] _ "!os"

end ImportPolicy
