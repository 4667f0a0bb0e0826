import ImportPolicy.Proofs.Policy.Uncountable

/-!
# Patterns that grant nothing

A comment matches nothing, and neither does a pattern that cannot be
expanded. Both are *dead*: whatever is asked, the answer is no. The second
kind is the dangerous one, because there is an exclamation mark. Under a
negation, a pattern that matches nothing would match everything; but what
cannot be expanded is not negated, it is given up as a whole
(`Glob.isMatch_of_isDead`).

So a policy does not change if its dead patterns are taken out, the rules
with a dead file pattern and the dead patterns of all other rules
(`Policy.withoutDead`). It can change what is *said*: without a dead pattern
the list of what is allowed is shorter, and if it was the last one, nothing is
configured any more. The imports that are reported are the same ones
(`Policy.evaluate_withoutDead`), and so is the outcome where there is no
verdict at all.
-/

namespace ImportPolicy

open Glob (isMatch)

variable {file specifier : String}

namespace Glob

variable {candidate pattern : String}

/-! ## Dead patterns -/

/-- A pattern is dead if it is a comment, or if without its exclamation marks
it cannot be expanded. A sequence that cannot be counted makes no pattern
dead: there is no answer then. -/
def isDead (pattern : String) : Bool :=
  pattern.toList.head? = some '#' || match expand (pattern.toList.dropWhile (· = '!')) with
    | .ok _ => false
    | .error e => e ≠ .overflow

theorem isDead_iff :
    isDead pattern = true
      ↔ pattern.toList.head? = some '#'
        ∨ ∃ e ≠ Failure.overflow, expand (pattern.toList.dropWhile (· = '!')) = .error e := by
  unfold isDead
  rw [Bool.or_eq_true, decide_eq_true_iff]
  cases expand (pattern.toList.dropWhile (· = '!')) with
  | ok plain => simp
  | error e => simp

theorem isMatch_comment (h : pattern.toList.head? = some '#') :
    isMatch candidate pattern = .ok false := by
  obtain ⟨rest, hrest⟩ := List.head?_eq_some_iff.mp h
  unfold isMatch
  rw [hrest, judge]

/-- **A dead pattern matches nothing**, however many exclamation marks it
has. -/
theorem isMatch_of_isDead (h : isDead pattern = true) :
    isMatch candidate pattern = .ok false := by
  by_cases hcomment : pattern.toList.head? = some '#'
  · exact isMatch_comment hcomment
  · obtain hhead | ⟨e, he, hexpand⟩ := isDead_iff.mp h
    · exact absurd hhead hcomment
    · refine isMatch_of_failure ?_ hcomment he hexpand
      rintro rfl
      cases hexpand

end Glob

open Glob (isDead)

/-! ## Policies without them -/

/-- Some patterns without the dead ones. -/
def livePatterns (patterns : List String) : List String :=
  patterns.filter fun pattern => !isDead pattern

/-- Some rules without those that have a dead file pattern, and without the
dead import patterns of the others. -/
def liveRules (rules : List Policy.Rule) : List Policy.Rule :=
  (rules.filter fun rule => !isDead rule.filePattern).map
    fun rule => { rule with allowed := livePatterns rule.allowed }

/-- A policy without its dead patterns. -/
def Policy.withoutDead (policy : Policy) : Policy :=
  { policy with rules := liveRules policy.rules }

/-! ## The same verdicts -/

theorem allowedBy_liveRules (rules : List Policy.Rule) :
    allowedBy file (liveRules rules) = livePatterns <$> allowedBy file rules := by
  induction rules with
  | nil => rfl
  | cons rule more ih =>
    unfold liveRules at ih ⊢
    cases hdead : isDead rule.filePattern with
    | true =>
      rw [List.filter_cons_of_neg (by simp [hdead]), ih, allowedBy,
        Glob.isMatch_of_isDead hdead]
      cases allowedBy file more with
      | error o => rfl
      | ok later => rfl
    | false =>
      rw [List.filter_cons_of_pos (by simp [hdead]), List.map_cons, allowedBy, allowedBy, ih]
      cases isMatch file rule.filePattern with
      | error o => rfl
      | ok hit =>
        cases allowedBy file more with
        | error o => rfl
        | ok later =>
          cases hit with
          | true => exact congrArg Except.ok (List.filter_append _ _).symm
          | false => rfl

theorem isAllowed_livePatterns (patterns : List String) :
    isAllowed specifier (livePatterns patterns) = isAllowed specifier patterns := by
  unfold livePatterns
  induction patterns with
  | nil => rfl
  | cons pattern more ih =>
    cases hdead : isDead pattern with
    | true =>
      rw [List.filter_cons_of_neg (by simp [hdead]), ih, isAllowed,
        Glob.isMatch_of_isDead hdead]
      rfl
    | false =>
      rw [List.filter_cons_of_pos (by simp [hdead]), isAllowed, isAllowed]
      simp only [ih]

/-- Whether an import is reported, and where, depends on its place and on
whether it is allowed. -/
theorem range_violation? {policy other : Policy} {allowed fewer : List String} {o : Occurrence}
    (h : isAllowed o.specifier fewer = isAllowed o.specifier allowed) :
    Option.map Violation.range <$> violation? other file fewer o
      = Option.map Violation.range <$> violation? policy file allowed o := by
  unfold violation?
  rw [h]
  by_cases hknown : o.isKnown = true
  · rw [if_neg (by simp [hknown]), if_neg (by simp [hknown])]
    obtain e | ⟨⟨⟩ | ⟨⟩⟩ := isAllowed o.specifier allowed
    all_goals rfl
  · rw [if_pos (by simpa using hknown), if_pos (by simpa using hknown)]

/-- The places that are reported are those of the first import, if it is
reported, and of the others. -/
theorem range_violations_cons (policy : Policy) (allowed : List String) (o : Occurrence)
    (more : List Occurrence) :
    List.map Violation.range <$> violations policy file allowed (o :: more)
      = Option.map Violation.range <$> violation? policy file allowed o >>= fun first =>
        (first.toList ++ ·) <$> List.map Violation.range <$>
          violations policy file allowed more := by
  rw [violations]
  cases violation? policy file allowed o with
  | error e => rfl
  | ok found =>
    cases violations policy file allowed more with
    | error e => rfl
    | ok later =>
      refine congrArg Except.ok ?_
      rw [List.map_append, Option.toList_map]

theorem range_violations {policy other : Policy} {allowed fewer : List String}
    (h : ∀ specifier, isAllowed specifier fewer = isAllowed specifier allowed)
    (imports : List Occurrence) :
    List.map Violation.range <$> violations other file fewer imports
      = List.map Violation.range <$> violations policy file allowed imports := by
  induction imports with
  | nil => rfl
  | cons o more ih =>
    rw [range_violations_cons, range_violations_cons, ih, range_violation? (h o.specifier)]

/-- Nothing is said about rejected patterns when no level is asked for. -/
theorem emitted_rejections (notes : List Rejection) :
    Log.emitted none (notes.map Check.rejectionRecord) = .ok [] := by
  cases notes with
  | nil => rfl
  | cons note more =>
    refine congrArg Except.ok (List.filter_eq_nil_iff.mpr fun record hrecord => ?_)
    obtain ⟨rejection, -, rfl⟩ := List.mem_map.mp hrecord
    show ¬ decide (Log.effective Log.Severity.info.level ≤ Log.Severity.debug.level) = true
    decide

/-- **Dead patterns are inert.** For every policy, file and row of imports:
taking out all dead patterns changes neither which imports are reported, and
where, nor whether there is an outcome. There is one if every pattern has an
answer, with nothing said about dead patterns unless a level is asked for. In
particular a dead pattern grants nothing, negated or not. -/
theorem Policy.evaluate_withoutDead (policy : Policy) (file : String)
    (imports : List Occurrence) :
    List.map Violation.range <$> policy.withoutDead.evaluate file imports
        = List.map Violation.range <$> policy.evaluate file imports
      ∧ (policy.Answers → ∃ found, policy.evaluate file imports = .ok found)
      ∧ Log.emitted none ((policy.evaluationNotes file imports).map Check.rejectionRecord) = .ok []
      ∧ ∀ pattern, isDead pattern = true →
        ∀ candidate, isMatch candidate pattern = .ok false := by
  refine ⟨?_, fun h => ⟨_, h.evaluate_eq file imports⟩, emitted_rejections _,
    fun pattern hdead candidate => Glob.isMatch_of_isDead hdead⟩
  have hallowed : policy.withoutDead.allowedFor file
      = livePatterns <$> policy.allowedFor file := allowedBy_liveRules policy.rules
  rw [Policy.evaluate, Policy.evaluate, hallowed]
  cases policy.allowedFor file with
  | error o => rfl
  | ok allowed => exact range_violations (fun _ => isAllowed_livePatterns allowed) imports

/-- A policy with a commented rule, one whose negated file pattern cannot be
expanded, and one with such an import pattern. -/
def halfDead : Policy :=
  ⟨[⟨"#src/**", ["os"]⟩, ⟨"!\x7b1..1025\x7d", ["os"]⟩,
    ⟨"src/**", ["!\x7b1..1025\x7d", "json", "# os"]⟩], "layers"⟩

theorem Policy.evaluate_withoutDead_negated :
    halfDead.withoutDead = ⟨[⟨"src/**", ["json"]⟩], "layers"⟩
      ∧ halfDead.Answers
      ∧ ∃ found, halfDead.evaluate "src/a.py" [⟨"os", 7, 9⟩, ⟨"json", 17, 21⟩] = .ok found
        ∧ found.map Violation.range = [(7, 9)] := by
  have hlive : halfDead.withoutDead = ⟨[⟨"src/**", ["json"]⟩], "layers"⟩ := by decide +kernel
  have hlength : ∀ rule ∈ halfDead.rules, rule.filePattern.length ≤ 23
      ∧ ∀ pattern ∈ rule.allowed, pattern.length ≤ 23 := by decide +kernel
  have hwithin : halfDead.IsWithin 23 := hlength
  obtain ⟨hsame, hok, -⟩ := Policy.evaluate_withoutDead halfDead "src/a.py"
    [⟨"os", 7, 9⟩, ⟨"json", 17, 21⟩]
  obtain ⟨found, hfound⟩ := hok hwithin.answers
  refine ⟨hlive, hwithin.answers, found, hfound, ?_⟩
  have hrun : List.map Violation.range <$> Policy.evaluate ⟨[⟨"src/**", ["json"]⟩], "layers"⟩
      "src/a.py" [⟨"os", 7, 9⟩, ⟨"json", 17, 21⟩] = .ok [(7, 9)] := rfl
  rw [hlive, hrun, hfound] at hsame
  exact (Except.ok.inj hsame).symm

end ImportPolicy
