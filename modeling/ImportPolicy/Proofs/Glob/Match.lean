import ImportPolicy.Glob.Path
import ImportPolicy.Proofs.Glob.Cut
import Mathlib.Algebra.Ring.Parity

/-!
# What it means to match

The matcher collapses runs of `**`, computes one row of truth values for each
segment of the pattern, and stops a `**` at a segment that starts with a dot.
None of this is part of the meaning. A candidate matches a pattern without
groups if its segments can be cut into blocks, one for each segment of the
pattern: any number of segments without a leading dot for `**`, and one
segment that matches for every other. `isMatch_iff_cut` states this for whole
patterns, with groups and exclamation marks.
-/

namespace ImportPolicy.Glob

/-- The blocks that a segment of a pattern takes: any number of names that do
not start with a dot if it is `**`, and otherwise one name that matches. -/
def TakesNames (part : List Char) (block : List (List Char)) : Prop :=
  if part = globstar then IsSkipped (fun name => !isDotted name) block
  else IsOne (matchSegment · part) block

/-! ## Rows of segments -/

theorem tells_segmentRow {names : List (List Char)} {part : List Char}
    {P : List (List Char) → Prop} {row : Row} (h : Row.Tells P names row) :
    Row.Tells (Behind (TakesNames part) P) names (segmentRow names part row) := by
  unfold segmentRow TakesNames
  by_cases hpart : part = globstar
  · simp only [hpart, if_true]
    exact h.skipping
  · simp only [hpart, if_false]
    exact h.single

/-- The rows of the segments decide whether the names can be cut. -/
theorem matchSegments_iff {names parts : List (List Char)} :
    matchSegments names parts = true ↔ Cut TakesNames names parts :=
  (Row.tells_foldr (fun _ _ _ h => tells_segmentRow h) parts).headD

/-! ## Runs of `**` -/

/-- What two runs of skipped items take, one takes. -/
theorem behind_isSkipped_twice {α : Type} {skips : α → Bool} {P : List α → Prop}
    {items : List α} :
    Behind (IsSkipped skips) (Behind (IsSkipped skips) P) items
      ↔ Behind (IsSkipped skips) P items := by
  constructor
  · rintro ⟨first, _, rfl, hfirst, second, rest, rfl, hsecond, hP⟩
    refine ⟨first ++ second, rest, (List.append_assoc _ _ _).symm, ?_, hP⟩
    intro item hitem
    rcases List.mem_append.mp hitem with h | h
    · exact hfirst item h
    · exact hsecond item h
  · rintro ⟨block, rest, rfl, hblock, hP⟩
    exact ⟨block, rest, rfl, hblock, [], rest, rfl, by simp [IsSkipped], hP⟩

theorem cut_globstar_twice {names parts : List (List Char)} :
    Cut TakesNames names (globstar :: globstar :: parts)
      ↔ Cut TakesNames names (globstar :: parts) := by
  have hstar : TakesNames globstar = IsSkipped (fun name => !isDotted name) :=
    funext fun block => if_pos rfl
  have hcut : (Cut TakesNames · (globstar :: parts))
      = Behind (TakesNames globstar) (Cut TakesNames · parts) :=
    funext fun _ => propext cut_cons
  rw [cut_cons, hcut, cut_cons, hstar]
  exact behind_isSkipped_twice

/-- Collapsing the later segments changes nothing before them. -/
theorem cut_cons_congr {names : List (List Char)} {part : List Char}
    {parts others : List (List Char)}
    (h : ∀ names, Cut TakesNames names parts ↔ Cut TakesNames names others) :
    Cut TakesNames names (part :: parts) ↔ Cut TakesNames names (part :: others) := by
  rw [cut_cons, cut_cons]
  exact ⟨Behind.mono fun rest => (h rest).mp, Behind.mono fun rest => (h rest).mpr⟩

/-- **Collapsing runs of `**` changes no cut.** -/
theorem cut_collapse {names parts : List (List Char)} :
    Cut TakesNames names (collapse parts) ↔ Cut TakesNames names parts := by
  induction parts generalizing names with
  | nil => rfl
  | cons part more ih =>
    rw [← cut_cons_congr (fun _ => ih), collapse]
    cases hmore : collapse more with
    | nil => rfl
    | cons next rest =>
      by_cases h : part = globstar ∧ next = globstar
      · obtain ⟨rfl, rfl⟩ := h
        rw [cut_globstar_twice]
        simp
      · simp [h]

/-- A candidate matches a pattern without groups exactly when its segments
can be cut along those of the pattern. -/
theorem matchPlain_iff {candidate pattern : List Char} :
    matchPlain candidate pattern = true
      ↔ Cut TakesNames (segments candidate) (segments pattern) := by
  unfold matchPlain
  rw [matchSegments_iff, cut_collapse]

/-! ## Exclamation marks -/

theorem negation_of_head {core : List Char} (h : core.head? ≠ some '!') :
    negation core = (false, core) := by
  cases core with
  | nil => rfl
  | cons c rest =>
    have hc : c ≠ '!' := fun hc => h (by rw [hc]; rfl)
    unfold negation
    split
    · rename_i heq
      exact absurd (List.cons.inj heq).1 hc
    · rfl

/-- Exclamation marks are taken off one by one, and each turns the answer
around. -/
theorem negation_replicate {core : List Char} (h : core.head? ≠ some '!') (marks : Nat) :
    negation (List.replicate marks '!' ++ core) = (decide (Odd marks), core) := by
  induction marks with
  | zero => simpa using negation_of_head h
  | succ marks ih =>
    rw [List.replicate_succ, List.cons_append, negation, ih]
    simp only [Nat.odd_add_one, decide_not]

/-- The answer for a pattern that is neither empty nor a comment. -/
theorem judge_eq_ok {candidate pattern core : List Char} {negated : Bool}
    {plain : List (List Char)} (hne : pattern ≠ []) (hcomment : pattern.head? ≠ some '#')
    (hnegation : negation pattern = (negated, core)) (hplain : expand core = .ok plain) :
    judge candidate pattern = .ok (plain.any (matchPlain candidate) != negated) := by
  unfold judge
  split
  · exact absurd rfl hne
  · exact absurd rfl hcomment
  · rw [hnegation]
    simp only [hplain]

/-- **Declarative meaning of matching.** Let a pattern, neither empty nor a
comment, be a number of exclamation marks before a core that starts with
none, and let the core have an expansion. Then there is an answer, and it is
yes exactly if the number of marks is even just when the segments of the
candidate can be cut along those of one of the patterns the core stands
for. -/
theorem isMatch_iff_cut (candidate pattern : String) (marks : Nat) (core : List Char)
    (plain : List (List Char)) (hne : pattern ≠ "")
    (hcomment : pattern.toList.head? ≠ some '#')
    (hpattern : pattern.toList = List.replicate marks '!' ++ core)
    (hcore : core.head? ≠ some '!') (hplain : expand core = .ok plain) :
    ∃ answer, isMatch candidate pattern = .ok answer
      ∧ (answer = true ↔ (Even marks ↔ ∃ e ∈ plain,
          Cut TakesNames (segments candidate.toList) (segments e))) := by
  have hchars : pattern.toList ≠ [] := fun h => hne (String.toList_eq_nil_iff.mp h)
  have hnegation : negation pattern.toList = (decide (Odd marks), core) := by
    rw [hpattern]
    exact negation_replicate hcore marks
  have hjudge : judge candidate.toList pattern.toList
      = .ok (plain.any (matchPlain candidate.toList) != decide (Odd marks)) :=
    judge_eq_ok hchars hcomment hnegation hplain
  refine ⟨_, by rw [isMatch, hjudge], ?_⟩
  simp only [← matchPlain_iff, ← List.any_eq_true]
  cases plain.any (matchPlain candidate.toList) with
  | true => simp [Nat.not_odd_iff_even]
  | false => simp [Nat.not_even_iff_odd]

/-- Two marks, a group and a `**` that has to stop before a dotted segment. -/
theorem isMatch_iff_cut_dotted :
    ∃ answer, isMatch "a/.b/c" "!!{a,d}/**/c" = .ok answer
      ∧ (answer = true ↔ (Even 2 ↔ ∃ e ∈ ["a/**/c".toList, "d/**/c".toList],
          Cut TakesNames (segments "a/.b/c".toList) (segments e))) :=
  isMatch_iff_cut "a/.b/c" "!!{a,d}/**/c" 2 "{a,d}/**/c".toList _ (by decide) (by decide)
    rfl (by decide) rfl

end ImportPolicy.Glob
