import ImportPolicy.Proofs.Glob.Match
import ImportPolicy.Proofs.Glob.Shrinking
import ImportPolicy.Proofs.Policy.Reorganised
import ImportPolicy.Report.Check

/-!
# Patterns without an answer

Matching promises an answer for every pattern. A pattern that cannot be
expanded matches nothing, and there is one way to break the promise: the
items of a sequence are counted before there is a look at how many are too
many, and from 2⁶³ items on there is no counting. So the pattern of such a
sequence has no answer, for any candidate, and neither has a policy that
meets it.

Such a sequence takes 24 characters to write, and this is what makes the
failure a matter of the pattern's length. It is not seen from the pattern
alone: digits from several groups can come together in a sequence that was
not there before. But the pattern that holds the sequence then came out of
the first one step by step, each step made it shorter (`length_replacedBy`),
and so the first one was longer still.
-/

namespace ImportPolicy

open Glob (isMatch)

namespace Glob

variable {pattern body : List Char} {e : Failure}

/-! ## Sequences that cannot be counted -/

theorem value_ne_overflow (n : Numeral) : n.value ≠ .error .overflow := by
  unfold Numeral.value
  split
  · simp
  · split
    · simp
    · simp

theorem stride_ne_overflow (step : Option Numeral) : stride step ≠ .error .overflow := by
  intro h
  cases step with
  | none => cases h
  | some n =>
    obtain hvalue | ⟨value, -, h⟩ := bind_eq_error.mp h
    · exact value_ne_overflow n hvalue
    · cases h

/-- A progression that cannot be counted goes a long way. -/
theorem le_distance_of_overflow {first last : Int} {step : Nat}
    (h : progression first last step = .error .overflow) :
    countLimit ≤ (last - first).natAbs + 1 := by
  unfold progression at h
  dsimp only at h
  split at h
  · rename_i hcount
    have hdiv := Nat.div_le_self (last - first).natAbs step
    unfold itemCount at hcount
    omega
  split at h
  · cases h
  · cases h

theorem natAbs_value_lt {n : Numeral} (hn : n.IsRead) {v : Int} (hv : n.value = .ok v) :
    v.natAbs < 10 ^ n.digits.length := by
  have hlt := hn.natOf_lt
  have hvalue := value_eq_ok hv
  split at hvalue
  · omega
  · omega

/-- Two numbers that share nineteen digits are not far from each other. -/
theorem distance_lt_countLimit {first last : Numeral} (hfirst : first.IsRead)
    (hlast : last.IsRead) {low high : Int} (hlow : first.value = .ok low)
    (hhigh : last.value = .ok high) (hwidth : first.width + last.width ≤ 19) :
    (high - low).natAbs + 1 < countLimit := by
  have hpow : ∀ {n : Numeral} {v : Int}, n.IsRead → n.value = .ok v → n.width ≤ 18 →
      v.natAbs < 10 ^ 18 := by
    intro n v hn hv hle
    refine (natAbs_value_lt hn hv).trans_le (Nat.pow_le_pow_right (by decide) ?_)
    exact (Nat.le_add_right _ _).trans hle
  have hfirstPos := hfirst.width_pos
  have hlastPos := hlast.width_pos
  have hlowLt := hpow hfirst hlow (by omega)
  have hhighLt := hpow hlast hhigh (by omega)
  unfold countLimit
  omega

/-- A sequence that cannot be counted has a long body. -/
theorem length_of_sequence_overflow (h : sequence body = .error .overflow) :
    22 ≤ body.length := by
  unfold sequence at h
  split at h
  · rename_i first last step hread
    obtain ⟨hfirst, hlast, hlength⟩ := readNumbers?_eq_some hread
    obtain h | ⟨low, hlow, h⟩ := bind_eq_error.mp h
    · exact absurd h (value_ne_overflow first)
    obtain h | ⟨high, hhigh, h⟩ := bind_eq_error.mp h
    · exact absurd h (value_ne_overflow last)
    obtain h | ⟨size, -, h⟩ := bind_eq_error.mp h
    · exact absurd h (stride_ne_overflow step)
    obtain h | ⟨items, -, h⟩ := bind_eq_error.mp h
    · by_contra hshort
      have hfar := le_distance_of_overflow h
      have hnear := distance_lt_countLimit hfirst hlast hlow hhigh (by omega)
      omega
    · cases h
  · split at h
    · rename_i first last step hread
      obtain ⟨hfirst, hlast, -⟩ := readLetters?_eq_some hread
      obtain h | ⟨size, -, h⟩ := bind_eq_error.mp h
      · exact absurd h (stride_ne_overflow step)
      obtain h | ⟨items, -, h⟩ := bind_eq_error.mp h
      · -- letters are too near to each other
        have hfar := le_distance_of_overflow h
        have hfirstLe := toNat_of_isLetter hfirst
        have hlastLe := toNat_of_isLetter hlast
        unfold countLimit at hfar
        omega
      · cases h
    · cases h

/-! ## Expansions that cannot be counted -/

theorem gather_eq_error {expansion : List Char → Except Failure (List (List Char))}
    {patterns got : List (List Char)} (h : gather expansion patterns got = .error e) :
    e = .patterns ∨ ∃ p ∈ patterns, expansion p = .error e := by
  induction patterns generalizing got with
  | nil => cases h
  | cons p more ih =>
    rw [gather] at h
    obtain h | ⟨new, -, h⟩ := bind_eq_error.mp h
    · exact .inr ⟨p, List.mem_cons_self, h⟩
    dsimp only at h
    split at h
    · exact .inl (Except.error.inj h).symm
    · obtain rfl | ⟨q, hq, h⟩ := ih h
      · exact .inl rfl
      · exact .inr ⟨q, List.mem_cons_of_mem _ hq, h⟩

theorem length_of_findGroup_overflow (h : findGroup pattern = .error .overflow) :
    24 ≤ pattern.length := by
  have hends := findGroup_ends pattern
  rw [h] at hends
  obtain ⟨before, body, behind, rfl, hbody⟩ := hends
  have hlength := length_of_sequence_overflow (partsOf_eq_error hbody)
  simp only [List.length_append, List.length_cons]
  omega

/-- Whatever a pattern is expanded to on the way, a sequence that cannot be
counted comes out of a long pattern only. -/
theorem length_of_expandWithin_overflow {steps : Nat}
    (h : expandWithin steps pattern = .error .overflow) : 24 ≤ pattern.length := by
  induction steps generalizing pattern with
  | zero => cases h
  | succ steps ih =>
    rw [expandWithin] at h
    obtain h | ⟨found, hfound, h⟩ := bind_eq_error.mp h
    · exact length_of_findGroup_overflow h
    cases found with
    | none => cases h
    | some g =>
      obtain h | ⟨replaced, hreplaced, h⟩ := gather_eq_error h
      · cases h
      · obtain ⟨part, hpart, rfl⟩ := List.mem_map.mp hreplaced
        have hlong := ih h
        have hshorter := length_replacedBy hfound hpart
        omega

/-! ## Which patterns have no answer -/

theorem negation_snd (pattern : List Char) :
    (negation pattern).2 = pattern.dropWhile (· = '!') := by
  induction pattern with
  | nil => rfl
  | cons c rest ih =>
    by_cases hc : c = '!'
    · rw [hc, negation, List.dropWhile_cons_of_pos (by decide)]
      exact ih
    · rw [negation_of_head (by simpa using hc), List.dropWhile_cons_of_neg (by simpa using hc)]

/-- Matching fails exactly where the expansion of the pattern does, and it is
not asked for that of an empty pattern and of a comment. -/
theorem judge_eq_error_iff (candidate : List Char) :
    judge candidate pattern = .error e
      ↔ pattern ≠ [] ∧ pattern.head? ≠ some '#'
        ∧ expand (pattern.dropWhile (· = '!')) = .error e := by
  rw [← negation_snd]
  unfold judge
  split
  · simp
  · simp
  · rename_i hne hcomment
    have hhead : pattern.head? ≠ some '#' := by
      intro h
      obtain ⟨rest, hrest⟩ := List.head?_eq_some_iff.mp h
      exact hcomment rest hrest
    dsimp only
    cases expand (negation pattern).2 with
    | ok plain => simp
    | error other => simp [show pattern ≠ [] from hne, hhead]

theorem isMatch_eq_error_iff {candidate pattern : String} :
    isMatch candidate pattern = .error .uncountable
      ↔ pattern ≠ "" ∧ pattern.toList.head? ≠ some '#'
        ∧ expand (pattern.toList.dropWhile (· = '!')) = .error .overflow := by
  rw [Ne, ← String.toList_eq_nil_iff, ← Ne, ← judge_eq_error_iff candidate.toList]
  unfold isMatch
  split
  · rename_i hjudge
    simp [hjudge]
  · rename_i hjudge
    simp [hjudge]
  · rename_i hne hjudge
    simpa [hjudge] using hne

/-- A pattern that cannot be expanded for another reason matches nothing. -/
theorem isMatch_of_failure {candidate pattern : String} (hne : pattern ≠ "")
    (hcomment : pattern.toList.head? ≠ some '#') (he : e ≠ .overflow)
    (h : expand (pattern.toList.dropWhile (· = '!')) = .error e) :
    isMatch candidate pattern = .ok false := by
  have hjudge : judge candidate.toList pattern.toList = .error e :=
    (judge_eq_error_iff _).mpr ⟨String.toList_eq_nil_iff.not.mpr hne, hcomment, h⟩
  unfold isMatch
  rw [hjudge]
  cases e with
  | overflow => exact absurd rfl he
  | patterns => rfl
  | items => rfl
  | digits count => rfl

/-- A pattern with fewer than 24 characters has an answer for every
candidate. -/
theorem answers_of_length_le {pattern : String} (h : pattern.length ≤ 23) :
    Answers pattern := by
  intro candidate
  cases hmatch : isMatch candidate pattern with
  | ok answer => exact ⟨answer, rfl⟩
  | error o =>
    obtain ⟨-, -, hexpand⟩ := isMatch_eq_error_iff.mp hmatch
    have hlong := length_of_expandWithin_overflow hexpand
    have hcore := (List.dropWhile_suffix (· = '!') (l := pattern.toList)).length_le
    rw [String.length_toList] at hcore
    omega

/-- The shortest sequence that cannot be counted: all numbers below 2⁶³. -/
def uncountable : String := "\x7b0..9223372036854775807\x7d"

theorem isMatch_uncountable (candidate : String) :
    isMatch candidate uncountable = .error .uncountable :=
  isMatch_eq_error_iff.mpr ⟨by decide, by decide, rfl⟩

end Glob

/-! ## Policies of short patterns -/

/-- No pattern of a policy has more than the given number of characters. -/
def Policy.IsWithin (most : Nat) (policy : Policy) : Prop :=
  ∀ rule ∈ policy.rules,
    rule.filePattern.length ≤ most ∧ ∀ pattern ∈ rule.allowed, pattern.length ≤ most

theorem Policy.IsWithin.answers {policy : Policy} (h : policy.IsWithin 23) : policy.Answers :=
  fun rule hrule => ⟨Glob.answers_of_length_le (h rule hrule).1,
    fun pattern hpattern => Glob.answers_of_length_le ((h rule hrule).2 pattern hpattern)⟩

/-- **Matching fails in one way only, and only for long patterns.** It has no
answer exactly if the pattern is neither empty nor a comment and without its
exclamation marks has a sequence that cannot be counted, whatever the
candidate is; where the pattern cannot be expanded for another reason, the
answer is no, and the remark on this is made without fault when no level is
asked for. A pattern of at most 23 characters always has an answer, there is
one of 24 that never has, and a policy without longer patterns than 23
characters can be asked for what it allows and be evaluated for every file
and all imports. -/
theorem Policy.only_uncountable_fails :
    (∀ candidate pattern : String,
      (isMatch candidate pattern = .error .uncountable
        ↔ pattern ≠ "" ∧ pattern.toList.head? ≠ some '#'
          ∧ Glob.expand (pattern.toList.dropWhile (· = '!')) = .error .overflow)
      ∧ (isMatch candidate pattern ≠ .error .uncountable
        → ∃ answer, isMatch candidate pattern = .ok answer)
      ∧ (∀ e ≠ Glob.Failure.overflow, pattern ≠ "" → pattern.toList.head? ≠ some '#'
        → Glob.expand (pattern.toList.dropWhile (· = '!')) = .error e
        → isMatch candidate pattern = .ok false)
      ∧ (pattern.length ≤ 23 → ∃ answer, isMatch candidate pattern = .ok answer))
    ∧ (∃ pattern : String, pattern.length = 24
      ∧ ∀ candidate, isMatch candidate pattern = .error .uncountable)
    ∧ (∀ rejection, Log.emitted none [Check.rejectionRecord rejection] = .ok [])
    ∧ ∀ policy : Policy, policy.IsWithin 23 → ∀ file imports,
      (∃ allowed, policy.allowedFor file = .ok allowed
        ∧ ∀ specifier, ∃ answer, isAllowed specifier allowed = .ok answer)
      ∧ ∃ found, policy.evaluate file imports = .ok found := by
  refine ⟨fun candidate pattern => ⟨Glob.isMatch_eq_error_iff, ?_, ?_, ?_⟩,
    ⟨Glob.uncountable, by decide, Glob.isMatch_uncountable⟩, fun _ => rfl, ?_⟩
  · intro hne
    cases hmatch : isMatch candidate pattern with
    | ok answer => exact ⟨answer, rfl⟩
    | error o => exact absurd hmatch hne
  · intro e he hne hcomment hexpand
    exact Glob.isMatch_of_failure hne hcomment he hexpand
  · intro hlength
    exact Glob.answers_of_length_le hlength candidate
  · intro policy hpolicy file imports
    have hanswers := hpolicy.answers
    refine ⟨⟨_, hanswers.allowedFor_eq file, fun specifier => ?_⟩,
      _, hanswers.evaluate_eq file imports⟩
    exact isAllowed_of_answers specifier fun _ hpattern => hanswers.of_mem_granted hpattern

/-- A policy with a pattern of 23 characters, for a sequence that can be
counted and has too many items. -/
def overlong : Policy := ⟨[⟨"**", ["\x7b0..922337203685477580\x7d"]⟩], "layers"⟩

theorem Policy.only_uncountable_fails_overlong :
    overlong.IsWithin 23
    ∧ ∃ found, overlong.evaluate "a.py" [⟨"os", 7, 9⟩] = .ok found := by
  have hwithin : overlong.IsWithin 23 := by
    intro rule hrule
    rw [List.mem_singleton.mp hrule]
    exact ⟨by decide, fun pattern hpattern => by rw [List.mem_singleton.mp hpattern]; decide⟩
  obtain ⟨-, -, -, hpolicies⟩ := Policy.only_uncountable_fails
  exact ⟨hwithin, (hpolicies overlong hwithin "a.py" [⟨"os", 7, 9⟩]).2⟩

/-- Two groups without such a sequence can make one. -/
example : isMatch "" "\x7b0..9\x7b223372036854775807,\x7d\x7d" = .error .uncountable := by
  decide +kernel

end ImportPolicy
