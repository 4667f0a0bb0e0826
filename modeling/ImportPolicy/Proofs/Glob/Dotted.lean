import ImportPolicy.Proofs.Glob.Segments
import Mathlib.Order.Monotone.Defs

/-!
# Dots have to be asked for

A folder such as `.git` and a relative specifier such as `.models` start with
a dot, and no rule is meant to cover them by accident. So a name that starts
with a dot is taken only by a segment of the pattern that starts with one as
well. The rule is kept in two places that work against each other: a segment
looks at its own name and may say no, while `**` goes on over names and has
to stop in front of one with a dot. Groups are expanded before that, and they
can put dots in front of a segment or take them away.

What comes out is a statement on whole paths. Wherever a pattern matches, one
of its expansions has a dotted segment of its own for each dotted name of the
path, in the same order, that accepts the name (`DotsMatched`).
-/

namespace ImportPolicy.Glob

variable {name part : List Char} {names parts block rest more : List (List Char)}

/-! ## Dotted names -/

/-- The places of the names that start with a dot. -/
def dottedPlaces (names : List (List Char)) : Set ℕ :=
  {i | ∃ name, names[i]? = some name ∧ isDotted name = true}

/-- Every name with a dot has a dotted segment of its own that accepts it,
and the order of the names is that of their segments. -/
structure DotsMatched (names parts : List (List Char)) (segmentOf : ℕ → ℕ) : Prop where
  /-- Later names have later segments. -/
  increasing : StrictMonoOn segmentOf (dottedPlaces names)
  /-- The segments start with dots. -/
  dotted : ∀ i ∈ dottedPlaces names, segmentOf i ∈ dottedPlaces parts
  /-- Each segment accepts its name. -/
  accepted : ∀ i ∈ dottedPlaces names, ∀ name part, names[i]? = some name →
    parts[segmentOf i]? = some part → matchSegment name part = true

theorem zero_mem_dottedPlaces : 0 ∈ dottedPlaces (name :: rest) ↔ isDotted name = true := by
  show (∃ other, some name = some other ∧ isDotted other = true) ↔ _
  simp only [Option.some.injEq, exists_eq_left']

/-- A segment that accepts a dotted name starts with a dot. -/
theorem isDotted_of_matchSegment (h : matchSegment name part = true)
    (hname : isDotted name = true) : isDotted part = true := by
  rw [matchSegment, hname, Bool.not_true, Bool.false_or, Bool.and_eq_true] at h
  exact h.1

/-! ## One step of a pattern -/

theorem DotsMatched.nil : DotsMatched [] [] id where
  increasing := strictMono_id.strictMonoOn _
  dotted := by
    rintro i ⟨name, hname, -⟩
    cases hname
  accepted := by
    rintro i ⟨name, hname, -⟩
    cases hname

/-- A segment that takes no dotted name shifts the others by one place. -/
theorem DotsMatched.later {segmentOf : ℕ → ℕ} (h : DotsMatched names more segmentOf) :
    DotsMatched names (part :: more) (segmentOf · + 1) where
  increasing := fun _ hi _ hj hij => Nat.succ_lt_succ (h.increasing hi hj hij)
  dotted := fun i hi => h.dotted i hi
  accepted := fun i hi => h.accepted i hi

/-- Names without a dot before the others ask for nothing. -/
theorem DotsMatched.skip {segmentOf : ℕ → ℕ} (hblock : ∀ name ∈ block, isDotted name = false)
    (h : DotsMatched rest parts segmentOf) :
    DotsMatched (block ++ rest) parts fun i => segmentOf (i - block.length) := by
  have hplace : ∀ i ∈ dottedPlaces (block ++ rest),
      block.length ≤ i ∧ i - block.length ∈ dottedPlaces rest := by
    rintro i ⟨name, hname, hdot⟩
    have hle : block.length ≤ i := by
      by_contra hlt
      rw [List.getElem?_append_left (Nat.lt_of_not_le hlt)] at hname
      rw [hblock name (List.mem_of_getElem? hname)] at hdot
      cases hdot
    rw [List.getElem?_append_right hle] at hname
    exact ⟨hle, name, hname, hdot⟩
  refine ⟨fun i hi j hj hij => ?_, fun i hi => h.dotted _ (hplace i hi).2,
    fun i hi name part hname hpart => ?_⟩
  · obtain ⟨hle, hi⟩ := hplace i hi
    obtain ⟨-, hj⟩ := hplace j hj
    exact h.increasing hi hj (Nat.sub_lt_sub_right hle hij)
  · obtain ⟨hle, hi⟩ := hplace i hi
    rw [List.getElem?_append_right hle] at hname
    exact h.accepted _ hi name part hname hpart

/-- A segment takes one name that it accepts. -/
theorem DotsMatched.cons {segmentOf : ℕ → ℕ} (hname : matchSegment name part = true)
    (h : DotsMatched rest more segmentOf) :
    DotsMatched (name :: rest) (part :: more) fun
      | 0 => 0
      | i + 1 => segmentOf i + 1 where
  increasing
    | 0, _, 0, _, hij => absurd hij (Nat.lt_irrefl 0)
    | 0, _, _ + 1, _, _ => Nat.succ_pos _
    | _ + 1, _, 0, _, hij => absurd hij (Nat.not_lt_zero _)
    | _ + 1, hi, _ + 1, hj, hij =>
      Nat.succ_lt_succ (h.increasing hi hj (Nat.lt_of_succ_lt_succ hij))
  dotted
    | 0, hi => zero_mem_dottedPlaces.mpr
        (isDotted_of_matchSegment hname (zero_mem_dottedPlaces.mp hi))
    | i + 1, hi => h.dotted i hi
  accepted
    | 0, _, _, _, rfl, rfl => hname
    | i + 1, hi, other, segment, hother, hsegment => h.accepted i hi other segment hother hsegment

/-! ## Paths and patterns -/

/-- **Where names are cut along segments, the dotted ones have segments of
their own.** The induction is on the segments: `**` takes no dotted name, and
any other segment takes one name. -/
theorem exists_dotsMatched (h : Cut TakesNames names parts) :
    ∃ segmentOf, DotsMatched names parts segmentOf := by
  induction parts generalizing names with
  | nil =>
    rw [cut_nil.mp h]
    exact ⟨id, .nil⟩
  | cons part more ih =>
    obtain ⟨block, rest, rfl, hblock, hrest⟩ := cut_cons.mp h
    obtain ⟨segmentOf, hmore⟩ := ih hrest
    unfold TakesNames at hblock
    split at hblock
    · have hskipped : ∀ name ∈ block, isDotted name = false :=
        fun name hname => Bool.not_eq_true' _ ▸ hblock name hname
      exact ⟨_, hmore.later.skip hskipped⟩
    · obtain ⟨name, rfl, hname⟩ := hblock
      exact ⟨_, hmore.cons hname⟩

/-- A pattern whose exclamation marks cancel out matches what one of its
expansions does. -/
theorem exists_matchPlain_of_isMatch {candidate pattern : String} {marks : ℕ} {core : List Char}
    (hmarks : Even marks) (hpattern : pattern.toList = List.replicate marks '!' ++ core)
    (hcore : core.head? ≠ some '!') (h : isMatch candidate pattern = .ok true) :
    ∃ plain, expand core = .ok plain ∧ ∃ e ∈ plain, matchPlain candidate.toList e = true := by
  have hjudge : judge candidate.toList pattern.toList = .ok true := by
    unfold isMatch at h
    split at h
    · rename_i hanswer
      rw [hanswer, Except.ok.inj h]
    · cases h
    · cases h
  have hnegation : negation pattern.toList = (false, core) := by
    rw [hpattern, negation_replicate hcore, decide_eq_false (Nat.not_odd_iff_even.mpr hmarks)]
  unfold judge at hjudge
  split at hjudge
  · -- the empty pattern is matched by the empty path, whose one segment it is
    rename_i hempty
    rw [hempty] at hnegation
    obtain rfl : [] = core := congrArg Prod.snd hnegation
    refine ⟨[[]], rfl, [], List.mem_singleton.mpr rfl, ?_⟩
    exact matchPlain_nil.mpr (of_decide_eq_true (Except.ok.inj hjudge))
  · cases hjudge
  · rw [hnegation] at hjudge
    dsimp only at hjudge
    cases hplain : expand core with
    | error e =>
      rw [hplain] at hjudge
      cases hjudge
    | ok plain =>
      rw [hplain] at hjudge
      have hany := Except.ok.inj hjudge
      rw [Bool.bne_false, List.any_eq_true] at hany
      exact ⟨plain, rfl, hany⟩

/-- **Dots have to be asked for.** Let a pattern have an even number of
exclamation marks before its core. Where it matches, the core has an
expansion with a dotted segment for every segment of the path that starts
with a dot, in the same order, and each accepts the segment it is for. The
empty pattern, which is matched by the empty path alone, is no exception. -/
theorem isMatch_dotted (candidate pattern : String) (marks : ℕ) (core : List Char)
    (hmarks : Even marks) (hpattern : pattern.toList = List.replicate marks '!' ++ core)
    (hcore : core.head? ≠ some '!') (h : isMatch candidate pattern = .ok true) :
    ∃ plain, expand core = .ok plain ∧ ∃ e ∈ plain, ∃ segmentOf,
      DotsMatched (segments candidate.toList) (segments e) segmentOf := by
  obtain ⟨plain, hplain, e, he, hmatch⟩ := exists_matchPlain_of_isMatch hmarks hpattern hcore h
  exact ⟨plain, hplain, e, he, exists_dotsMatched (matchPlain_iff.mp hmatch)⟩

/-- Three dotted names between two `**`, and dots that come out of a group and
stand before a class. -/
theorem isMatch_dotted_hidden :
    isMatch "a/.b/c/d/../.e" "!!**/.[a-c]/**/\x7b.,a\x7d./.*" = .ok true
    ∧ ∃ plain, expand "**/.[a-c]/**/\x7b.,a\x7d./.*".toList = .ok plain
      ∧ ∃ e ∈ plain, ∃ segmentOf,
        DotsMatched (segments "a/.b/c/d/../.e".toList) (segments e) segmentOf := by
  have hmatch : isMatch "a/.b/c/d/../.e" "!!**/.[a-c]/**/\x7b.,a\x7d./.*" = .ok true := by
    decide +kernel
  exact ⟨hmatch, isMatch_dotted _ _ 2 _ (by decide) rfl (by decide) hmatch⟩

end ImportPolicy.Glob
