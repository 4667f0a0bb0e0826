import ImportPolicy.Proofs.Glob.Depth
import ImportPolicy.Proofs.Glob.Expanded
import ImportPolicy.Proofs.Glob.Subtree

/-!
# Braces around a pattern

A body in braces that has no comma at the top level and is no sequence makes
no group, and its braces should stay around whatever the body is expanded to.
They do not always do so. When a group in the body has been replaced, the
whole text is read again, braces and all: the body `{1,2}..3` is no sequence,
but what it is expanded to are two (`not_expand_braced_literal`).

This is all that can happen to them: braces around a pattern stay there if
there is no text in its expansion around which they would make a group
(`expand_braced_iff`). For that, no group that they make on the way to the end
may have disappeared at the end. A group with braces in its body is one only
because of a comma, since there are no braces in a sequence
(`sequence_of_brace`). The comma is still there, and is still outside all
braces and behind no backslash, with a *branch* in the place of any group of
the body (`MakesGroup.replace`), and of the parts of a group one at least is a
branch. So a group around the pattern is still there around some text of its
expansion (`Engages.exists_part`).

The braces need not even be a pair. The brace before the pattern might be
closed in the middle of it, and the one behind it might close a brace of the
pattern; `Engages` is about both.
-/

namespace ImportPolicy.Glob

variable {pattern text rest before body part behind : List Char} {plain : List (List Char)}
  {after : ℕ}

/-- A pattern in braces. -/
def braced (pattern : List Char) : List Char := '{' :: (pattern ++ ['}'])

/-! ## Sequences have no braces -/

/-- Some characters without a meaning for braces were taken off a text. -/
def PlainBefore (rest text : List Char) : Prop :=
  ∃ front, text = front ++ rest ∧ ∀ c ∈ front, isPlain c = true

theorem PlainBefore.trans {more : List Char} (h : PlainBefore rest text)
    (hmore : PlainBefore more rest) : PlainBefore more text := by
  obtain ⟨front, rfl, hfront⟩ := h
  obtain ⟨next, rfl, hnext⟩ := hmore
  exact ⟨front ++ next, (List.append_assoc _ _ _).symm,
    List.forall_mem_append.mpr ⟨hfront, hnext⟩⟩

theorem PlainBefore.cons {c : Char} (hc : isPlain c = true) (h : PlainBefore rest text) :
    PlainBefore rest (c :: text) := by
  obtain ⟨front, rfl, hfront⟩ := h
  exact ⟨c :: front, rfl, List.forall_mem_cons.mpr ⟨hc, hfront⟩⟩

theorem plainBefore_self (text : List Char) : PlainBefore text text :=
  ⟨[], rfl, List.forall_mem_nil _⟩

theorem plainBefore_takeDigits {digits : List Nat} (h : Numeral.takeDigits text = (digits, rest)) :
    PlainBefore rest text := by
  fun_induction Numeral.takeDigits text generalizing digits rest with
  | case1 =>
    cases h
    exact plainBefore_self _
  | case2 c text d hd more after htake ih =>
    cases h
    exact (ih htake).cons (isPlain_of_isDigit (by rw [Text.isDigit, hd]; rfl))
  | case3 c text hd =>
    cases h
    exact plainBefore_self _

theorem plainBefore_read? {n : Numeral} (h : Numeral.read? text = some (n, rest)) :
    PlainBefore rest text := by
  unfold Numeral.read? at h
  split at h
  rename_i negative digitText hsign
  split at h
  · cases h
  · rename_i digits after _ htake
    cases h
    have hdigits := plainBefore_takeDigits htake
    split at hsign
    · cases hsign
      exact hdigits.cons (by decide)
    · cases hsign
      exact hdigits

theorem plainBefore_behindDots? (h : behindDots? text = some rest) : PlainBefore rest text := by
  unfold behindDots? at h
  split at h
  · cases h
    exact ((plainBefore_self rest).cons (by decide)).cons (by decide)
  · cases h

theorem plainBefore_of_atEnd (h : atEnd text = true) : PlainBefore [] text := by
  obtain rfl | rfl := of_decide_eq_true h
  · exact plainBefore_self []
  · exact (plainBefore_self []).cons (by decide)

theorem plainBefore_readStep? {step : Option Numeral} (h : readStep? text = some step) :
    PlainBefore [] text := by
  unfold readStep? at h
  split at h
  · rename_i hend
    exact plainBefore_of_atEnd hend
  · obtain ⟨stepText, hdots, h⟩ := Option.bind_eq_some_iff.mp h
    obtain ⟨⟨n, rest⟩, hread, h⟩ := Option.bind_eq_some_iff.mp h
    dsimp only at h
    split at h
    · rename_i hend
      exact (plainBefore_behindDots? hdots).trans
        ((plainBefore_read? hread).trans (plainBefore_of_atEnd hend))
    · cases h

/-- A body with a brace in it is no sequence. -/
theorem sequence_of_brace (h : '{' ∈ body) : sequence body = .ok none := by
  have hplain : ¬ PlainBefore [] body := by
    rintro ⟨front, rfl, hfront⟩
    rw [List.append_nil] at h
    exact absurd (hfront '{' h) (by decide)
  have hnumbers : readNumbers? body = none := by
    rw [Option.eq_none_iff_forall_not_mem]
    intro ends hends
    obtain ⟨⟨first, behindFirst⟩, hfirst, hends⟩ := Option.bind_eq_some_iff.mp hends
    obtain ⟨behindDots, hdots, hends⟩ := Option.bind_eq_some_iff.mp hends
    obtain ⟨⟨last, behindLast⟩, hlast, hends⟩ := Option.bind_eq_some_iff.mp hends
    obtain ⟨step, hstep, -⟩ := Option.bind_eq_some_iff.mp hends
    exact hplain ((plainBefore_read? hfirst).trans ((plainBefore_behindDots? hdots).trans
      ((plainBefore_read? hlast).trans (plainBefore_readStep? hstep))))
  have hletters : readLetters? body = none := by
    unfold readLetters?
    split
    · split
      · rename_i first last more hends
        rw [Bool.and_eq_true] at hends
        rw [Option.eq_none_iff_forall_not_mem]
        intro ends hstep
        obtain ⟨step, hstep, -⟩ := Option.bind_eq_some_iff.mp hstep
        exact hplain (((((plainBefore_readStep? hstep).cons (isPlain_of_isLetter hends.2)).cons
          (by decide)).cons (by decide)).cons (isPlain_of_isLetter hends.1))
      · rfl
    · rfl
  unfold sequence
  rw [hnumbers, hletters]

/-! ## A part in the place of a group -/

theorem makesGroup_of_cut (h : 2 ≤ (splitTop 0 body).length) : MakesGroup body := by
  unfold MakesGroup partsOf
  split
  · simp
  · rename_i hfew
    match hsplit : splitTop 0 body with
    | [] => simp [hsplit] at h
    | [_] => simp [hsplit] at h
    | first :: second :: more => exact absurd hsplit (hfew first second more)

theorem MakesGroup.cut (h : MakesGroup body) (hsequence : sequence body = .ok none) :
    2 ≤ (splitTop 0 body).length := by
  unfold MakesGroup partsOf at h
  split at h
  · rename_i first second more hsplit
    rw [hsplit]
    simp
  · exact absurd hsequence h

theorem mem_braced (body : List Char) : '{' ∈ braced body := List.mem_cons_self

theorem isBalanced_braced (h : IsBalanced body) : IsBalanced (braced body) := by
  have hbody := h.depthAfter 1
  show depthAfter true 0 ('{' :: (body ++ ['}'])) = some 0
  rw [depthAfter_cons (by decide), if_pos rfl,
    depthAfter_append (isWhole_of_depthAfter hbody), hbody]
  rfl

theorem depthAfter_replace (hwhole : isWhole before = true) (hbody : IsBalanced body)
    (hpart : IsBranch part) (depth : ℕ) :
    depthAfter true depth (before ++ (part ++ behind))
      = depthAfter true depth (before ++ (braced body ++ behind)) := by
  simp only [depthAfter_append hwhole, depthAfter_append_of_isBalanced hpart.isBalanced,
    depthAfter_append_of_isBalanced (isBalanced_braced hbody)]

/-- A body with a group in it is cut at its commas alone, and a branch in the
place of the group makes no difference to them. -/
theorem MakesGroup.replace (hbefore : depthAfter true 0 before = some after)
    (hbody : IsBalanced body) (hpart : IsBranch part)
    (h : MakesGroup (before ++ (braced body ++ behind))) :
    MakesGroup (before ++ (part ++ behind)) := by
  have hcut := h.cut (sequence_of_brace (by simp [mem_braced]))
  obtain ⟨cuts, hcuts⟩ := length_splitTop_append hbefore
  have hgroup : UncutFrom 0 (braced body) := uncutFrom_group hbody.uncutFrom
  have hafter : (0 : ℤ) ≤ after := Int.natCast_nonneg after
  refine makesGroup_of_cut ?_
  rw [show (0 : ℤ) = (0 : ℕ) from rfl, hcuts] at hcut ⊢
  rw [hgroup after hafter, length_extendFirst_splitTop] at hcut
  rwa [hpart.uncutFrom after hafter, length_extendFirst_splitTop]

theorem OpensGroup.replace (hwhole : isWhole before = true) (hbody : IsBalanced body)
    (hpart : IsBranch part) (h : OpensGroup (before ++ (braced body ++ behind))) :
    OpensGroup (before ++ (part ++ behind)) := by
  obtain ⟨inner, tail, hclose, hgroup⟩ := h
  cases hbefore : depthAfter true 0 before with
  | none =>
    obtain ⟨early, more, -, hsplit⟩ := splitClose_inside hwhole hbefore
    rw [hsplit] at hclose
    cases hclose
    exact ⟨inner, _, hsplit _, hgroup⟩
  | some after =>
    rw [splitClose_append hbefore, (isBalanced_braced hbody).closed, map_map_append] at hclose
    obtain ⟨⟨last, other⟩, hlast, heq⟩ := Option.map_eq_some_iff.mp hclose
    cases heq
    refine ⟨before ++ (part ++ last), tail, ?_, MakesGroup.replace hbefore hbody hpart ?_⟩
    · rw [splitClose_append hbefore, hpart.isBalanced.closed, hlast]
      rfl
    · rwa [← List.append_assoc]

/-! ## Braces that the closing brace closes -/

/-- What a closing brace closes is the text between a brace and its end. -/
theorem opensGroup_closing :
    splitClose 0 rest = none ∧ OpensGroup (rest ++ ['}'])
      ↔ IsBalanced rest ∧ MakesGroup rest := by
  constructor
  · rintro ⟨hnone, body, behind, hclose, hgroup⟩
    obtain ⟨front, rfl, htail⟩ := splitClose_append_of_none hnone hclose
    obtain ⟨rfl, -⟩ : front = [] ∧ behind = [] := by
      cases front with
      | nil => exact ⟨rfl, (List.cons.inj htail).2.symm⟩
      | cons c more => exact absurd (List.cons.inj htail).2 (by simp)
    rw [List.append_nil] at hclose hgroup
    exact ⟨isBalanced_of_splitClose hclose, hgroup⟩
  · rintro ⟨hbalanced, hgroup⟩
    have hnone := hbalanced.closed 0 []
    rw [List.append_nil] at hnone
    exact ⟨hnone, rest, [], splitClose_group hbalanced.closed [], hgroup⟩

theorem LeavesOpen.append {front : List Char} (hfront : isWhole front = true)
    (h : LeavesOpen ['}'] rest) : LeavesOpen ['}'] (front ++ rest) := by
  fun_induction isWhole front with
  | case1 => exact h
  | case2 => cases hfront
  | case3 c more ih => exact ih hfront
  | case4 c more hback ih =>
    rw [List.cons_append, leavesOpen_cons hback]
    exact .inr (ih hfront)

/-- None of the braces of a text is left open if all of them are closed. -/
theorem LeavesOpen.of_append {front : List Char} {depth : ℕ}
    (hfront : depthAfter true depth front = some 0) (h : LeavesOpen ['}'] (front ++ rest)) :
    LeavesOpen ['}'] rest := by
  fun_induction depthAfter true depth front with
  | case1 => exact h
  | case2 => cases hfront
  | case3 depth c more ih => exact ih hfront h
  | case4 depth more hback ih =>
    rw [List.cons_append, leavesOpen_cons hback] at h
    obtain ⟨-, hopens⟩ | h := h
    · -- balanced text goes nowhere below the depth it starts at
      obtain ⟨hbalanced, -⟩ := opensGroup_closing.mp hopens
      rw [IsBalanced, depthAfter_append (isWhole_of_depthAfter hfront)] at hbalanced
      obtain ⟨after, hafter, -⟩ := Option.bind_eq_some_iff.mp hbalanced
      have hdeeper := depthAfter_add hafter (depth + 1)
      rw [Nat.zero_add, hfront, Option.some.injEq] at hdeeper
      omega
    · exact ih hfront h
  | case5 => cases hfront
  | case6 depth more _ hback hopen ih =>
    obtain ⟨hbrace, -⟩ | h := (leavesOpen_cons hback _).mp h
    · exact absurd hbrace hopen
    · exact ih hfront h
  | case7 => cases hfront
  | case8 depth c more hback hopen _ _ ih =>
    obtain ⟨hbrace, -⟩ | h := (leavesOpen_cons hback _).mp h
    · exact absurd hbrace hopen
    · exact ih hfront h

theorem LeavesOpen.replace (hwhole : isWhole before = true) (hbody : IsBalanced body)
    (hpart : IsBranch part) (h : LeavesOpen ['}'] (before ++ (braced body ++ behind))) :
    LeavesOpen ['}'] (before ++ (part ++ behind)) := by
  fun_induction isWhole before with
  | case1 =>
    have hbehind := LeavesOpen.of_append (isBalanced_braced hbody) h
    show LeavesOpen ['}'] (part ++ behind)
    exact hbehind.append (isWhole_of_depthAfter hpart)
  | case2 => cases hwhole
  | case3 c more ih => exact ih hwhole h
  | case4 c more hback ih =>
    rw [List.cons_append, leavesOpen_cons hback, opensGroup_closing] at h ⊢
    obtain ⟨hbrace, hbalanced, hgroup⟩ | h := h
    · refine .inl ⟨hbrace, (depthAfter_replace hwhole hbody hpart 0).trans hbalanced, ?_⟩
      rw [IsBalanced, depthAfter_append hwhole] at hbalanced
      obtain ⟨after, hafter, -⟩ := Option.bind_eq_some_iff.mp hbalanced
      exact hgroup.replace hafter hbody hpart
    · exact .inr (ih hwhole h)

/-! ## Braces around a pattern -/

/-- Whether braces around a pattern make a group: the one before it opens one,
or the one behind it closes one. -/
def Engages (pattern : List Char) : Prop :=
  OpensGroup (pattern ++ ['}']) ∨ LeavesOpen ['}'] pattern

/-- **Braces that make a group around a pattern with a group still make one**
around what it becomes with some part in the place of its group. -/
theorem Engages.exists_part {g : Group} (hfound : findGroup pattern = .ok (some g))
    (h : Engages pattern) : ∃ part ∈ g.parts, Engages (g.replacedBy part) := by
  obtain ⟨body, hpattern, hwhole, hbody, hparts⟩ := findGroup_eq_some hfound
  obtain ⟨part, hpart, hbranch⟩ := exists_branch hbody hparts
  have hgroup : pattern = g.before ++ (braced body ++ g.behind) := by
    rw [hpattern, braced, List.cons_append, List.append_assoc, List.singleton_append]
  refine ⟨part, hpart, ?_⟩
  rw [Group.replacedBy, List.append_assoc]
  rw [hgroup] at h
  obtain hopens | hleaves := h
  · left
    rw [List.append_assoc, List.append_assoc] at hopens ⊢
    exact hopens.replace hwhole hbody hbranch
  · exact .inr (hleaves.replace hwhole hbody hbranch)

/-- Braces around a pattern that make no group change none. -/
theorem findGroup_braced (h : ¬ Engages pattern) :
    findGroup (braced pattern)
      = Option.map (fun g => (g.followedBy ['}']).after ['{']) <$> findGroup pattern := by
  obtain ⟨hopens, hleaves⟩ := not_or.mp h
  rw [braced, findGroup_of_not_opensGroup hopens, findGroup_append rfl rfl hleaves]
  obtain e | ⟨⟩ | g := findGroup pattern
  all_goals rfl

theorem findGroup_of_opensGroup (h : OpensGroup text) : findGroup ('{' :: text) ≠ .ok none := by
  obtain ⟨body, behind, hclose, hgroup⟩ := h
  rw [findGroup_closed hclose]
  intro hnone
  obtain ⟨⟨⟩ | parts, hparts, hnone⟩ := bind_eq_ok.mp hnone
  · exact hgroup hparts
  · cases hnone

theorem findGroup_of_append (front : List Char) (hfront : isWhole front = true)
    (h : findGroup (front ++ rest) = .ok none) : findGroup rest = .ok none := by
  have hafter : ∀ (chars : List Char) {found : Except Failure (Option Group)},
      Option.map (Group.after chars) <$> found = .ok none → found = .ok none := by
    intro chars found h
    obtain e | ⟨⟩ | g := found
    · cases h
    · rfl
    · cases h
  fun_induction isWhole front with
  | case1 => exact h
  | case2 => cases hfront
  | case3 c more ih =>
    have hescape := settled_escape c (more ++ rest)
    exact ih hfront (hafter ['\\', c] (hescape.symm.trans h))
  | case4 c more hback ih =>
    by_cases hopen : c = '{'
    · subst hopen
      have hopens : ¬ OpensGroup (more ++ rest) := fun hgroup => findGroup_of_opensGroup hgroup h
      exact ih hfront (hafter ['{'] ((findGroup_of_not_opensGroup hopens).symm.trans h))
    · exact ih hfront (hafter [c] ((findGroup_cons hback hopen _).symm.trans h))

theorem findGroup_of_leavesOpen (h : LeavesOpen ['}'] text) :
    findGroup (text ++ ['}']) ≠ .ok none := by
  intro hnone
  fun_induction LeavesOpen ['}'] text with
  | case1 => exact h
  | case2 => exact h
  | case3 c rest ih =>
    exact ih h (findGroup_of_append ['\\', c] rfl hnone)
  | case4 c rest hback ih =>
    obtain ⟨rfl, -, hopens⟩ | h := h
    · exact findGroup_of_opensGroup hopens hnone
    · exact ih h (findGroup_of_append [c] (isWhole_cons hback []) hnone)

/-- Braces around a pattern without a group stay as they are just if they make
none. -/
theorem findGroup_braced_iff (h : findGroup pattern = .ok none) :
    findGroup (braced pattern) = .ok none ↔ ¬ Engages pattern := by
  constructor
  · rintro hnone (hopens | hleaves)
    · exact findGroup_of_opensGroup hopens hnone
    · exact findGroup_of_leavesOpen hleaves (findGroup_of_append ['{'] rfl hnone)
  · intro hengages
    rw [findGroup_braced hengages, h]
    rfl

theorem engages_iff (h : IsBalanced pattern) : Engages pattern ↔ MakesGroup pattern := by
  constructor
  · rintro (⟨body, behind, hclose, hgroup⟩ | hleaves)
    · rw [splitClose_group h.closed] at hclose
      cases hclose
      exact hgroup
    · rw [← List.append_nil pattern] at hleaves
      exact absurd (hleaves.of_append h) not_false
  · exact fun hgroup => .inl ⟨pattern, [], splitClose_group h.closed [], hgroup⟩

/-! ## Expansions in braces -/

theorem Group.replacedBy_braced (g : Group) (part : List Char) :
    ((g.followedBy ['}']).after ['{']).replacedBy part = braced (g.replacedBy part) := by
  simp [braced, Group.followedBy, Group.after, Group.replacedBy]

/-- The braces go through an expansion at the end of which they make no
group. -/
theorem expand_braced (h : expand pattern = .ok plain) (hplain : ∀ e ∈ plain, ¬ Engages e) :
    ¬ Engages pattern ∧ expand (braced pattern) = .ok (plain.map braced) := by
  refine expand_induction
    (motive := fun pattern plain => (∀ e ∈ plain, ¬ Engages e) →
      ¬ Engages pattern ∧ expand (braced pattern) = .ok (plain.map braced))
    (fun pattern hfound hplain => ?_) (fun pattern g lists hfound hlists hle hplain => ?_) h hplain
  · have hengages := hplain pattern List.mem_cons_self
    exact ⟨hengages, expand_of_none ((findGroup_braced_iff hfound).mpr hengages)⟩
  have hparts : List.Forall₂ (fun part list => ¬ Engages (g.replacedBy part)
      ∧ expand (braced (g.replacedBy part)) = .ok (list.map braced)) g.parts lists := by
    have hlist : ∀ list ∈ lists, ∀ e ∈ list, ¬ Engages e :=
      fun list hmem e he => hplain e (List.mem_flatten_of_mem hmem he)
    exact (((List.forall₂_and_left _ _).mpr ⟨hlist, hlists.flip⟩).imp
      fun list part hpart => hpart.2.2 hpart.1).flip
  -- a group that the braces made here would still be there with one of the parts
  have hengages : ¬ Engages pattern := by
    intro hpattern
    obtain ⟨part, hpart, hreplaced⟩ := hpattern.exists_part hfound
    exact forall_mem_of_forall₂ (hparts.flip.imp fun _ _ h => h.1) part hpart hreplaced
  refine ⟨hengages, ?_⟩
  have hbraced : findGroup (braced pattern) = .ok (some ((g.followedBy ['}']).after ['{'])) := by
    rw [findGroup_braced hengages, hfound]
    rfl
  rw [expand_of_some hbraced, List.map_flatten]
  refine gather_of_forall₂ ?_ ?_
  · rw [List.forall₂_map_left_iff, List.forall₂_map_right_iff]
    refine hparts.imp fun part list hpart => ?_
    rw [Group.replacedBy_braced]
    exact hpart.2
  · rwa [← List.map_flatten, List.length_map, List.length_nil, Nat.zero_add]

theorem expand_braced_alone_iff (h : findGroup pattern = .ok none) :
    expand (braced pattern) = .ok [braced pattern] ↔ ¬ Engages pattern := by
  rw [← findGroup_braced_iff h]
  exact ⟨fun halone => findGroup_of_mem_expand halone _ List.mem_cons_self, expand_of_none⟩

/-- **Braces around a pattern stay where they are** in all of its expansion if
and only if they make no group around any text of it. Around a text whose own
braces are balanced they make none just if it has no comma outside of those
and is no sequence. -/
theorem expand_braced_iff (body : List Char) (plain : List (List Char))
    (h : expand body = .ok plain) :
    (expand (braced body) = .ok (plain.map braced)
        ↔ ∀ e ∈ plain, expand (braced e) = .ok [braced e])
      ∧ ∀ e ∈ plain, IsBalanced e →
        (expand (braced e) = .ok [braced e] ↔ partsOf e = .ok none) := by
  have halone : ∀ e ∈ plain, (expand (braced e) = .ok [braced e] ↔ ¬ Engages e) :=
    fun e he => expand_braced_alone_iff (findGroup_of_mem_expand h e he)
  refine ⟨⟨fun hbraced e he => ?_, fun hplain => ?_⟩, fun e he hbalanced => ?_⟩
  · exact expand_of_none (findGroup_of_mem_expand hbraced _ (List.mem_map_of_mem he))
  · exact (expand_braced h fun e he => (halone e he).mp (hplain e he)).2
  · rw [halone e he, engages_iff hbalanced, MakesGroup, not_not]

/-- What two ends of a sequence are put into becomes one if both are
numbers. -/
theorem expand_braced_iff_ends :
    expand "\x7b\x7ba,b\x7d..3\x7d".toList = .ok ["\x7ba..3\x7d".toList, "\x7bb..3\x7d".toList]
      ∧ expand "\x7b\x7b1,2\x7d..3\x7d".toList
        ≠ .ok ["\x7b1..3\x7d".toList, "\x7b2..3\x7d".toList] := by
  constructor
  · obtain ⟨hbraced, hliteral⟩ :=
      expand_braced_iff "\x7ba,b\x7d..3".toList ["a..3".toList, "b..3".toList] rfl
    have hplain : ∀ e ∈ ["a..3".toList, "b..3".toList], IsBalanced e ∧ partsOf e = .ok none := by
      decide
    exact hbraced.mpr fun e he => (hliteral e he (hplain e he).1).mpr (hplain e he).2
  · obtain ⟨hbraced, -⟩ :=
      expand_braced_iff "\x7b1,2\x7d..3".toList ["1..3".toList, "2..3".toList] rfl
    exact fun h => absurd (hbraced.mp h "1..3".toList (by decide)) (by decide)

/-- A body that is balanced, has no comma outside its braces and is no
sequence does not always stay as it is: the ends of a sequence are put
together from a group and the text behind it. -/
theorem not_expand_braced_literal :
    ¬ ∀ (body : List Char) (plain : List (List Char)), IsBranch body →
      readNumbers? body = none → readLetters? body = none → expand body = .ok plain →
      expand (braced body) = .ok (plain.map braced) := by
  intro h
  have hbraced := h "\x7b1,2\x7d..3".toList ["1..3".toList, "2..3".toList] (by decide) rfl rfl rfl
  exact absurd hbraced (by decide)

end ImportPolicy.Glob
