import ImportPolicy.Proofs.Glob.Depth
import ImportPolicy.Proofs.Glob.Segments

/-!
# Everything below a folder

A rule for a folder is a pattern that ends in `/**`. It should mean: the
folders that match the pattern before it, and whatever is below them, as long
as nothing on the way down starts with a dot. This is so for every pattern,
and there are two things in the way of it.

The text is appended to a pattern that is read as a whole, and there might be
an open brace in it, or a backslash at its end. But no character of `/**`
means anything to braces. So a group is found in the longer pattern exactly if
it is found in the shorter one, with the same parts and with more text behind
it, and this goes on through all steps of the expansion
(`expand_append_of_isPlain`).

And `**` may take no segment at all. If the pattern before it does this too,
there is no folder left that matches it. But then it consists of `**` alone,
and the first segment of the path can be the folder as well
(`cut_subtree`).
-/

namespace ImportPolicy.Glob

variable {tail : List Char} {names parts : List (List Char)}

/-! ## Text behind a pattern -/

/-- The same group with more text behind it. -/
def Group.followedBy (tail : List Char) (g : Group) : Group := { g with behind := g.behind ++ tail }

theorem Group.replacedBy_followedBy (tail : List Char) (g : Group) (part : List Char) :
    (g.followedBy tail).replacedBy part = g.replacedBy part ++ tail :=
  (List.append_assoc _ _ _).symm

theorem map_after_followedBy (chars tail : List Char) (found : Except Failure (Option Group)) :
    Option.map (Group.after chars) <$> Option.map (Group.followedBy tail) <$> found
      = Option.map (Group.followedBy tail) <$> Option.map (Group.after chars) <$> found := by
  obtain e | ⟨⟩ | g := found
  all_goals rfl

/-- Whether a brace that is not closed in a text opens a group with more text
behind it. -/
def LeavesOpen (tail : List Char) : List Char → Prop
  | [] => False
  | '\\' :: rest => match rest with
    | [] => False
    | _ :: rest => LeavesOpen tail rest
  | c :: rest => c = '{' ∧ splitClose 0 rest = none ∧ OpensGroup (rest ++ tail)
    ∨ LeavesOpen tail rest

theorem leavesOpen_cons {c : Char} (hback : c ≠ '\\') (rest : List Char) :
    LeavesOpen tail (c :: rest)
      ↔ (c = '{' ∧ splitClose 0 rest = none ∧ OpensGroup (rest ++ tail))
        ∨ LeavesOpen tail rest := by
  rw [LeavesOpen]
  exact hback

/-- **Text behind a pattern changes no group** if there is none in it and none
that an open brace of the pattern opens by it. -/
theorem findGroup_append (hnone : findGroup tail = .ok none)
    (hescape : findGroup ('\\' :: tail) = .ok none) {text : List Char}
    (h : ¬ LeavesOpen tail text) :
    findGroup (text ++ tail) = Option.map (Group.followedBy tail) <$> findGroup text := by
  induction text using findGroup.induct with
  | case1 => exact hnone
  | case2 => exact hescape
  | case3 c rest ih =>
    show findGroup (['\\', c] ++ (rest ++ tail)) = _ <$> findGroup (['\\', c] ++ rest)
    rw [settled_escape c, settled_escape c, ih h, map_after_followedBy]
  | case4 rest body behind hclose ih =>
    obtain ⟨-, hrest⟩ := not_or.mp ((leavesOpen_cons (by decide) rest).not.mp h)
    rw [List.cons_append, findGroup_closed (splitClose_append_of_some hclose tail),
      findGroup_closed hclose]
    obtain e | ⟨⟩ | parts := partsOf body
    · rfl
    · show _ <$> findGroup (rest ++ tail) = _
      rw [ih hrest, map_after_followedBy]
      rfl
    · rfl
  | case5 rest hclose ih =>
    obtain ⟨hopens, hrest⟩ := not_or.mp ((leavesOpen_cons (by decide) rest).not.mp h)
    have hlonger : ¬ OpensGroup (rest ++ tail) := fun hgroup => hopens ⟨rfl, hclose, hgroup⟩
    rw [List.cons_append, findGroup_of_not_opensGroup hlonger, findGroup_unclosed hclose, ih hrest,
      map_after_followedBy]
  | case6 c rest hback hopen ih =>
    obtain ⟨-, hrest⟩ := not_or.mp ((leavesOpen_cons hback rest).not.mp h)
    rw [List.cons_append, findGroup_cons hback hopen, findGroup_cons hback hopen, ih hrest,
      map_after_followedBy]

/-- Text without braces closes no brace that was open. -/
theorem not_leavesOpen_of_isPlain (htail : ∀ c ∈ tail, isPlain c = true) (text : List Char) :
    ¬ LeavesOpen tail text := by
  fun_induction LeavesOpen tail text with
  | case1 => exact not_false
  | case2 => exact not_false
  | case3 c rest ih => exact ih
  | case4 c rest hback ih =>
    rintro (⟨-, hnone, body, behind, hclose, -⟩ | hrest)
    · obtain ⟨front, -, rfl⟩ := splitClose_append_of_none hnone hclose
      exact absurd (htail '}' (by simp)) (by decide)
    · exact ih hrest

/-- Text without braces makes no group and changes none. -/
theorem findGroup_append_of_isPlain (htail : ∀ c ∈ tail, isPlain c = true) (text : List Char) :
    findGroup (text ++ tail) = Option.map (Group.followedBy tail) <$> findGroup text := by
  have hnone : ∀ {tail}, (∀ c ∈ tail, isPlain c = true) → findGroup tail = .ok none := by
    intro tail htail
    have h := (inert_of_forall_isPlain htail).settled []
    rwa [List.append_nil] at h
  refine findGroup_append (hnone htail) ?_ (not_leavesOpen_of_isPlain htail text)
  cases tail with
  | nil => rfl
  | cons c rest =>
    show findGroup (['\\', c] ++ rest) = .ok none
    rw [settled_escape c, hnone fun d hd => htail d (List.mem_cons_of_mem _ hd)]
    rfl

/-! ## Expansions with text behind them -/

theorem expandWithin_append_of_isPlain (htail : ∀ c ∈ tail, isPlain c = true) (n : Nat)
    (pattern : List Char) :
    expandWithin n (pattern ++ tail) = List.map (· ++ tail) <$> expandWithin n pattern := by
  induction n generalizing pattern with
  | zero => rfl
  | succ n ih =>
    rw [expandWithin, expandWithin, findGroup_append_of_isPlain htail]
    obtain e | ⟨⟩ | g := findGroup pattern
    · rfl
    · rfl
    · have hparts : (g.followedBy tail).parts.map (g.followedBy tail).replacedBy
          = (g.parts.map g.replacedBy).map (· ++ tail) := by
        rw [List.map_map]
        exact List.map_congr_left fun part _ => g.replacedBy_followedBy tail part
      show gather (expandWithin n) ((g.followedBy tail).parts.map (g.followedBy tail).replacedBy) []
        = _ <$> gather (expandWithin n) (g.parts.map g.replacedBy) []
      rw [hparts]
      exact gather_map (fun p _ => ih p) []

/-- **Text without braces stays behind every expansion** of the pattern
before it, whatever braces and backslashes are in that. -/
theorem expand_append_of_isPlain (htail : ∀ c ∈ tail, isPlain c = true) (pattern : List Char) :
    expand (pattern ++ tail) = List.map (· ++ tail) <$> expand pattern := by
  rw [expand, expandWithin_append_of_isPlain htail, expandWithin_eq_expand (by simp)]

/-! ## Paths below a folder -/

theorem takesNames_globstar {block : List (List Char)} :
    TakesNames globstar block ↔ ∀ name ∈ block, isDotted name = false := by
  rw [TakesNames, if_pos rfl]
  unfold IsSkipped
  simp only [Bool.not_eq_true']

/-- What takes no segment at all takes any one that does not start with a
dot. -/
theorem cut_singleton_of_cut_nil (hne : parts ≠ []) (h : Cut TakesNames [] parts)
    {name : List Char} (hname : isDotted name = false) : Cut TakesNames [name] parts := by
  obtain ⟨part, more, rfl⟩ := List.exists_cons_of_ne_nil hne
  obtain ⟨block, rest, heq, hblock, hrest⟩ := cut_cons.mp h
  obtain ⟨rfl, rfl⟩ := List.append_eq_nil_iff.mp heq.symm
  refine cut_cons.mpr ⟨[name], [], rfl, ?_, hrest⟩
  by_cases hpart : part = globstar
  · rw [hpart]
    exact takesNames_globstar.mpr fun other hother => List.mem_singleton.mp hother ▸ hname
  · rw [TakesNames, if_neg hpart] at hblock
    obtain ⟨item, hitem, -⟩ := hblock
    cases hitem

/-- **A last `**` takes what is below some folder**, and the folder is not
empty. -/
theorem cut_subtree (hnames : names ≠ []) (hparts : parts ≠ []) :
    Cut TakesNames names (parts ++ [globstar])
      ↔ ∃ dir below, names = dir ++ below ∧ dir ≠ [] ∧ Cut TakesNames dir parts
        ∧ ∀ name ∈ below, isDotted name = false := by
  simp only [cut_append, cut_singleton, takesNames_globstar]
  constructor
  · rintro ⟨dir, below, rfl, hdir, hbelow⟩
    by_cases hempty : dir = []
    · subst hempty
      obtain ⟨name, more, rfl⟩ := List.exists_cons_of_ne_nil hnames
      have hname := hbelow name List.mem_cons_self
      exact ⟨[name], more, rfl, List.cons_ne_nil _ _,
        cut_singleton_of_cut_nil hparts hdir hname,
        fun other hother => hbelow other (List.mem_cons_of_mem _ hother)⟩
    · exact ⟨dir, below, rfl, hempty, hdir, hbelow⟩
  · rintro ⟨dir, below, rfl, -, hdir, hbelow⟩
    exact ⟨dir, below, rfl, hdir, hbelow⟩

theorem matchPlain_subtree {candidate e : List Char} :
    matchPlain candidate (e ++ "/**".toList) = true
      ↔ ∃ dir below, segments candidate = dir ++ below ∧ dir ≠ []
        ∧ matchPlain (joined dir) e = true ∧ ∀ name ∈ below, isDotted name = false := by
  have hsegments : segments (e ++ "/**".toList) = segments e ++ [globstar] :=
    segments_append_slash e globstar
  rw [matchPlain_iff, hsegments, cut_subtree (segments_ne_nil _) (segments_ne_nil _)]
  refine exists_congr fun dir => exists_congr fun below => and_congr_right fun hsplit =>
    and_congr_right fun hne => and_congr_left fun _ => ?_
  have hslash : ∀ name ∈ dir, '/' ∉ name := fun name hname =>
    Text.not_mem_of_mem_pieces
      (hsplit ▸ List.mem_append_left below hname : name ∈ segments candidate)
  rw [matchPlain_iff, segments_joined hne hslash]

/-- **The subtree law.** Let a pattern start neither with an exclamation mark
nor with a number sign, and have an expansion. With `/**` behind it, it
matches just those paths whose segments are those of a path that it matches,
one at least, and behind them any number of segments that do not start with a
dot. -/
theorem isMatch_subtree (candidate pattern : String) (plain : List (List Char))
    (hmark : pattern.toList.head? ≠ some '!') (hcomment : pattern.toList.head? ≠ some '#')
    (hplain : expand pattern.toList = .ok plain) :
    ∃ answer, isMatch candidate (pattern ++ "/**") = .ok answer
      ∧ (answer = true ↔ ∃ dir below, segments candidate.toList = dir ++ below ∧ dir ≠ []
        ∧ isMatch (String.ofList (joined dir)) pattern = .ok true
        ∧ ∀ name ∈ below, name.head? ≠ some '.') := by
  have hhead : ∀ c, c ≠ '/' → pattern.toList.head? ≠ some c →
      (pattern ++ "/**").toList.head? ≠ some c := by
    intro c hslash hc
    rw [String.toList_append]
    cases hpattern : pattern.toList with
    | nil => exact fun h => hslash (Option.some.inj h).symm
    | cons d rest => rwa [hpattern] at hc
  have hlonger : expand (pattern ++ "/**").toList = .ok (plain.map (· ++ "/**".toList)) := by
    have hstars : ∀ c ∈ "/**".toList, isPlain c = true := List.all_eq_true.mp rfl
    rw [String.toList_append, expand_append_of_isPlain hstars, hplain]
    rfl
  refine ⟨_, isMatch_of_expand (hhead '!' (by decide) hmark) (hhead '#' (by decide) hcomment)
    hlonger, ?_⟩
  have hdir : ∀ dir, isMatch (String.ofList (joined dir)) pattern = .ok true
      ↔ ∃ e ∈ plain, matchPlain (joined dir) e = true := by
    intro dir
    rw [isMatch_of_expand hmark hcomment hplain, Except.ok.injEq, List.any_eq_true,
      String.toList_ofList]
  have hdotted : ∀ name : List Char, name.head? ≠ some '.' ↔ isDotted name = false := by
    intro name
    simp [isDotted]
  simp only [List.any_map, List.any_eq_true, Function.comp_apply, matchPlain_subtree, hdir,
    hdotted]
  constructor
  · rintro ⟨e, he, dir, below, hsplit, hne, hmatch, hbelow⟩
    exact ⟨dir, below, hsplit, hne, ⟨e, he, hmatch⟩, hbelow⟩
  · rintro ⟨dir, below, hsplit, hne, ⟨e, he, hmatch⟩, hbelow⟩
    exact ⟨e, he, dir, below, hsplit, hne, hmatch, hbelow⟩

/-- An open brace and a backslash stay open before the slash, and a folder
matches for itself where `**` comes twice. -/
theorem isMatch_subtree_open :
    isMatch "lib/\x7bx\\/y/z" ("\x7blib,**\x7d/\x7bx\\" ++ "/**") = .ok true
      ∧ isMatch "a" ("\x7blib,**\x7d" ++ "/**") = .ok true := by
  constructor
  · obtain ⟨answer, hanswer, hsubtree⟩ := isMatch_subtree "lib/\x7bx\\/y/z"
      "\x7blib,**\x7d/\x7bx\\" ["lib/\x7bx\\".toList, "**/\x7bx\\".toList]
      (by decide) (by decide) rfl
    rw [hanswer, hsubtree.mpr]
    exact ⟨["lib".toList, "\x7bx\\".toList], ["y".toList, "z".toList], rfl, by decide, rfl,
      by decide⟩
  · obtain ⟨answer, hanswer, hsubtree⟩ := isMatch_subtree "a" "\x7blib,**\x7d"
      ["lib".toList, "**".toList] (by decide) (by decide) rfl
    rw [hanswer, hsubtree.mpr]
    exact ⟨["a".toList], [], rfl, by decide, rfl, by decide⟩

end ImportPolicy.Glob
