import ImportPolicy.Proofs.Glob.Shrinking

/-!
# How deep a text is

A text that is read as part of a pattern opens some braces and closes some.
`depthAfter` says how deep one is behind it, if no brace is closed that was
opened before the text and the text does not end in the middle of an escape.
What the scanners do behind the text depends on this number alone: the search
for a closing brace goes on at the new depth (`splitClose_append`), and the
search for commas has made its cuts and goes on as well
(`length_splitTop_append`).

A text is *balanced* if it ends as deep as it starts, and it is a *branch* if
there is also no comma in it outside all its braces. The body of a group is
balanced, and the parts that it is split into are branches
(`isBranch_of_mem_splitTop`).
-/

namespace ImportPolicy.Glob

variable {commas : Bool} {depth after : ℕ} {text rest body behind : List Char}

/-! ## Whole texts -/

/-- Whether every backslash of a text has a character behind it, so that what
follows the text is read as if it stood alone. -/
def isWhole : List Char → Bool
  | [] => true
  | '\\' :: rest => match rest with
    | [] => false
    | _ :: rest => isWhole rest
  | _ :: rest => isWhole rest

theorem isWhole_cons {c : Char} (hback : c ≠ '\\') (rest : List Char) :
    isWhole (c :: rest) = isWhole rest := by
  rw [isWhole]
  exact hback

/-! ## Depth -/

/-- How deep in braces one is behind a text that starts at the given depth:
nowhere, if the text closes more braces than there are, or ends in a backslash
with nothing to escape, or has a comma outside all braces and commas are not
allowed there. -/
def depthAfter (commas : Bool) : ℕ → List Char → Option ℕ
  | depth, [] => some depth
  | depth, '\\' :: rest => match rest with
    | [] => none
    | _ :: rest => depthAfter commas depth rest
  | depth, c :: rest =>
    if c = '{' then depthAfter commas (depth + 1) rest
    else if c = '}' then if depth = 0 then none else depthAfter commas (depth - 1) rest
    else if c = ',' ∧ depth = 0 ∧ !commas then none
    else depthAfter commas depth rest

/-- A text whose braces are balanced, none closed before it is opened, and
which does not end in the middle of an escape. -/
def IsBalanced (text : List Char) : Prop := depthAfter true 0 text = some 0

/-- A balanced text without a comma outside its braces. -/
def IsBranch (text : List Char) : Prop := depthAfter false 0 text = some 0

instance : DecidablePred IsBalanced := fun _ => inferInstanceAs (Decidable (_ = _))

instance : DecidablePred IsBranch := fun _ => inferInstanceAs (Decidable (_ = _))

theorem depthAfter_cons {c : Char} (hback : c ≠ '\\') (depth : ℕ) (rest : List Char) :
    depthAfter commas depth (c :: rest)
      = if c = '{' then depthAfter commas (depth + 1) rest
        else if c = '}' then if depth = 0 then none else depthAfter commas (depth - 1) rest
        else if c = ',' ∧ depth = 0 ∧ !commas then none
        else depthAfter commas depth rest := by
  rw [depthAfter]
  exact hback

theorem isWhole_of_depthAfter (h : depthAfter commas depth text = some after) :
    isWhole text = true := by
  fun_induction depthAfter commas depth text with
  | case1 => rfl
  | case2 => cases h
  | case3 depth c rest ih => exact ih h
  | case4 depth rest _ ih => exact ih h
  | case5 => cases h
  | case6 depth rest _ _ _ ih => exact ih h
  | case7 => cases h
  | case8 depth c rest hback _ _ _ ih => rw [isWhole_cons hback, ih h]

/-- A text that starts deeper ends deeper. -/
theorem depthAfter_add (h : depthAfter commas depth text = some after) (more : ℕ) :
    depthAfter commas (depth + more) text = some (after + more) := by
  fun_induction depthAfter commas depth text with
  | case1 depth => rw [depthAfter, Option.some.inj h]
  | case2 => cases h
  | case3 depth c rest ih => exact ih h
  | case4 depth rest hback ih =>
    rw [depthAfter_cons hback, if_pos rfl, Nat.add_right_comm, ih h]
  | case5 => cases h
  | case6 depth rest hdepth hback hopen ih =>
    rw [depthAfter_cons hback, if_neg hopen, if_pos rfl, if_neg (by omega),
      Nat.sub_add_comm (Nat.one_le_iff_ne_zero.mpr hdepth), ih h]
  | case7 => cases h
  | case8 depth c rest hback hopen hclose hcomma ih =>
    rw [depthAfter_cons hback, if_neg hopen, if_neg hclose, if_neg, ih h]
    exact fun hc => hcomma ⟨hc.1, by omega, hc.2.2⟩

/-- A branch is balanced. -/
theorem depthAfter_true (h : depthAfter false depth text = some after) :
    depthAfter true depth text = some after := by
  fun_induction depthAfter false depth text with
  | case1 depth => exact h
  | case2 => cases h
  | case3 depth c rest ih => exact ih h
  | case4 depth rest hback ih => rw [depthAfter_cons hback, if_pos rfl, ih h]
  | case5 => cases h
  | case6 depth rest hdepth hback hopen ih =>
    rw [depthAfter_cons hback, if_neg hopen, if_pos rfl, if_neg hdepth, ih h]
  | case7 => cases h
  | case8 depth c rest hback hopen hclose _ ih =>
    rw [depthAfter_cons hback, if_neg hopen, if_neg hclose, if_neg (by simp), ih h]

theorem IsBranch.isBalanced (h : IsBranch text) : IsBalanced text := depthAfter_true h

theorem IsBalanced.depthAfter (h : IsBalanced text) (depth : ℕ) :
    depthAfter true depth text = some depth := by
  have hdeeper := depthAfter_add h depth
  rwa [Nat.zero_add] at hdeeper

theorem isBranch_of_isPlain (h : ∀ c ∈ text, isPlain c = true) : IsBranch text := by
  induction text with
  | nil => rfl
  | cons c rest ih =>
    obtain ⟨hback, hopen, hclose, hcomma⟩ := isPlain_iff.mp (h c List.mem_cons_self)
    rw [IsBranch, depthAfter_cons hback, if_neg hopen, if_neg hclose,
      if_neg fun hc => hcomma hc.1]
    exact ih fun d hd => h d (List.mem_cons_of_mem _ hd)

/-- Behind a whole text, reading goes on at the depth it has led to. -/
theorem depthAfter_append (h : isWhole text = true) (depth : ℕ) (rest : List Char) :
    depthAfter commas depth (text ++ rest)
      = (depthAfter commas depth text).bind fun after => depthAfter commas after rest := by
  fun_induction depthAfter commas depth text with
  | case1 depth => rfl
  | case2 => cases h
  | case3 depth c more ih => exact ih h
  | case4 depth more hback ih =>
    rw [List.cons_append, depthAfter_cons hback, if_pos rfl, ih h]
  | case5 more hback hopen =>
    rw [List.cons_append, depthAfter_cons hback, if_neg hopen, if_pos rfl, if_pos rfl]
    rfl
  | case6 depth more hdepth hback hopen ih =>
    rw [List.cons_append, depthAfter_cons hback, if_neg hopen, if_pos rfl, if_neg hdepth, ih h]
  | case7 depth c more hback hopen hclose hcomma =>
    rw [List.cons_append, depthAfter_cons hback, if_neg hopen, if_neg hclose, if_pos hcomma]
    rfl
  | case8 depth c more hback hopen hclose hcomma ih =>
    rw [isWhole_cons hback] at h
    rw [List.cons_append, depthAfter_cons hback, if_neg hopen, if_neg hclose, if_neg hcomma, ih h]

theorem depthAfter_append_of_isBalanced (h : IsBalanced text) (depth : ℕ) (rest : List Char) :
    depthAfter true depth (text ++ rest) = depthAfter true depth rest := by
  rw [depthAfter_append (isWhole_of_depthAfter h), h.depthAfter]
  rfl

/-! ## The search for a closing brace -/

theorem map_map_append (chars front : List Char) (found : Option (List Char × List Char)) :
    (found.map fun (body, behind) => (front ++ body, behind)).map
        (fun (body, behind) => (chars ++ body, behind))
      = found.map fun (body, behind) => (chars ++ front ++ body, behind) := by
  rw [Option.map_map]
  exact congrArg (Option.map · found) (funext fun pair => by simp)

/-- The search goes on behind the text, as deep as the text has led. -/
theorem splitClose_append (h : depthAfter true depth text = some after) (rest : List Char) :
    splitClose depth (text ++ rest)
      = (splitClose after rest).map fun (body, behind) => (text ++ body, behind) := by
  fun_induction depthAfter true depth text with
  | case1 depth =>
    cases h
    simp
  | case2 => cases h
  | case3 depth c more ih =>
    have hescape := closed_escape c depth (more ++ rest)
    rwa [ih h, map_map_append] at hescape
  | case4 depth more _ ih =>
    rw [List.cons_append, splitClose, ih h]
    exact map_map_append ['{'] more _
  | case5 => cases h
  | case6 depth more hdepth _ _ ih =>
    obtain ⟨depth, rfl⟩ := Nat.exists_eq_succ_of_ne_zero hdepth
    rw [List.cons_append, splitClose]
    show (splitClose depth (more ++ rest)).map _ = _
    rw [show splitClose depth (more ++ rest) = _ from ih h]
    exact map_map_append ['}'] more _
  | case7 => cases h
  | case8 depth c more hback hopen hclose _ ih =>
    have hsingle := closed_singleton hback hopen hclose depth (more ++ rest)
    rwa [ih h, map_map_append] at hsingle

theorem IsBalanced.closed (h : IsBalanced text) : Closed text :=
  fun depth rest => splitClose_append (h.depthAfter depth) rest

/-- The search ends inside a whole text that closes more braces than there
are. -/
theorem splitClose_inside (hwhole : isWhole text = true) (h : depthAfter true depth text = none) :
    ∃ body more, text = body ++ '}' :: more
      ∧ ∀ rest, splitClose depth (text ++ rest) = some (body, more ++ rest) := by
  have hlonger : ∀ (chars : List Char) {depth next : ℕ} {text : List Char},
      (∀ rest, splitClose depth (chars ++ rest)
        = (splitClose next rest).map fun (body, behind) => (chars ++ body, behind)) →
      (∃ body more, text = body ++ '}' :: more
        ∧ ∀ rest, splitClose next (text ++ rest) = some (body, more ++ rest)) →
      ∃ body more, chars ++ text = body ++ '}' :: more
        ∧ ∀ rest, splitClose depth (chars ++ text ++ rest) = some (body, more ++ rest) := by
    rintro chars depth next _ hchars ⟨body, more, rfl, hsplit⟩
    refine ⟨chars ++ body, more, (List.append_assoc _ _ _).symm, fun rest => ?_⟩
    rw [List.append_assoc, hchars, hsplit]
    rfl
  fun_induction depthAfter true depth text with
  | case1 => cases h
  | case2 => cases hwhole
  | case3 depth c more ih => exact hlonger ['\\', c] (closed_escape c depth) (ih hwhole h)
  | case4 depth more _ ih =>
    exact hlonger ['{'] (fun rest => by rw [List.singleton_append, splitClose]; rfl)
      (ih hwhole h)
  | case5 more => exact ⟨[], more, rfl, fun rest => by rw [List.cons_append, splitClose]⟩
  | case6 depth more hdepth _ _ ih =>
    obtain ⟨depth, rfl⟩ := Nat.exists_eq_succ_of_ne_zero hdepth
    exact hlonger ['}'] (fun rest => by rw [List.singleton_append, splitClose]; rfl)
      (ih hwhole h)
  | case7 depth c more _ _ _ hcomma => exact absurd hcomma.2.2 (by simp)
  | case8 depth c more hback hopen hclose _ ih =>
    rw [isWhole_cons hback] at hwhole
    exact hlonger [c] (closed_singleton hback hopen hclose depth) (ih hwhole h)

/-- What is found up to a closing brace leads down to the depth of that
brace. -/
theorem depthAfter_of_splitClose (h : splitClose depth text = some (body, behind)) :
    depthAfter true depth body = some 0 := by
  fun_induction splitClose depth text generalizing body behind with
  | case1 => cases h
  | case2 => cases h
  | case3 depth c rest ih =>
    obtain ⟨⟨inner, other⟩, hinner, heq⟩ := Option.map_eq_some_iff.mp h
    cases heq
    have hdepth := ih hinner
    exact hdepth
  | case4 depth rest ih =>
    obtain ⟨⟨inner, other⟩, hinner, heq⟩ := Option.map_eq_some_iff.mp h
    cases heq
    rw [depthAfter_cons (by decide), if_pos rfl, ih hinner]
  | case5 rest =>
    cases h
    rfl
  | case6 depth rest ih =>
    obtain ⟨⟨inner, other⟩, hinner, heq⟩ := Option.map_eq_some_iff.mp h
    cases heq
    rw [depthAfter_cons (by decide), if_neg (by decide), if_pos rfl,
      if_neg (Nat.succ_ne_zero depth)]
    exact ih hinner
  | case7 depth c rest hback hopen hlast hclose ih =>
    obtain ⟨⟨inner, other⟩, hinner, heq⟩ := Option.map_eq_some_iff.mp h
    cases heq
    have hbrace : c ≠ '}' := by
      rintro rfl
      cases depth with
      | zero => exact hlast rfl rfl
      | succ depth => exact hclose depth rfl rfl
    rw [depthAfter_cons hback, if_neg hopen, if_neg hbrace, if_neg (by simp), ih hinner]

theorem isBalanced_of_splitClose (h : splitClose 0 text = some (body, behind)) :
    IsBalanced body :=
  depthAfter_of_splitClose h

/-- A closing brace that is found stays the one that is found with more text
behind it. -/
theorem splitClose_append_of_some (h : splitClose 0 text = some (body, behind))
    (tail : List Char) : splitClose 0 (text ++ tail) = some (body, behind ++ tail) := by
  rw [splitClose_eq_some h, List.append_assoc, List.cons_append,
    splitClose_group (isBalanced_of_splitClose h).closed]

/-- A closing brace that is not found in a text but with more text behind it
is in that. -/
theorem splitClose_append_of_none (hnone : splitClose 0 text = none) {tail : List Char}
    (h : splitClose 0 (text ++ tail) = some (body, behind)) :
    ∃ front, body = text ++ front ∧ tail = front ++ '}' :: behind := by
  obtain ⟨front, hbody, htail⟩ | ⟨back, htext, htail⟩ :=
    List.append_eq_append_iff.mp (splitClose_eq_some h)
  · exact ⟨front, hbody, htail⟩
  · cases back with
    | nil => exact ⟨[], by simpa using htext.symm, htail.symm⟩
    | cons c more =>
      obtain ⟨rfl, -⟩ := List.cons.inj htail
      rw [htext, splitClose_group (isBalanced_of_splitClose h).closed] at hnone
      cases hnone

/-! ## The search for commas -/

@[simp] theorem length_extendFirst_splitTop (chars : List Char) (depth : ℤ) (rest : List Char) :
    (extendFirst chars (splitTop depth rest)).length = (splitTop depth rest).length := by
  obtain ⟨first, more, h⟩ := List.exists_cons_of_ne_nil (splitTop_ne_nil depth rest)
  rw [h]
  rfl

/-- A text makes the same cuts whatever is behind it. -/
theorem length_splitTop_append (h : depthAfter true depth text = some after) :
    ∃ cuts, ∀ rest, (splitTop depth (text ++ rest)).length
      = cuts + (splitTop after rest).length := by
  fun_induction depthAfter true depth text with
  | case1 depth =>
    cases h
    exact ⟨0, fun rest => (Nat.zero_add _).symm⟩
  | case2 => cases h
  | case3 depth c more ih =>
    obtain ⟨cuts, hcuts⟩ := ih h
    refine ⟨cuts, fun rest => ?_⟩
    show (splitTop depth ('\\' :: c :: (more ++ rest))).length = _
    rw [splitTop, length_extendFirst_splitTop, hcuts]
  | case4 depth more _ ih =>
    obtain ⟨cuts, hcuts⟩ := ih h
    refine ⟨cuts, fun rest => ?_⟩
    rw [List.cons_append, splitTop_cons (by decide), if_pos rfl, length_extendFirst_splitTop,
      ← hcuts]
    rfl
  | case5 => cases h
  | case6 depth more hdepth _ _ ih =>
    obtain ⟨cuts, hcuts⟩ := ih h
    refine ⟨cuts, fun rest => ?_⟩
    rw [List.cons_append, splitTop_cons (by decide), if_neg (by decide), if_pos rfl,
      length_extendFirst_splitTop, ← hcuts, Nat.cast_pred (Nat.pos_of_ne_zero hdepth)]
  | case7 => cases h
  | case8 depth c more hback hopen hclose _ ih =>
    obtain ⟨cuts, hcuts⟩ := ih h
    by_cases hcomma : c = ',' ∧ (depth : ℤ) = 0
    · refine ⟨cuts + 1, fun rest => ?_⟩
      rw [List.cons_append, splitTop_cons hback, if_neg hopen, if_neg hclose, if_pos hcomma,
        List.length_cons, hcuts, Nat.add_right_comm]
    · refine ⟨cuts, fun rest => ?_⟩
      rw [List.cons_append, splitTop_cons hback, if_neg hopen, if_neg hclose, if_neg hcomma,
        length_extendFirst_splitTop, hcuts]

/-- A text is not cut at a depth where its commas are allowed: the ones
outside its braces by their absence, or all of them because there are braces
around the text. -/
theorem splitTop_append_of_depthAfter (h : depthAfter commas depth text = some after) (least : ℤ)
    (hleast : 0 ≤ least) (hcommas : commas = true → 1 ≤ least) (rest : List Char) :
    splitTop (least + depth) (text ++ rest) = extendFirst text (splitTop (least + after) rest) := by
  fun_induction depthAfter commas depth text with
  | case1 depth =>
    cases h
    obtain ⟨first, more, hsplit⟩ :=
      List.exists_cons_of_ne_nil (splitTop_ne_nil (least + after) rest)
    rw [List.nil_append, hsplit]
    rfl
  | case2 => cases h
  | case3 depth c more ih =>
    show splitTop (least + depth) ('\\' :: c :: (more ++ rest)) = _
    rw [splitTop, ih h, extendFirst_extendFirst]
    rfl
  | case4 depth more _ ih =>
    have hdeeper : least + depth + 1 = least + (depth + 1 : ℕ) := by omega
    rw [List.cons_append, splitTop_cons (by decide), if_pos rfl, hdeeper, ih h,
      extendFirst_extendFirst]
    rfl
  | case5 => cases h
  | case6 depth more hdepth _ _ ih =>
    have hhigher : least + depth - 1 = least + (depth - 1 : ℕ) := by omega
    rw [List.cons_append, splitTop_cons (by decide), if_neg (by decide), if_pos rfl, hhigher, ih h,
      extendFirst_extendFirst]
    rfl
  | case7 => cases h
  | case8 depth c more hback hopen hclose hcomma ih =>
    have huncut : ¬ (c = ',' ∧ least + depth = 0) := by
      rintro ⟨hc, hzero⟩
      refine hcomma ⟨hc, by omega, ?_⟩
      rw [Bool.not_eq_true']
      by_contra hallowed
      have hone := hcommas (Bool.not_eq_false _ ▸ hallowed)
      omega
    rw [List.cons_append, splitTop_cons hback, if_neg hopen, if_neg hclose, if_neg huncut, ih h,
      extendFirst_extendFirst]
    rfl

theorem IsBalanced.uncutFrom (h : IsBalanced text) : UncutFrom 1 text := by
  intro depth hdepth rest
  have hsplit := splitTop_append_of_depthAfter h depth (by omega) (fun _ => hdepth) rest
  simpa using hsplit

theorem IsBranch.uncutFrom (h : IsBranch text) : UncutFrom 0 text := by
  intro depth hdepth rest
  have hsplit := splitTop_append_of_depthAfter h depth hdepth nofun rest
  simpa using hsplit

/-- The parts of a text start where the text starts or outside all braces, and
each of them ends outside all braces and has no comma there. -/
theorem splitTop_parts (h : depthAfter true depth text = some 0) :
    ∃ first more, splitTop depth text = first :: more
      ∧ depthAfter false depth first = some 0 ∧ ∀ part ∈ more, IsBranch part := by
  fun_induction depthAfter true depth text with
  | case1 depth =>
    cases h
    exact ⟨[], [], rfl, rfl, List.forall_mem_nil _⟩
  | case2 => cases h
  | case3 depth c rest ih =>
    obtain ⟨first, more, hsplit, hfirst, hmore⟩ := ih h
    exact ⟨'\\' :: c :: first, more, by rw [splitTop, hsplit]; rfl, hfirst, hmore⟩
  | case4 depth rest _ ih =>
    obtain ⟨first, more, hsplit, hfirst, hmore⟩ := ih h
    refine ⟨'{' :: first, more, ?_, ?_, hmore⟩
    · rw [splitTop_cons (by decide), if_pos rfl, ← Nat.cast_succ, hsplit]
      rfl
    · rwa [depthAfter_cons (by decide), if_pos rfl]
  | case5 => cases h
  | case6 depth rest hdepth _ _ ih =>
    obtain ⟨first, more, hsplit, hfirst, hmore⟩ := ih h
    refine ⟨'}' :: first, more, ?_, ?_, hmore⟩
    · rw [splitTop_cons (by decide), if_neg (by decide), if_pos rfl,
        ← Nat.cast_pred (Nat.pos_of_ne_zero hdepth), hsplit]
      rfl
    · rwa [depthAfter_cons (by decide), if_neg (by decide), if_pos rfl, if_neg hdepth]
  | case7 => cases h
  | case8 depth c rest hback hopen hclose _ ih =>
    obtain ⟨first, more, hsplit, hfirst, hmore⟩ := ih h
    by_cases hcomma : c = ',' ∧ (depth : ℤ) = 0
    · obtain rfl : depth = 0 := Int.natCast_eq_zero.mp hcomma.2
      refine ⟨[], first :: more, ?_, rfl, List.forall_mem_cons.mpr ⟨hfirst, hmore⟩⟩
      rw [splitTop_cons hback, if_neg hopen, if_neg hclose, if_pos hcomma, hsplit]
    · refine ⟨c :: first, more, ?_, ?_, hmore⟩
      · rw [splitTop_cons hback, if_neg hopen, if_neg hclose, if_neg hcomma, hsplit]
        rfl
      · rw [depthAfter_cons hback, if_neg hopen, if_neg hclose, if_neg, hfirst]
        exact fun hc => hcomma ⟨hc.1, Int.natCast_eq_zero.mpr hc.2.1⟩

/-- **The parts of a balanced text are branches.** -/
theorem isBranch_of_mem_splitTop (h : IsBalanced body) {part : List Char}
    (hpart : part ∈ splitTop 0 body) : IsBranch part := by
  obtain ⟨first, more, hsplit, hfirst, hmore⟩ := splitTop_parts h
  have hsplit : splitTop 0 body = first :: more := hsplit
  rw [hsplit] at hpart
  obtain rfl | hpart := List.mem_cons.mp hpart
  · exact hfirst
  · exact hmore part hpart

/-! ## Groups -/

/-- Whether braces around a body make a group: it has parts, or there is a
failure. -/
def MakesGroup (body : List Char) : Prop := partsOf body ≠ .ok none

/-- Whether a brace before a text is closed in it, and what is between them
makes a group. -/
def OpensGroup (text : List Char) : Prop :=
  ∃ body behind, splitClose 0 text = some (body, behind) ∧ MakesGroup body

/-- A brace that opens no group is passed over. -/
theorem findGroup_of_not_opensGroup (h : ¬ OpensGroup text) :
    findGroup ('{' :: text) = Option.map (Group.after ['{']) <$> findGroup text := by
  cases hclose : splitClose 0 text with
  | none => exact findGroup_unclosed hclose
  | some found =>
    obtain ⟨body, behind⟩ := found
    have hparts : partsOf body = .ok none :=
      not_not.mp fun hgroup => h ⟨body, behind, hclose, hgroup⟩
    rw [findGroup_closed hclose, hparts, ok_bind]

/-- A group stands behind a whole text, and its body is balanced. -/
theorem findGroup_eq_some {pattern : List Char} {g : Group}
    (h : findGroup pattern = .ok (some g)) :
    ∃ body, pattern = g.before ++ '{' :: (body ++ '}' :: g.behind) ∧ isWhole g.before = true
      ∧ IsBalanced body ∧ partsOf body = .ok (some g.parts) := by
  have hafter : ∀ (chars : List Char) {rest : List Char} {g : Group},
      (∀ before, isWhole (chars ++ before) = isWhole before) →
      Option.map (Group.after chars) <$> findGroup rest = .ok (some g) →
      (∀ {inner}, findGroup rest = .ok (some inner) →
        ∃ body, rest = inner.before ++ '{' :: (body ++ '}' :: inner.behind)
          ∧ isWhole inner.before = true ∧ IsBalanced body
          ∧ partsOf body = .ok (some inner.parts)) →
      ∃ body, chars ++ rest = g.before ++ '{' :: (body ++ '}' :: g.behind)
        ∧ isWhole g.before = true ∧ IsBalanced body ∧ partsOf body = .ok (some g.parts) := by
    intro chars rest g hchars hg hrest
    cases hfound : findGroup rest with
    | error e =>
      rw [hfound] at hg
      cases hg
    | ok found =>
      rw [hfound] at hg
      obtain ⟨inner, rfl, rfl⟩ := Option.map_eq_some_iff.mp (Except.ok.inj hg)
      obtain ⟨body, rfl, hwhole, hbody, hparts⟩ := hrest hfound
      exact ⟨body, (List.append_assoc _ _ _).symm, (hchars _).trans hwhole, hbody, hparts⟩
  induction pattern using findGroup.induct generalizing g with
  | case1 => cases h
  | case2 => cases h
  | case3 c rest ih =>
    have hescape := settled_escape c rest
    exact hafter ['\\', c] (fun _ => rfl) (hescape ▸ h) ih
  | case4 rest body behind hclose ih =>
    rw [findGroup_closed hclose] at h
    obtain ⟨⟨⟩ | parts, hparts, h⟩ := bind_eq_ok.mp h
    · exact hafter ['{'] (fun _ => isWhole_cons (by decide) _) h ih
    · cases h
      refine ⟨body, ?_, rfl, isBalanced_of_splitClose hclose, hparts⟩
      rw [splitClose_eq_some hclose]
      rfl
  | case5 rest hclose ih =>
    rw [findGroup_unclosed hclose] at h
    exact hafter ['{'] (fun _ => isWhole_cons (by decide) _) h ih
  | case6 c rest hback hopen ih =>
    rw [findGroup_cons hback hopen] at h
    exact hafter [c] (fun _ => isWhole_cons hback _) h ih

/-- One part of a group at least is a branch: every alternative, and the first
item of a sequence. Items between two letters need not be. -/
theorem exists_branch {parts : List (List Char)} (hbody : IsBalanced body)
    (h : partsOf body = .ok (some parts)) : ∃ part ∈ parts, IsBranch part := by
  obtain ⟨-, rfl⟩ | ⟨-, hsequence⟩ := partsOf_eq_some_iff.mp h
  · obtain ⟨first, hfirst⟩ := List.exists_mem_of_ne_nil _ (splitTop_ne_nil 0 body)
    exact ⟨first, hfirst, isBranch_of_mem_splitTop hbody hfirst⟩
  obtain ⟨_, _, _, low, high, size, -, -, -, rfl⟩ | ⟨first, last, _, size, hread, rfl⟩ :=
    sequence_eq_some hsequence
  · exact ⟨decimal low, List.mem_map_of_mem (mem_between_first low high size),
      isBranch_of_isPlain fun c hc => isPlain_of_mem_decimal hc⟩
  · obtain ⟨hfirst, -, -⟩ := readLetters?_eq_some hread
    refine ⟨[first], List.mem_map.mpr ⟨first.toNat, mem_between_first _ _ size, ?_⟩, ?_⟩
    · simp
    · refine isBranch_of_isPlain fun c hc => ?_
      rw [List.mem_singleton.mp hc]
      exact isPlain_of_isLetter hfirst

end ImportPolicy.Glob
