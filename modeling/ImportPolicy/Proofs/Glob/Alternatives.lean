import ImportPolicy.Proofs.Glob.Depth

/-!
# Scanners and counts

Three scanners go over a pattern, each with its own account of escapes and of
the depth in braces: the search for a group, the search for the brace that
closes it, and the cut of what is between at its commas. Each starts at
another place, and a backslash at the very end is treated by each in its own
way. If two of them disagreed on one character, a piece of the pattern would
be lost or would be put into the wrong part.

What they should agree on can be said without a scanner. A text ends in the
middle of an escape if the row of backslashes at its end is odd
(`isWhole_iff_even`). Of the characters outside of escapes (`bare`), the
braces are balanced if as many are closed as opened and no front of them
closes more; and a comma is outside of all braces if as many are closed as
opened before it (`IsAlternative`). Reading a text with an account of the
depth comes to the same as this counting (`depthAfter_eq_some_iff`).

The parts of a group are then the one way of writing its body as alternatives
with commas between them (`splitTop_eq_iff`), and with the braces around them
they are the pattern again (`findGroup_alternatives`).
-/

namespace ImportPolicy.Glob

variable {commas : Bool} {depth after : ℕ} {text body : List Char}
  {parts : List (List Char)}

/-! ## Escapes -/

/-- How many backslashes there are in a row at the end of a text. -/
def lastBackslashes (text : List Char) : ℕ := (text.reverse.takeWhile (· = '\\')).length

theorem lastBackslashes_le (text : List Char) : lastBackslashes text ≤ text.length :=
  (List.takeWhile_prefix _).length_le.trans_eq List.length_reverse

/-- A character at the start counts if it is a backslash and nothing else is
behind it. -/
theorem lastBackslashes_cons (c : Char) (rest : List Char) :
    lastBackslashes (c :: rest)
      = if lastBackslashes rest = rest.length ∧ c = '\\' then rest.length + 1
        else lastBackslashes rest := by
  unfold lastBackslashes
  rw [List.reverse_cons, List.takeWhile_append, List.length_reverse]
  by_cases hrest : (rest.reverse.takeWhile (· = '\\')).length = rest.length
  · by_cases hc : c = '\\'
    · simp [hrest, hc]
    · simp [hrest, hc]
  · simp [hrest]

/-- A text is whole if the backslashes at its end come in pairs. -/
theorem isWhole_iff_even : isWhole text = true ↔ Even (lastBackslashes text) := by
  fun_induction isWhole text with
  | case1 => decide
  | case2 => decide
  | case3 c rest ih =>
    have hrow : lastBackslashes ('\\' :: c :: rest) = lastBackslashes rest
        ∨ lastBackslashes ('\\' :: c :: rest) = lastBackslashes rest + 2 := by
      have hle := lastBackslashes_le rest
      rw [lastBackslashes_cons '\\', lastBackslashes_cons c, List.length_cons]
      by_cases hall : lastBackslashes rest = rest.length ∧ c = '\\'
      · rw [if_pos hall, if_pos ⟨rfl, rfl⟩, hall.1]
        exact .inr rfl
      · rw [if_neg hall, if_neg fun hc => by omega]
        exact .inl rfl
    rw [ih, Nat.even_iff, Nat.even_iff]
    omega
  | case4 c rest hback ih => rw [ih, lastBackslashes_cons, if_neg fun hc => hback hc.2]

/-- The characters of a text that are not part of an escape. -/
def bare : List Char → List Char
  | [] => []
  | '\\' :: rest => match rest with
    | [] => []
    | _ :: rest => bare rest
  | c :: rest => c :: bare rest

theorem bare_cons {c : Char} (hback : c ≠ '\\') (rest : List Char) :
    bare (c :: rest) = c :: bare rest := by
  rw [bare]
  exact hback

/-! ## Depth as a count -/

/-- How many more braces are opened than closed by some characters. -/
def level (chars : List Char) : ℤ := (chars.count '{' : ℤ) - chars.count '}'

@[simp] theorem level_nil : level [] = 0 := rfl

theorem level_cons (c : Char) (rest : List Char) : level (c :: rest) = level [c] + level rest := by
  rw [level, level, level, ← List.singleton_append, List.count_append, List.count_append]
  omega

theorem level_open : level ['{'] = 1 := rfl

theorem level_close : level ['}'] = -1 := rfl

theorem level_of_ne {c : Char} (hopen : c ≠ '{') (hclose : c ≠ '}') : level [c] = 0 := by
  simp [level, hopen, hclose]

/-- Characters outside of escapes that lead from one depth to another: the
depth is never below zero, and at a comma it is not zero either, unless commas
are allowed there. -/
structure Leads (commas : Bool) (depth : ℤ) (chars : List Char) (after : ℤ) : Prop where
  /-- No brace is closed that is not open. -/
  nonneg : ∀ front, front <+: chars → 0 ≤ depth + level front
  /-- What is opened and not closed makes the difference. -/
  ends : depth + level chars = after
  /-- A comma stands in braces. -/
  inside : commas = false → ∀ front, front ++ [','] <+: chars → depth + level front ≠ 0

theorem leads_nil {depth after : ℤ} :
    Leads commas depth [] after ↔ 0 ≤ depth ∧ depth = after := by
  constructor
  · intro h
    exact ⟨by simpa using h.nonneg [] List.prefix_rfl, by simpa using h.ends⟩
  · rintro ⟨hdepth, rfl⟩
    refine ⟨fun front hfront => ?_, by simp, fun _ front hfront => ?_⟩
    · rw [List.prefix_nil.mp hfront]
      simpa using hdepth
    · simp at hfront

/-- What leads from a depth leads on from the depth behind the first
character. -/
theorem leads_cons {depth after : ℤ} (c : Char) (rest : List Char) :
    Leads commas depth (c :: rest) after
      ↔ 0 ≤ depth ∧ ¬ (c = ',' ∧ depth = 0 ∧ !commas)
        ∧ Leads commas (depth + level [c]) rest after := by
  constructor
  · intro h
    refine ⟨by simpa using h.nonneg [] (List.nil_prefix), ?_, fun front hfront => ?_, ?_,
      fun hcommas front hfront => ?_⟩
    · rintro ⟨rfl, hdepth, hcommas⟩
      exact h.inside (by simpa using hcommas) [] (by simp) (by simpa using hdepth)
    · have hnonneg := h.nonneg (c :: front) (List.cons_prefix_cons.mpr ⟨rfl, hfront⟩)
      rwa [level_cons, ← add_assoc] at hnonneg
    · rw [← h.ends, level_cons c rest, add_assoc]
    · have hinside := h.inside hcommas (c :: front) (List.cons_prefix_cons.mpr ⟨rfl, hfront⟩)
      rwa [level_cons, ← add_assoc] at hinside
  · rintro ⟨hdepth, hcomma, h⟩
    refine ⟨fun front hfront => ?_, ?_, fun hcommas front hfront => ?_⟩
    · obtain rfl | ⟨more, rfl, hmore⟩ := List.prefix_cons_iff.mp hfront
      · simpa using hdepth
      · rw [level_cons, ← add_assoc]
        exact h.nonneg more hmore
    · rw [level_cons, ← add_assoc, h.ends]
    · cases front with
      | nil =>
        obtain ⟨rfl, -⟩ := List.cons_prefix_cons.mp hfront
        exact fun hzero => hcomma ⟨rfl, by simpa using hzero, by simp [hcommas]⟩
      | cons first more =>
        obtain ⟨rfl, hmore⟩ := List.cons_prefix_cons.mp hfront
        rw [level_cons, ← add_assoc]
        exact h.inside hcommas more hmore

/-- **Reading with an account of the depth is counting.** -/
theorem depthAfter_eq_some_iff :
    depthAfter commas depth text = some after
      ↔ isWhole text = true ∧ Leads commas depth (bare text) after := by
  fun_induction depthAfter commas depth text with
  | case1 depth =>
    rw [bare, leads_nil]
    simp [isWhole]
  | case2 => simp [isWhole]
  | case3 depth c rest ih => exact ih
  | case4 depth rest hback ih =>
    rw [ih, isWhole_cons hback, bare_cons hback, leads_cons, level_open, Nat.cast_succ]
    simp
  | case5 rest hback _ =>
    rw [bare_cons hback, leads_cons, level_close]
    constructor
    · intro h
      cases h
    · rintro ⟨-, -, -, h⟩
      have hbelow := h.nonneg [] List.nil_prefix
      simp at hbelow
  | case6 depth rest hdepth hback _ ih =>
    rw [ih, isWhole_cons hback, bare_cons hback, leads_cons, level_close,
      Nat.cast_pred (Nat.pos_of_ne_zero hdepth)]
    simp [sub_eq_add_neg]
  | case7 depth c rest hback _ _ hcomma =>
    rw [bare_cons hback, leads_cons]
    simp [hcomma]
  | case8 depth c rest hback hopen hclose hcomma ih =>
    have hinside : ¬ (c = ',' ∧ (depth : ℤ) = 0 ∧ !commas) := by exact_mod_cast hcomma
    rw [ih, isWhole_cons hback, bare_cons hback, leads_cons, level_of_ne hopen hclose, add_zero,
      and_iff_right (Int.natCast_nonneg depth), and_iff_right hinside]

/-- What stands between the commas of a group. Backslashes at its end come in
pairs; of the characters outside of escapes, the braces are balanced and none
is closed before it is opened, and a comma stands in braces. -/
structure IsAlternative (text : List Char) : Prop where
  /-- The backslashes at the end are in pairs. -/
  paired : Even (lastBackslashes text)
  /-- As many braces are closed as are opened. -/
  balanced : level (bare text) = 0
  /-- None is closed before it is opened. -/
  nonneg : ∀ front, front <+: bare text → 0 ≤ level front
  /-- There is no comma outside of braces. -/
  inside : ∀ front, front ++ [','] <+: bare text → level front ≠ 0

theorem isBranch_iff : IsBranch text ↔ IsAlternative text := by
  rw [IsBranch, depthAfter_eq_some_iff, isWhole_iff_even]
  constructor
  · rintro ⟨hpaired, h⟩
    exact ⟨hpaired, by simpa using h.ends, by simpa using h.nonneg, by simpa using h.inside⟩
  · intro h
    exact ⟨h.paired, by simpa using h.nonneg, by simpa using h.balanced, by simpa using h.inside⟩

/-! ## The parts of a group -/

/-- **A body is cut in the one way in which it is alternatives with commas
between them.** -/
theorem splitTop_eq_iff (h : IsBalanced body) :
    parts = splitTop 0 body
      ↔ parts ≠ [] ∧ List.intercalate [','] parts = body ∧ ∀ part ∈ parts, IsAlternative part := by
  constructor
  · rintro rfl
    exact ⟨splitTop_ne_nil 0 body, intercalate_splitTop 0 body,
      fun part hpart => isBranch_iff.mp (isBranch_of_mem_splitTop h hpart)⟩
  · rintro ⟨hne, rfl, hparts⟩
    exact (splitTop_intercalate hne fun part hpart =>
      (isBranch_iff.mpr (hparts part hpart)).uncutFrom).symm

/-- **The scanners of a pattern agree.** Whatever a body is, cutting it at its
commas loses nothing but these. A group that is found stands in the pattern,
its braces outside of escapes. Either it is cut at commas: then its parts with
commas between them and braces around them are the pattern again, each part is
an alternative, and there is no other way to write the same as alternatives.
Or there is no comma to cut at, and its parts are the items of a sequence. -/
theorem findGroup_alternatives :
    (∀ body, List.intercalate [','] (splitTop 0 body) = body)
    ∧ ∀ pattern g, findGroup pattern = .ok (some g) →
      ∃ body, pattern = g.before ++ '{' :: (body ++ '}' :: g.behind)
        ∧ Even (lastBackslashes g.before)
        ∧ ((2 ≤ g.parts.length ∧ g.parts = splitTop 0 body
            ∧ pattern = g.before ++ '{' :: (List.intercalate [','] g.parts ++ '}' :: g.behind)
            ∧ (∀ part ∈ g.parts, IsAlternative part)
            ∧ ∀ others ≠ [], (∀ part ∈ others, IsAlternative part) →
              List.intercalate [','] others = List.intercalate [','] g.parts → others = g.parts)
          ∨ (splitTop 0 body = [body] ∧ IsAlternative body
            ∧ sequence body = .ok (some g.parts))) := by
  refine ⟨intercalate_splitTop 0, fun pattern g hfound => ?_⟩
  obtain ⟨body, hpattern, hbefore, hbody, hparts⟩ := findGroup_eq_some hfound
  refine ⟨body, hpattern, isWhole_iff_even.mp hbefore, ?_⟩
  obtain ⟨htwo, hcut⟩ | ⟨hone, hsequence⟩ := partsOf_eq_some_iff.mp hparts
  · obtain ⟨-, hjoined, halternatives⟩ := (splitTop_eq_iff hbody).mp hcut
    refine .inl ⟨htwo, hcut, by rw [hjoined]; exact hpattern, halternatives, ?_⟩
    intro others hne hothers hsame
    rw [hcut]
    exact (splitTop_eq_iff hbody).mpr ⟨hne, hsame.trans hjoined, hothers⟩
  · obtain ⟨-, -, halternative⟩ := (splitTop_eq_iff hbody).mp hone.symm
    exact .inr ⟨hone, halternative body List.mem_cons_self, hsequence⟩

/-- Behind an escaped backslash, a group with an escaped brace, a group and an
escaped backslash as its parts; the pattern ends in the middle of an
escape. -/
theorem findGroup_alternatives_escaped :
    let pattern := "\\\\\x7ba\\\x7d,\x7bb,c\x7d,\\\\\x7d\\".toList
    let parts := ["a\\\x7d".toList, "\x7bb,c\x7d".toList, "\\\\".toList]
    findGroup pattern = .ok (some ⟨"\\\\".toList, parts, "\\".toList⟩)
      ∧ pattern = "\\\\".toList ++ '{' :: (List.intercalate [','] parts ++ '}' :: "\\".toList)
      ∧ ∀ part ∈ parts, IsAlternative part := by
  intro pattern parts
  have hfound : findGroup pattern = .ok (some ⟨"\\\\".toList, parts, "\\".toList⟩) := by decide
  obtain ⟨body, hpattern, -, hcut | ⟨hone, -⟩⟩ := findGroup_alternatives.2 pattern _ hfound
  · exact ⟨hfound, hcut.2.2.1, hcut.2.2.2.1⟩
  · have hsame : "\\\\".toList ++ '{' :: ("a\\\x7d,\x7bb,c\x7d,\\\\".toList ++ '}' :: "\\".toList)
        = "\\\\".toList ++ '{' :: (body ++ '}' :: "\\".toList) := hpattern
    obtain rfl := List.append_cancel_right (List.cons.inj (List.append_cancel_left hsame)).2
    exact absurd hone (by decide)

end ImportPolicy.Glob
