import ImportPolicy.Proofs.Glob.Expanded

/-!
# The recursion of expansion

A pattern with a group is expanded by expanding the patterns that come next:
those with one part of the group in its place (`Precedes`). Nothing in the
text of a pattern says how long this goes on. A pattern that comes next can
have groups that were none before, because a brace was freed by a backslash
or because the ends of a sequence were only then put in, and the items of a
sequence of numbers are not even pieces of the pattern.

The length says it. Each pattern that comes next is shorter by three
characters at least, two braces and a comma or the dots of a sequence, so the
recursion is well-founded (`wellFounded_precedes`), and no chain of patterns is
longer than a third of the first one (`length_chain_le`). The number of steps
that bounds the running definition is therefore no limit: a third of the
length is enough (`expandWithin_of_length_le`), and the expansion is the one
function that satisfies the equation of the recursion (`expand_shrinks`).
-/

namespace ImportPolicy.Glob

variable {pattern next : List Char}

/-! ## What comes next -/

/-- A pattern comes before those with a part of its first group in the place
of the group. -/
def Precedes (pattern next : List Char) : Prop :=
  ∃ g, findGroup pattern = .ok (some g) ∧ ∃ part ∈ g.parts, next = g.replacedBy part

theorem Precedes.length_add_le (h : Precedes pattern next) : next.length + 3 ≤ pattern.length := by
  obtain ⟨g, hfound, part, hpart, rfl⟩ := h
  exact length_replacedBy hfound hpart

/-- There is no endless row of patterns, each of which comes next after the
one before it. -/
theorem wellFounded_precedes : WellFounded fun next pattern => Precedes pattern next := by
  refine Subrelation.wf (fun {next pattern} h => ?_) (measure List.length).wf
  have hshorter := h.length_add_le
  show next.length < pattern.length
  omega

/-- Along a chain of patterns, three characters or more are lost with each
step. -/
theorem length_chain_le {chain : List (List Char)} (h : List.IsChain Precedes (pattern :: chain)) :
    ((pattern :: chain).getLast (List.cons_ne_nil _ _)).length + 3 * chain.length
      ≤ pattern.length := by
  induction chain generalizing pattern with
  | nil => simp
  | cons next more ih =>
    obtain ⟨hnext, hmore⟩ := List.isChain_cons_cons.mp h
    have hshorter := hnext.length_add_le
    have hrest := ih hmore
    rw [List.getLast_cons (List.cons_ne_nil next more), List.length_cons]
    omega

/-! ## The equation of the recursion -/

/-- The expansion of a pattern, given those of the patterns that come next. -/
def expandBy (expansion : List Char → Except Failure (List (List Char))) (pattern : List Char) :
    Except Failure (List (List Char)) := do
  match ← findGroup pattern with
  | none => .ok [pattern]
  | some group => gather expansion (group.parts.map group.replacedBy) []

/-- The expansion of a pattern depends on the patterns that come next, and on
no others. -/
theorem expandBy_congr {expansion other : List Char → Except Failure (List (List Char))}
    (h : ∀ next, Precedes pattern next → expansion next = other next) :
    expandBy expansion pattern = expandBy other pattern := by
  unfold expandBy
  cases hfound : findGroup pattern with
  | error e => rfl
  | ok found =>
    cases found with
    | none => rfl
    | some g =>
      refine gather_congr (fun next hnext => ?_) []
      obtain ⟨part, hpart, rfl⟩ := List.mem_map.mp hnext
      exact h _ ⟨g, hfound, part, hpart, rfl⟩

theorem expand_eq_expandBy (pattern : List Char) : expand pattern = expandBy expand pattern := by
  unfold expandBy
  cases hfound : findGroup pattern with
  | error e => exact expand_of_error hfound
  | ok found =>
    cases found with
    | none => exact expand_of_none hfound
    | some g => exact expand_of_some hfound

/-- Nothing else satisfies the equation of the recursion. -/
theorem eq_expand {expansion : List Char → Except Failure (List (List Char))}
    (h : ∀ pattern, expansion pattern = expandBy expansion pattern) : expansion = expand := by
  funext pattern
  induction pattern using wellFounded_precedes.induction with
  | _ pattern ih => rw [h, expand_eq_expandBy, expandBy_congr ih]

/-! ## How many steps are enough -/

theorem expandWithin_succ (steps : ℕ) (pattern : List Char) :
    expandWithin (steps + 1) pattern = expandBy (expandWithin steps) pattern := rfl

/-- In two characters there is no group, and nothing that fails as one. -/
theorem findGroup_of_length_le (h : pattern.length ≤ 2) : findGroup pattern = .ok none := by
  have hends := findGroup_ends pattern
  have hbody : ∀ {before body behind : List Char} {found : Except Failure (Option _)},
      pattern = before ++ '{' :: (body ++ '}' :: behind) → partsOf body = found →
      found = .ok none := by
    rintro before body behind _ rfl rfl
    simp only [List.length_append, List.length_cons] at h
    obtain rfl := List.eq_nil_of_length_eq_zero (by omega : body.length = 0)
    rfl
  cases hfound : findGroup pattern with
  | error e =>
    rw [hfound] at hends
    obtain ⟨before, body, behind, hpattern, hparts⟩ := hends
    cases hbody hpattern hparts
  | ok found =>
    cases found with
    | none => rfl
    | some g =>
      rw [hfound] at hends
      obtain ⟨body, hpattern, hparts⟩ := hends g rfl
      cases hbody hpattern hparts

/-- A third of the length of a pattern is enough steps. -/
theorem expandWithin_of_length_le {steps : ℕ} (h : pattern.length ≤ 3 * steps + 2) :
    expandWithin steps pattern = expand pattern := by
  induction steps generalizing pattern with
  | zero => rw [expand_of_none (findGroup_of_length_le h), expandWithin]
  | succ steps ih =>
    rw [expandWithin_succ, expand_eq_expandBy]
    refine expandBy_congr fun next hnext => ih ?_
    have hshorter := hnext.length_add_le
    omega

/-- **Expansion strictly shrinks.** A group stands in the pattern with its
braces, and the pattern with any part of the group in its place, the text
before it and the text behind it being kept, is shorter by three characters at
least. So there is no endless row of patterns that come one after the other;
a chain of them from a pattern has at most a third as many steps as the
pattern has characters; that many steps are enough for the whole expansion;
and the equation of the recursion has one solution, which is the expansion. -/
theorem expand_shrinks :
    (∀ pattern g, findGroup pattern = .ok (some g) →
      (∃ body, pattern = g.before ++ '{' :: (body ++ '}' :: g.behind))
        ∧ ∀ part ∈ g.parts, (g.before ++ part ++ g.behind).length ≤ (pattern.length : ℤ) - 3)
    ∧ (WellFounded fun next pattern => Precedes pattern next)
    ∧ (∀ pattern chain, List.IsChain Precedes (pattern :: chain) →
      chain.length ≤ pattern.length / 3)
    ∧ (∀ pattern, expandWithin (pattern.length / 3) pattern = expand pattern)
    ∧ ∀ expansion : List Char → Except Failure (List (List Char)),
      (∀ pattern, expansion pattern = expandBy expansion pattern) ↔ expansion = expand := by
  refine ⟨fun pattern g hfound => ⟨?_, fun part hpart => ?_⟩, wellFounded_precedes,
    fun pattern chain hchain => ?_, fun pattern => ?_, fun expansion => ⟨eq_expand, ?_⟩⟩
  · obtain ⟨body, hpattern, -⟩ := standsIn_of_findGroup hfound
    exact ⟨body, hpattern⟩
  · have hshorter := length_replacedBy hfound hpart
    rw [Group.replacedBy] at hshorter
    omega
  · have hle := length_chain_le hchain
    omega
  · exact expandWithin_of_length_le (by omega)
  · rintro rfl
    exact expand_eq_expandBy

/-- An unclosed brace, a group that is a sequence only once its first end has
been put in, and an item that is written with other digits than the end. -/
theorem expand_shrinks_pieced :
    let pattern := "\x7b\x7b\x7b-٠0,2\x7d..٣\x7d".toList
    let chain := ["\x7b\x7b-٠0..٣\x7d".toList, "\x7b3".toList]
    findGroup pattern
        = .ok (some ⟨"\x7b\x7b".toList, ["-٠0".toList, "2".toList], "..٣\x7d".toList⟩)
      ∧ ("\x7b\x7b".toList ++ "-٠0".toList ++ "..٣\x7d".toList).length
        ≤ (pattern.length : ℤ) - 3
      ∧ List.IsChain Precedes (pattern :: chain) ∧ chain.length ≤ pattern.length / 3
      ∧ expandWithin (pattern.length / 3) pattern = expand pattern := by
  intro pattern chain
  have houter : findGroup pattern
      = .ok (some ⟨"\x7b\x7b".toList, ["-٠0".toList, "2".toList], "..٣\x7d".toList⟩) := by
    decide
  have hinner : findGroup "\x7b\x7b-٠0..٣\x7d".toList
      = .ok (some ⟨"\x7b".toList, ["0".toList, "1".toList, "2".toList, "3".toList], []⟩) := by
    decide +kernel
  have hchain : List.IsChain Precedes (pattern :: chain) :=
    .cons_cons ⟨_, houter, "-٠0".toList, by decide, rfl⟩
      (.cons_cons ⟨_, hinner, "3".toList, by decide, rfl⟩ (.singleton _))
  obtain ⟨hshrinks, -, hlength, hsteps, -⟩ := expand_shrinks
  exact ⟨houter, (hshrinks pattern _ houter).2 _ (by decide), hchain, hlength pattern chain hchain,
    hsteps pattern⟩

end ImportPolicy.Glob
