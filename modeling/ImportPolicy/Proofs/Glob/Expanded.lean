import ImportPolicy.Proofs.Glob.Shrinking

/-!
# What an expansion leaves

Each step of an expansion reads the whole pattern again, so a group can be
found that was not there before: the digits of one group become the end of a
sequence, a backslash frees a brace. There is no telling from the pattern
which groups will come up. But none is left at the end, since the steps only
end where no group is found. What an expansion consists of is therefore
*fully expanded*: each of its patterns stands for itself alone, and to expand
them again changes nothing (`expand_expanded`).

The number of patterns is kept in bounds at every step on the way, and there
is always one, because no group is replaced by nothing
(`parts_ne_nil`). Both follow by the induction along the steps that is stated
here for all later use (`expand_induction`).
-/

namespace ImportPolicy.Glob

variable {pattern body : List Char} {plain got patterns parts : List (List Char)}

/-! ## Collecting -/

/-- What is gathered is what was there and the expansions behind it, in
order. -/
theorem gather_eq_ok {expansion : List Char → Except Failure (List (List Char))}
    (h : gather expansion patterns got = .ok plain) :
    ∃ lists, List.Forall₂ (fun p list => expansion p = .ok list) patterns lists
      ∧ plain = got ++ lists.flatten := by
  induction patterns generalizing got with
  | nil =>
    cases h
    exact ⟨[], .nil, (List.append_nil _).symm⟩
  | cons p more ih =>
    rw [gather] at h
    obtain ⟨list, hlist, h⟩ := bind_eq_ok.mp h
    dsimp only at h
    split at h
    · cases h
    · obtain ⟨lists, hlists, rfl⟩ := ih h
      exact ⟨list :: lists, .cons hlist hlists, List.append_assoc _ _ _⟩

/-- There is a look at the number after every pattern, so it is in bounds as
soon as there is one. -/
theorem length_of_gather {expansion : List Char → Except Failure (List (List Char))}
    (hne : patterns ≠ []) (h : gather expansion patterns got = .ok plain) :
    plain.length ≤ mostPatterns := by
  induction patterns generalizing got with
  | nil => exact absurd rfl hne
  | cons p more ih =>
    rw [gather] at h
    obtain ⟨list, -, h⟩ := bind_eq_ok.mp h
    dsimp only at h
    split at h
    · cases h
    · rename_i hfew
      cases more with
      | nil =>
        cases h
        exact Nat.le_of_not_lt hfew
      | cons next rest => exact ih (List.cons_ne_nil _ _) h

/-- Expansions that are not too long all together are gathered. -/
theorem gather_of_forall₂ {expansion : List Char → Except Failure (List (List Char))}
    {lists : List (List (List Char))}
    (h : List.Forall₂ (fun p list => expansion p = .ok list) patterns lists)
    (hle : got.length + lists.flatten.length ≤ mostPatterns) :
    gather expansion patterns got = .ok (got ++ lists.flatten) := by
  induction h generalizing got with
  | nil => rw [gather, List.flatten_nil, List.append_nil]
  | @cons p list patterns lists hfirst _ ih =>
    rw [List.flatten_cons, List.length_append] at hle
    have hfew : ¬ (got ++ list).length > mostPatterns := by
      rw [List.length_append]
      omega
    rw [gather, hfirst, ok_bind, if_neg hfew, List.flatten_cons, ← List.append_assoc]
    refine ih ?_
    rw [List.length_append]
    omega

/-- Patterns that each stand for themselves are gathered as they are, if they
are not too many. -/
theorem gather_of_alone {expansion : List Char → Except Failure (List (List Char))}
    (h : ∀ p ∈ patterns, expansion p = .ok [p])
    (hle : got.length + patterns.length ≤ mostPatterns) :
    gather expansion patterns got = .ok (got ++ patterns) := by
  have hsame : (patterns.map fun p => [p]).flatten = patterns := by
    rw [← List.flatMap_def, List.flatMap_singleton']
  have hlists : List.Forall₂ (fun p list => expansion p = .ok list) patterns
      (patterns.map fun p => [p]) :=
    List.forall₂_map_right_iff.mpr (List.forall₂_same.mpr h)
  rw [gather_of_forall₂ hlists (hsame.symm ▸ hle), hsame]

/-! ## Groups have parts -/

theorem sequence_ne_nil {items : List (List Char)} (h : sequence body = .ok (some items)) :
    items ≠ [] := by
  obtain ⟨_, _, _, low, high, size, -, -, -, rfl⟩ | ⟨first, last, _, size, -, rfl⟩ :=
    sequence_eq_some h
  · exact List.map_eq_nil_iff.not.mpr (between_ne_nil low high size)
  · exact List.map_eq_nil_iff.not.mpr (between_ne_nil first.toNat last.toNat size)

theorem parts_ne_nil {g : Group} (h : findGroup pattern = .ok (some g)) : g.parts ≠ [] := by
  obtain ⟨body, -, hparts⟩ := standsIn_of_findGroup h
  obtain ⟨htwo, -⟩ | ⟨-, hsequence⟩ := partsOf_eq_some_iff.mp hparts
  · exact List.ne_nil_of_length_pos (Nat.lt_of_lt_of_le Nat.zero_lt_two htwo)
  · exact sequence_ne_nil hsequence

/-! ## Along the steps -/

/-- **Induction along an expansion.** What holds of a pattern without a group
and itself, and of a pattern with a group if it holds with each part in the
place of the group, holds of a pattern and what it is expanded to. -/
theorem expand_induction {motive : List Char → List (List Char) → Prop}
    (alone : ∀ pattern, findGroup pattern = .ok none → motive pattern [pattern])
    (group : ∀ pattern g lists, findGroup pattern = .ok (some g) →
      List.Forall₂ (fun part list => expand (g.replacedBy part) = .ok list
        ∧ motive (g.replacedBy part) list) g.parts lists →
      lists.flatten.length ≤ mostPatterns → motive pattern lists.flatten)
    (h : expand pattern = .ok plain) : motive pattern plain := by
  -- the induction is on the length, since every step makes the pattern shorter
  induction hn : pattern.length using Nat.strong_induction_on generalizing pattern plain with
  | _ n ih =>
    cases hfound : findGroup pattern with
    | error e =>
      rw [expand_of_error hfound] at h
      cases h
    | ok found =>
      cases found with
      | none =>
        rw [expand_of_none hfound] at h
        cases h
        exact alone pattern hfound
      | some g =>
        rw [expand_of_some hfound] at h
        have hle := length_of_gather (List.map_eq_nil_iff.not.mpr (parts_ne_nil hfound)) h
        obtain ⟨lists, hlists, rfl⟩ := gather_eq_ok h
        rw [List.forall₂_map_left_iff] at hlists
        have hmotive : ∀ part ∈ g.parts, ∀ list, expand (g.replacedBy part) = .ok list →
            motive (g.replacedBy part) list := by
          intro part hpart list hlist
          have hshorter := length_replacedBy hfound hpart
          exact ih _ (by omega) hlist rfl
        refine group pattern g lists hfound ?_ hle
        exact ((List.forall₂_and_left _ _).mpr ⟨hmotive, hlists⟩).imp
          fun part list hpart => ⟨hpart.2, hpart.1 list hpart.2⟩

/-! ## What is left -/

theorem forall_mem_of_forall₂ {α β : Type} {Q : β → Prop} {xs : List α} {ys : List β}
    (h : List.Forall₂ (fun _ y => Q y) xs ys) : ∀ y ∈ ys, Q y := by
  induction h with
  | nil => exact List.forall_mem_nil _
  | cons hfirst _ ih => exact List.forall_mem_cons.mpr ⟨hfirst, ih⟩

theorem expand_ne_nil (h : expand pattern = .ok plain) : plain ≠ [] := by
  refine expand_induction (motive := fun _ plain => plain ≠ [])
    (fun _ _ => List.cons_ne_nil _ _) (fun pattern g lists hfound hlists _ => ?_) h
  obtain ⟨part, more, hparts⟩ := List.exists_cons_of_ne_nil (parts_ne_nil hfound)
  rw [hparts] at hlists
  cases hlists with
  | cons hfirst _ => exact fun hnil => hfirst.2 (List.append_eq_nil_iff.mp hnil).1

theorem length_expand_le (h : expand pattern = .ok plain) : plain.length ≤ mostPatterns :=
  expand_induction (motive := fun _ plain => plain.length ≤ mostPatterns)
    (fun _ _ => (by decide : 1 ≤ mostPatterns)) (fun _ _ _ _ _ hle => hle) h

/-- No group is found in what an expansion consists of. -/
theorem findGroup_of_mem_expand (h : expand pattern = .ok plain) :
    ∀ e ∈ plain, findGroup e = .ok none := by
  refine expand_induction (motive := fun _ plain => ∀ e ∈ plain, findGroup e = .ok none)
    (fun pattern hfound e he => List.mem_singleton.mp he ▸ hfound)
    (fun pattern g lists _ hlists _ e he => ?_) h
  obtain ⟨list, hlist, he⟩ := List.mem_flatten.mp he
  exact forall_mem_of_forall₂ (hlists.imp fun _ _ hpart => hpart.2) list hlist e he

/-- What each has only itself as its expansion is expanded to itself. -/
theorem mapM_expand (h : ∀ e ∈ plain, expand e = .ok [e]) :
    List.flatten <$> plain.mapM expand = .ok plain := by
  have hmapM : plain.mapM expand = .ok (plain.map fun e => [e]) := by
    induction plain with
    | nil => rfl
    | cons e more ih =>
      rw [List.mapM_cons, h e List.mem_cons_self,
        ih fun other hother => h other (List.mem_cons_of_mem _ hother)]
      rfl
  rw [hmapM]
  show Except.ok (plain.map fun e => [e]).flatten = _
  rw [← List.flatMap_def, List.flatMap_singleton']

/-- **What an expansion consists of is fully expanded**, whatever the pattern
is. There are between 1 and 1024 patterns in it; each of them has only itself
as its expansion; and so all of them expanded again, one after the other,
make up the same list. -/
theorem expand_expanded (pattern : List Char) (plain : List (List Char))
    (h : expand pattern = .ok plain) :
    (1 ≤ plain.length ∧ plain.length ≤ 1024) ∧ (∀ e ∈ plain, expand e = .ok [e])
      ∧ List.flatten <$> plain.mapM expand = .ok plain := by
  have halone : ∀ e ∈ plain, expand e = .ok [e] :=
    fun e he => expand_of_none (findGroup_of_mem_expand h e he)
  exact ⟨⟨List.length_pos_iff.mpr (expand_ne_nil h), length_expand_le h⟩, halone,
    mapM_expand halone⟩

/-- A sequence that is there only once its end has been put in, behind items
one of which takes the meaning from the brace that opens it. -/
theorem expand_expanded_freed :
    ∃ plain, expand "\x7bZ..a..2\x7d\x7b1..\x7b1,2\x7d\x7d".toList = .ok plain
      ∧ "Z2".toList ∈ plain ∧ "\\\x7b1..2\x7d".toList ∈ plain
      ∧ (1 ≤ plain.length ∧ plain.length ≤ 1024) ∧ (∀ e ∈ plain, expand e = .ok [e])
      ∧ List.flatten <$> plain.mapM expand = .ok plain := by
  refine ⟨_, rfl, by decide, by decide, ?_⟩
  exact expand_expanded "\x7bZ..a..2\x7d\x7b1..\x7b1,2\x7d\x7d".toList _ rfl

end ImportPolicy.Glob
