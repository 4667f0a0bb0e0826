import ImportPolicy.Proofs.Document.Json
import ImportPolicy.Proofs.Document.Toml

/-!
# Reading takes enough steps

The readers of values count their steps, and one that runs out of them would
refuse a value that is none the worse. It never does. A value takes a step,
and so does its place in the array or table around it, where it stands behind
a bracket or a comma of its own; so twice the length of the text are enough
steps, and with more of them nothing is read differently. In particular it is
the end of the text that stops the reading of arrays that are not closed, not
the number of the steps.
-/

namespace ImportPolicy.Document

variable {n : Nat} {text : List Char}

/-- What stays the same from step to step stays as it is at first. -/
theorem eq_of_settled {β : Type} {f : Nat → β} {least : Nat}
    (hf : ∀ n, least < n → f (n + 1) = f n) (h : least < n) : f n = f (least + 1) := by
  induction n, h using Nat.le_induction with
  | base => rfl
  | succ n hn ih => rw [hf n hn, ih]

/-! ## JSON -/

namespace Json

/-- With this many steps and with one more the three readers do the same. A
row of members or items takes a step before its first value does. -/
structure Settled (n : Nat) : Prop where
  value : ∀ {text}, 2 * text.length < n → value (n + 1) text = value n text
  members : ∀ {got text}, 2 * text.length + 1 < n →
    members (n + 1) got text = members n got text
  elements : ∀ {got text}, 2 * text.length + 1 < n →
    elements (n + 1) got text = elements n got text

theorem settled_zero : Settled 0 where
  value h := absurd h (Nat.not_lt_zero _)
  members h := absurd h (Nat.not_lt_zero _)
  elements h := absurd h (Nat.not_lt_zero _)

theorem value_settled (ih : Settled n) (h : 2 * text.length < n + 1) :
    value (n + 1 + 1) text = value (n + 1) text := by
  unfold value
  dsimp only
  split
  · rfl
  · rename_i rest
    have hinside := (skip_suffix rest).length_le
    rw [List.length_cons] at h
    split
    · rfl
    · exact ih.members (by omega)
  · rename_i rest
    have hinside := (skip_suffix rest).length_le
    rw [List.length_cons] at h
    split
    · rfl
    · exact ih.elements (by omega)
  · rfl

theorem members_settled (ih : Settled n) {got : Entries} (h : 2 * text.length + 1 < n + 1) :
    members (n + 1 + 1) got text = members (n + 1) got text := by
  unfold members
  dsimp only
  split
  · rename_i rest
    rw [List.length_cons] at h
    refine (string_leaves rest).bind_congr fun key hkey => ?_
    have hkey := ((skip_suffix key.2).trans hkey).length_le
    split
    · rename_i behind heq
      rw [heq, List.length_cons] at hkey
      have hvalue := (skip_suffix behind).length_le
      rw [ih.value (by omega)]
      refine ((readsWithin _ n).value (List.suffix_refl _)).bind_congr fun found hfound => ?_
      have hrest := ((skip_suffix found.2).trans hfound.2).length_le
      split
      · rfl
      · rename_i more heq
        rw [heq, List.length_cons] at hrest
        have hmore := (skip_suffix more).length_le
        exact ih.members (by omega)
      · rfl
    · rfl
  · rfl

theorem elements_settled (ih : Settled n) {got : List Value} (h : 2 * text.length + 1 < n + 1) :
    elements (n + 1 + 1) got text = elements (n + 1) got text := by
  unfold elements
  rw [ih.value (by omega)]
  refine ((readsWithin text n).value (List.suffix_refl text)).bind_congr fun found hfound => ?_
  have hrest := ((skip_suffix found.2).trans hfound.2).length_le
  dsimp only
  split
  · rfl
  · rename_i more heq
    rw [heq, List.length_cons] at hrest
    have hmore := (skip_suffix more).length_le
    exact ih.elements (by omega)
  · rfl

theorem settled (n : Nat) : Settled n := by
  induction n with
  | zero => exact settled_zero
  | succ n ih => exact ⟨value_settled ih, members_settled ih, elements_settled ih⟩

/-- **Two steps for each character suffice** to read a value. -/
theorem value_of_lt (h : 2 * text.length < n) :
    value n text = value (2 * text.length + 1) text :=
  eq_of_settled (f := fun n => value n text) (fun n => (settled n).value) h

/-- The text ends before the arrays do, and this is what is wrong with it. -/
example : ((read "[[[[".toList).map fun _ => ()) = .error ⟨.value, 0⟩ := by decide +kernel

end Json

/-! ## TOML -/

namespace Toml

/-- With this many steps and with one more the three readers do the same. A
row of items or pairs takes a step before its first value does. -/
structure Settled (n : Nat) : Prop where
  value : ∀ {text}, 2 * text.length < n → value (n + 1) text = value n text
  items : ∀ {got text}, 2 * text.length + 1 < n →
    items (n + 1) got text = items n got text
  pairs : ∀ {got marks text}, 2 * text.length + 1 < n →
    pairs (n + 1) got marks text = pairs n got marks text

theorem settled_zero : Settled 0 where
  value h := absurd h (Nat.not_lt_zero _)
  items h := absurd h (Nat.not_lt_zero _)
  pairs h := absurd h (Nat.not_lt_zero _)

theorem value_settled (ih : Settled n) (h : 2 * text.length < n + 1) :
    value (n + 1 + 1) text = value (n + 1) text := by
  unfold value
  dsimp only
  split
  · rfl
  · rfl
  · rfl
  · rfl
  · rename_i rest
    rw [List.length_cons] at h
    refine (skipFiller_ends _ rest).bind_congr fun inside hinside => ?_
    have hinside := hinside.length_le
    split
    · rfl
    · exact ih.items (by omega)
  · rename_i rest
    have hinside := (skipSpace_suffix rest).length_le
    rw [List.length_cons] at h
    split
    · rfl
    · exact ih.pairs (by omega)
  · rfl

theorem items_settled (ih : Settled n) {got : List Value} (h : 2 * text.length + 1 < n + 1) :
    items (n + 1 + 1) got text = items (n + 1) got text := by
  unfold items
  rw [ih.value (by omega)]
  refine ((readsWithin text n).value (List.suffix_refl text)).bind_congr fun found hfound => ?_
  dsimp only
  refine (skipFiller_ends _ found.2).bind_congr fun rest hrest => ?_
  replace hrest := (hrest.trans hfound.2).length_le
  split
  · rfl
  · rename_i more
    rw [List.length_cons] at hrest
    refine (skipFiller_ends _ more).bind_congr fun next hnext => ?_
    have hnext := hnext.length_le
    split
    · rfl
    · exact ih.items (by omega)
  · rfl

theorem pairs_settled (ih : Settled n) {got : Entries} {marks : Marks}
    (h : 2 * text.length + 1 < n + 1) :
    pairs (n + 1 + 1) got marks text = pairs (n + 1) got marks text := by
  unfold pairs
  refine (key_leaves text).bind_congr fun key hkey => ?_
  have hkey := hkey.length_le
  dsimp only
  split
  · rename_i rest heq
    rw [heq, List.length_cons] at hkey
    have hvalue := (skipSpace_suffix rest).length_le
    rw [ih.value (by omega)]
    refine ((readsWithin _ n).value (List.suffix_refl _)).bind_congr fun found hfound => ?_
    have hbehind := ((skipSpace_suffix found.2).trans hfound.2).length_le
    split
    · rfl
    split
    · rfl
    split
    · rfl
    split
    · rfl
    · rename_i more heq
      rw [heq, List.length_cons] at hbehind
      have hmore := (skipSpace_suffix more).length_le
      exact ih.pairs (by omega)
    · rfl
  · rfl

theorem settled (n : Nat) : Settled n := by
  induction n with
  | zero => exact settled_zero
  | succ n ih => exact ⟨value_settled ih, items_settled ih, pairs_settled ih⟩

/-- **Two steps for each character suffice** to read a value. -/
theorem value_of_lt (h : 2 * text.length < n) :
    value n text = value (2 * text.length + 1) text :=
  eq_of_settled (f := fun n => value n text) (fun n => (settled n).value) h

/-- The text ends before the arrays do, and this is what is wrong with it. -/
example : ((read "x = [[[[1".toList).map fun _ => ()) = .error ⟨.openArray, 0⟩ := by
  decide +kernel

end Toml

end ImportPolicy.Document
