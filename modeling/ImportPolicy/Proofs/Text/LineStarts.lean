import Mathlib.Data.List.Chain
import ImportPolicy.Proofs.Text.Lines

/-!
# The table of line starts

`starts` lists where the lines of a text start. A reader of the table cuts the
text with it: from one entry to the next, and from the last one to the end
(`lineAt`). That these stretches are the lines that `split` makes is a matter
of adding up lengths (`getElem?_starts`, `getElem?_split`), so they concatenate
to the text.

A carriage return and a line feed are one break. No stretch ends between the
two (`unbroken_split`): where a carriage return ends a line, `split` has
already looked at the next character.
-/

namespace ImportPolicy.Text.Lines

variable {text : List Char}

/-! ## Entries of the table -/

theorem split_ne_nil (text : List Char) : split text ≠ [] := by
  fun_cases split text <;> simp

/-- A character that is no break joins the first line of what follows. -/
theorem split_cons_of_ne {c : Char} (hfeed : c ≠ '\n') (hreturn : c ≠ '\r') (rest : List Char) :
    ∃ line more, split rest = line :: more ∧ split (c :: rest) = (c :: line) :: more := by
  obtain ⟨line, more, h⟩ := List.exists_cons_of_ne_nil (split_ne_nil rest)
  refine ⟨line, more, h, ?_⟩
  rw [split, if_neg (by simp [hfeed, hreturn]), h]
  intro _ hc
  exact absurd hc hreturn

theorem length_startsFrom (first : Nat) (lines : List (List Char)) :
    (startsFrom first lines).length = lines.length := by
  induction lines generalizing first with
  | nil => rfl
  | cons line more ih => rw [startsFrom, List.length_cons, ih, List.length_cons]

theorem getElem?_startsFrom (first : Nat) {lines : List (List Char)} {i : Nat}
    (h : i < lines.length) :
    (startsFrom first lines)[i]? = some (first + (lines.take i).flatten.length) := by
  induction lines generalizing first i with
  | nil => cases h
  | cons line more ih => cases i with
    | zero => rfl
    | succ i =>
      rw [startsFrom, List.getElem?_cons_succ, ih _ (Nat.lt_of_succ_lt_succ h), List.take_succ_cons,
        List.flatten_cons, List.length_append, Nat.add_assoc]

theorem length_starts (text : List Char) : (starts text).length = (split text).length :=
  length_startsFrom 0 (split text)

/-- A line starts where the lines before it end. -/
theorem getElem?_starts {i : Nat} (h : i < (starts text).length) :
    (starts text)[i]? = some ((split text).take i).flatten.length := by
  rw [length_starts] at h
  rw [starts, getElem?_startsFrom 0 h, Nat.zero_add]

/-- Later lines start later, or at the same place. -/
theorem length_flatten_take_le (lines : List (List Char)) {i j : Nat} (h : i ≤ j) :
    (lines.take i).flatten.length ≤ (lines.take j).flatten.length := by
  obtain ⟨more, hmore⟩ := List.take_prefix_take_left (l := lines) h
  rw [← hmore, List.flatten_append, List.length_append]
  exact Nat.le_add_right _ _

/-! ## The lines between the entries -/

/-- The stretch of a text from the start of a line, counted from one, to the
start of the next one, or to the end. -/
def lineAt (text : List Char) (line : Nat) : List Char :=
  (text.take ((starts text)[line]?.getD text.length)).drop ((starts text).getD (line - 1) 0)

theorem drop_take_append (front line back : List Char) :
    ((front ++ (line ++ back)).take (front.length + line.length)).drop front.length = line := by
  rw [← List.append_assoc, ← List.length_append, List.take_left, List.drop_left]

/-- The next entry of the table, or the end, is where the line ends. -/
theorem getD_starts {i : Nat} (h : i ≤ (starts text).length) :
    (starts text)[i]?.getD text.length = ((split text).take i).flatten.length := by
  obtain hi | rfl := Nat.lt_or_eq_of_le h
  · rw [getElem?_starts hi, Option.getD_some]
  · rw [List.getElem?_eq_none (Nat.le_refl _), Option.getD_none, length_starts, List.take_length,
      flatten_split]

/-- The stretches between the entries of the table are the lines. -/
theorem getElem?_split {i : Nat} (h : i < (starts text).length) :
    (split text)[i]? = some (lineAt text (i + 1)) := by
  have hi : i < (split text).length := length_starts text ▸ h
  have hstart : (starts text).getD i 0 = ((split text).take i).flatten.length := by
    rw [List.getD_eq_getElem?_getD, getElem?_starts h, Option.getD_some]
  have hnext : (starts text)[i + 1]?.getD text.length
      = ((split text).take i).flatten.length + (split text)[i].length := by
    rw [getD_starts h, List.take_succ_eq_append_getElem hi, List.flatten_append,
      List.length_append, List.flatten_singleton]
  have hcut : text = ((split text).take i).flatten
      ++ ((split text)[i] ++ ((split text).drop (i + 1)).flatten) := by
    calc text
      _ = (split text).flatten := (flatten_split text).symm
      _ = ((split text).take i ++ (split text).drop i).flatten := by rw [List.take_append_drop]
      _ = _ := by
        rw [List.flatten_append, List.drop_eq_getElem_cons hi, List.flatten_cons]
  have hline := drop_take_append ((split text).take i).flatten (split text)[i]
    ((split text).drop (i + 1)).flatten
  rw [← hcut] at hline
  rw [List.getElem?_eq_getElem hi, lineAt, hnext, Nat.add_sub_cancel, hstart, hline]

/-- **The lines that the table delimits are those of the text.** -/
theorem map_lineAt (text : List Char) :
    (List.range (starts text).length).map (fun i => lineAt text (i + 1)) = split text := by
  refine List.ext_getElem? fun i => ?_
  by_cases h : i < (starts text).length
  · rw [getElem?_split h, List.getElem?_map, List.getElem?_range h, Option.map_some]
  · have hi : (split text).length ≤ i := length_starts text ▸ Nat.le_of_not_lt h
    rw [List.getElem?_eq_none hi, List.getElem?_eq_none (by simpa using Nat.le_of_not_lt h)]

/-! ## Breaks of two characters -/

/-- No break of two characters is split between two lines. -/
def Unbroken (line next : List Char) : Prop :=
  ¬ (line.getLast? = some '\r' ∧ next.head? = some '\n')

/-- The first line starts as the text does. -/
theorem head?_split (text : List Char) : ((split text).headD []).head? = text.head? := by
  fun_cases split text <;> rfl

/-- **No carriage return is split from the line feed behind it.** -/
theorem unbroken_split (text : List Char) : (split text).IsChain Unbroken := by
  fun_induction split text with
  | case1 => exact .singleton []
  | case2 rest ih =>
    refine List.isChain_cons.mpr ⟨fun next _ hbroken => ?_, ih⟩
    simp at hbroken
  | case3 c rest hpair hc ih =>
    refine List.isChain_cons.mpr ⟨fun next hnext hbroken => ?_, ih⟩
    -- the next line starts with the character behind the break
    have hhead := head?_split rest
    rw [List.headD_eq_head?_getD, Option.mem_def.mp hnext, Option.getD_some, hbroken.2] at hhead
    obtain ⟨rest', rfl⟩ := List.head?_eq_some_iff.mp hhead.symm
    exact hpair rest' (by simpa using hbroken.1) rfl
  | case4 c rest _ hc hrest ih => exact .singleton [c]
  | case5 c rest _ hc line more hrest ih =>
    rw [hrest] at ih
    obtain ⟨hnext, hmore⟩ := List.isChain_cons.mp ih
    refine List.isChain_cons.mpr ⟨fun next hmem hbroken => ?_, hmore⟩
    cases line with
    | nil =>
      have hreturn : c = '\r' := by simpa using hbroken.1
      exact hc (.inr hreturn)
    | cons second others =>
      rw [List.getLast?_cons_cons] at hbroken
      exact hnext next hmem hbroken

end ImportPolicy.Text.Lines
