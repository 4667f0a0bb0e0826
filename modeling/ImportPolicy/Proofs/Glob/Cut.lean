import ImportPolicy.Glob.Segment
import Mathlib.Data.List.Forall2

/-!
# Cuts, and the rows that decide them

To match is to cut: a row of items matches a row of steps if it falls into
consecutive blocks, one for each step, each of which the step takes. `Cut`
says just this, with no order of search and no table.

The matcher computes a `Row` instead, from the last step to the first. A row
*tells* a property of lists if it holds, for every suffix of the items, the
truth of the property there; the row of one more step tells that the step
takes a block and the property holds behind it. So the row of all steps tells
`Cut` (`Row.tells_foldr`), and its first entry decides the whole match. The
names of a path and the characters of a name are matched in this one way.
-/

namespace ImportPolicy.Glob

variable {α β : Type}

/-! ## Cuts -/

/-- Some items can be cut into consecutive blocks, one for each step, that
the steps take. -/
def Cut (takes : β → List α → Prop) (items : List α) (steps : List β) : Prop :=
  ∃ blocks : List (List α), blocks.flatten = items ∧ List.Forall₂ takes steps blocks

/-- `P` holds behind a block that is taken. -/
def Behind (taken : List α → Prop) (P : List α → Prop) (items : List α) : Prop :=
  ∃ block rest, items = block ++ rest ∧ taken block ∧ P rest

variable {takes : β → List α → Prop}

theorem cut_nil {items : List α} : Cut takes items [] ↔ items = [] := by
  constructor
  · rintro ⟨blocks, rfl, hblocks⟩
    cases hblocks
    rfl
  · rintro rfl
    exact ⟨[], rfl, .nil⟩

theorem cut_cons {items : List α} {step : β} {steps : List β} :
    Cut takes items (step :: steps) ↔ Behind (takes step) (Cut takes · steps) items := by
  constructor
  · rintro ⟨blocks, rfl, hblocks⟩
    cases hblocks with
    | cons hfirst hmore => exact ⟨_, _, rfl, hfirst, _, rfl, hmore⟩
  · rintro ⟨block, rest, rfl, hfirst, blocks, rfl, hmore⟩
    exact ⟨block :: blocks, rfl, .cons hfirst hmore⟩

theorem cut_singleton {items : List α} {step : β} :
    Cut takes items [step] ↔ takes step items := by
  rw [cut_cons]
  constructor
  · rintro ⟨block, rest, rfl, hblock, hrest⟩
    rwa [cut_nil.mp hrest, List.append_nil]
  · intro hblock
    exact ⟨items, [], (List.append_nil _).symm, hblock, cut_nil.mpr rfl⟩

/-- Items are cut along two rows of steps if they fall into two parts, one
for each row. -/
theorem cut_append {items : List α} {steps more : List β} :
    Cut takes items (steps ++ more)
      ↔ ∃ front back, items = front ++ back ∧ Cut takes front steps ∧ Cut takes back more := by
  induction steps generalizing items with
  | nil =>
    constructor
    · intro h
      exact ⟨[], items, rfl, cut_nil.mpr rfl, h⟩
    · rintro ⟨front, back, rfl, hfront, hback⟩
      rwa [cut_nil.mp hfront]
  | cons step steps ih =>
    rw [List.cons_append, cut_cons]
    constructor
    · rintro ⟨block, rest, rfl, hblock, hrest⟩
      obtain ⟨front, back, rfl, hfront, hback⟩ := ih.mp hrest
      exact ⟨block ++ front, back, (List.append_assoc _ _ _).symm,
        cut_cons.mpr ⟨block, front, rfl, hblock, hfront⟩, hback⟩
    · rintro ⟨_, back, rfl, hfront, hback⟩
      obtain ⟨block, front, rfl, hblock, hfront⟩ := cut_cons.mp hfront
      exact ⟨block, front ++ back, List.append_assoc _ _ _, hblock,
        ih.mpr ⟨front, back, rfl, hfront, hback⟩⟩

/-- Steps that each take one fixed item cut the row of these items alone. -/
theorem cut_map_iff {γ : Type} {step : γ → β} {item : γ → α}
    (h : ∀ x block, takes (step x) block ↔ block = [item x]) {xs : List γ} {items : List α} :
    Cut takes items (xs.map step) ↔ items = xs.map item := by
  induction xs generalizing items with
  | nil => exact cut_nil
  | cons x more ih =>
    rw [List.map_cons, cut_cons, List.map_cons]
    constructor
    · rintro ⟨block, rest, rfl, hblock, hrest⟩
      rw [(h x block).mp hblock, ih.mp hrest]
      rfl
    · rintro rfl
      exact ⟨[item x], more.map item, rfl, (h x _).mpr rfl, ih.mpr rfl⟩

/-- Steps that take the same blocks cut the same items. -/
theorem cut_congr {γ : Type} {takesToo : γ → List α → Prop} {items : List α} {steps : List β}
    {others : List γ}
    (h : List.Forall₂ (fun step other => ∀ block, takes step block ↔ takesToo other block)
      steps others) :
    Cut takes items steps ↔ Cut takesToo items others := by
  induction h generalizing items with
  | nil => rw [cut_nil, cut_nil]
  | cons hstep _ ih =>
    rw [cut_cons, cut_cons]
    unfold Behind
    simp only [hstep, ih]

theorem Behind.mono {taken P Q : List α → Prop} (h : ∀ rest, P rest → Q rest) {items : List α}
    (hP : Behind taken P items) : Behind taken Q items := by
  obtain ⟨block, rest, rfl, hblock, hrest⟩ := hP
  exact ⟨block, rest, rfl, hblock, h rest hrest⟩

/-! ## The blocks of a single step -/

/-- A block of one item that is accepted. -/
def IsOne (accepts : α → Bool) (block : List α) : Prop :=
  ∃ item, block = [item] ∧ accepts item = true

/-- A block of any number of items that may be skipped. -/
def IsSkipped (skips : α → Bool) (block : List α) : Prop :=
  ∀ item ∈ block, skips item = true

variable {accepts skips : α → Bool} {P : List α → Prop}

theorem behind_isOne_nil : ¬ Behind (IsOne accepts) P [] := by
  rintro ⟨block, rest, h, ⟨item, rfl, -⟩, -⟩
  simp at h

theorem behind_isOne_cons {item : α} {rest : List α} :
    Behind (IsOne accepts) P (item :: rest) ↔ accepts item = true ∧ P rest := by
  constructor
  · rintro ⟨block, behind, h, ⟨other, rfl, haccepts⟩, hP⟩
    simp only [List.singleton_append, List.cons.injEq] at h
    obtain ⟨rfl, rfl⟩ := h
    exact ⟨haccepts, hP⟩
  · rintro ⟨haccepts, hP⟩
    exact ⟨[item], rest, rfl, ⟨item, rfl, haccepts⟩, hP⟩

theorem behind_isSkipped_nil : Behind (IsSkipped skips) P [] ↔ P [] := by
  constructor
  · rintro ⟨block, rest, h, -, hP⟩
    obtain ⟨rfl, rfl⟩ := List.append_eq_nil_iff.mp h.symm
    exact hP
  · intro hP
    exact ⟨[], [], rfl, by simp [IsSkipped], hP⟩

/-- A run of skipped items is empty, or its first item may be skipped and
the run goes on behind it. -/
theorem behind_isSkipped_cons {item : α} {rest : List α} :
    Behind (IsSkipped skips) P (item :: rest)
      ↔ P (item :: rest) ∨ (skips item = true ∧ Behind (IsSkipped skips) P rest) := by
  constructor
  · rintro ⟨block, behind, h, hskipped, hP⟩
    cases block with
    | nil =>
      rw [List.nil_append] at h
      exact Or.inl (h ▸ hP)
    | cons first more =>
      simp only [List.cons_append, List.cons.injEq] at h
      obtain ⟨rfl, rfl⟩ := h
      exact Or.inr ⟨hskipped item List.mem_cons_self, more, behind, rfl,
        fun other hother => hskipped other (List.mem_cons_of_mem _ hother), hP⟩
  · rintro (hP | ⟨hfirst, block, behind, rfl, hskipped, hP⟩)
    · exact ⟨[], item :: rest, rfl, by simp [IsSkipped], hP⟩
    · refine ⟨item :: block, behind, rfl, ?_, hP⟩
      intro other hother
      rcases List.mem_cons.mp hother with rfl | hother
      · exact hfirst
      · exact hskipped other hother

/-! ## Rows -/

/-- A row holds, for every suffix of some items, whether a property holds of
the suffix. -/
def Row.Tells (P : List α → Prop) : List α → Row → Prop
  | [], row => ∃ here, row = [here] ∧ (here = true ↔ P [])
  | item :: rest, row =>
    ∃ here later, row = here :: later ∧ (here = true ↔ P (item :: rest)) ∧ Row.Tells P rest later

namespace Row

/-- The first entry of a row is about all items. -/
theorem Tells.headD {items : List α} {row : Row} (h : Tells P items row) :
    row.headD false = true ↔ P items := by
  cases items with
  | nil =>
    obtain ⟨here, rfl, hhere⟩ := h
    exact hhere
  | cons item rest =>
    obtain ⟨here, later, rfl, hhere, -⟩ := h
    exact hhere

theorem Tells.congr {Q : List α → Prop} (hPQ : ∀ items, P items ↔ Q items) {items : List α}
    {row : Row} (h : Tells P items row) : Tells Q items row := by
  rwa [show Q = P from funext fun items => propext (hPQ items).symm]

theorem tells_finish (items : List α) : Tells (· = []) items (Row.finish α items) := by
  induction items with
  | nil => exact ⟨true, rfl, by simp⟩
  | cons item rest ih => exact ⟨false, _, rfl, by simp, ih⟩

theorem Tells.single {items : List α} {row : Row} (h : Tells P items row) :
    Tells (Behind (IsOne accepts) P) items (Row.single accepts items row) := by
  induction items generalizing row with
  | nil =>
    obtain ⟨here, rfl, -⟩ := h
    exact ⟨false, rfl, by simp [behind_isOne_nil]⟩
  | cons item rest ih =>
    obtain ⟨here, later, rfl, -, hlater⟩ := h
    refine ⟨_, _, rfl, ?_, ih hlater⟩
    rw [Bool.and_eq_true, hlater.headD, behind_isOne_cons]

theorem Tells.skipping {items : List α} {row : Row} (h : Tells P items row) :
    Tells (Behind (IsSkipped skips) P) items (Row.skipping skips items row) := by
  induction items generalizing row with
  | nil =>
    obtain ⟨here, rfl, hhere⟩ := h
    exact ⟨here, rfl, by rw [hhere, behind_isSkipped_nil]⟩
  | cons item rest ih =>
    obtain ⟨here, later, rfl, hhere, hlater⟩ := h
    refine ⟨_, _, rfl, ?_, ih hlater⟩
    rw [Bool.or_eq_true, Bool.and_eq_true, hhere, (ih hlater).headD, behind_isSkipped_cons]

/-- **The row of all steps decides whether there is a cut**, if the row of
each step does its part. -/
theorem tells_foldr {row : β → Row → Row} {items : List α}
    (hrow : ∀ step P later, Tells P items later →
      Tells (Behind (takes step) P) items (row step later))
    (steps : List β) :
    Tells (Cut takes · steps) items (steps.foldr row (Row.finish α items)) := by
  induction steps with
  | nil => exact (tells_finish items).congr (fun _ => cut_nil.symm)
  | cons step more ih => exact (hrow step _ _ ih).congr (fun _ => cut_cons.symm)

end Row

end ImportPolicy.Glob
