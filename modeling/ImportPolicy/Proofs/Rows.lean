import ImportPolicy.Proofs.Answer
import Mathlib.Data.List.Forall2

/-!
# Rows of steps

One step is taken for each item of a row, from left to right, and the first
fault ends the run. So there is an answer if each step has one, by itself
(`mapM_eq_ok`), and otherwise the fault is that of the first item whose step
has one (`mapM_eq_error`).
-/

namespace ImportPolicy

variable {ε α β : Type} {step : α → Except ε β} {row : List α} {answers : List β} {fault : ε}

/-- The first item of a row whose step fails, and how. -/
def FailsFirst (step : α → Except ε β) (row : List α) (i : Nat) (fault : ε) : Prop :=
  (∃ item, row[i]? = some item ∧ step item = .error fault)
    ∧ ∀ j < i, ∀ item, row[j]? = some item → ∃ answer, step item = .ok answer

theorem failsFirst_zero {item : α} {more : List α} :
    FailsFirst step (item :: more) 0 fault ↔ step item = .error fault := by
  constructor
  · rintro ⟨⟨other, hother, hstep⟩, -⟩
    obtain rfl : item = other := Option.some.inj hother
    exact hstep
  · intro hstep
    exact ⟨⟨item, rfl, hstep⟩, fun j hj => absurd hj (Nat.not_lt_zero j)⟩

theorem failsFirst_succ {item : α} {more : List α} {i : Nat} :
    FailsFirst step (item :: more) (i + 1) fault
      ↔ (∃ answer, step item = .ok answer) ∧ FailsFirst step more i fault := by
  constructor
  · rintro ⟨hfault, hbefore⟩
    exact ⟨hbefore 0 (Nat.succ_pos i) item rfl, hfault,
      fun j hj other hother => hbefore (j + 1) (Nat.succ_lt_succ hj) other hother⟩
  · rintro ⟨hanswer, hfault, hbefore⟩
    refine ⟨hfault, fun j hj other hother => ?_⟩
    cases j with
    | zero =>
      obtain rfl : item = other := Option.some.inj hother
      exact hanswer
    | succ j => exact hbefore j (Nat.lt_of_succ_lt_succ hj) other hother

/-- **A row has an answer if each of its steps has one.** -/
theorem mapM_eq_ok :
    row.mapM step = .ok answers ↔ List.Forall₂ (fun item answer => step item = .ok answer)
      row answers := by
  induction row generalizing answers with
  | nil =>
    rw [List.mapM_nil, pure_eq_ok, Except.ok.injEq, List.forall₂_nil_left_iff]
    exact eq_comm
  | cons item more ih =>
    rw [List.mapM_cons, List.forall₂_cons_left_iff, bind_eq_ok]
    constructor
    · rintro ⟨answer, hanswer, h⟩
      obtain ⟨later, hlater, h⟩ := bind_eq_ok.mp h
      cases h
      exact ⟨answer, later, hanswer, ih.mp hlater, rfl⟩
    · rintro ⟨answer, later, hanswer, hlater, rfl⟩
      exact ⟨answer, hanswer, bind_eq_ok.mpr ⟨later, ih.mpr hlater, rfl⟩⟩

/-- **The fault of a row is the first one.** -/
theorem mapM_eq_error : row.mapM step = .error fault ↔ ∃ i, FailsFirst step row i fault := by
  induction row with
  | nil =>
    refine iff_of_false (by simp) ?_
    rintro ⟨i, ⟨item, hitem, -⟩, -⟩
    cases hitem
  | cons item more ih =>
    rw [List.mapM_cons, bind_eq_error]
    constructor
    · rintro (hfault | ⟨answer, hanswer, h⟩)
      · exact ⟨0, failsFirst_zero.mpr hfault⟩
      · obtain hlater | ⟨later, -, h⟩ := bind_eq_error.mp h
        · obtain ⟨i, hi⟩ := ih.mp hlater
          exact ⟨i + 1, failsFirst_succ.mpr ⟨⟨answer, hanswer⟩, hi⟩⟩
        · cases h
    · rintro ⟨i, hi⟩
      cases i with
      | zero => exact .inl (failsFirst_zero.mp hi)
      | succ i =>
        obtain ⟨⟨answer, hanswer⟩, hi⟩ := failsFirst_succ.mp hi
        exact .inr ⟨answer, hanswer, bind_eq_error.mpr (.inl (ih.mpr ⟨i, hi⟩))⟩

theorem exists_mapM_eq_ok :
    (∃ answers, row.mapM step = .ok answers) ↔ ∀ item ∈ row, ∃ answer, step item = .ok answer := by
  simp only [mapM_eq_ok]
  induction row with
  | nil => exact iff_of_true ⟨[], .nil⟩ (List.forall_mem_nil _)
  | cons item more ih =>
    rw [List.forall_mem_cons, ← ih]
    constructor
    · rintro ⟨answers, _ | ⟨hanswer, hmore⟩⟩
      exact ⟨⟨_, hanswer⟩, _, hmore⟩
    · rintro ⟨⟨answer, hanswer⟩, later, hmore⟩
      exact ⟨answer :: later, .cons hanswer hmore⟩

/-! ## Rows side by side -/

theorem forall₂_and_right {related : α → β → Prop} {good : β → Prop} :
    List.Forall₂ (fun item answer => related item answer ∧ good answer) row answers
      ↔ List.Forall₂ related row answers ∧ ∀ answer ∈ answers, good answer := by
  constructor
  · intro h
    induction h with
    | nil => exact ⟨.nil, List.forall_mem_nil _⟩
    | cons hfirst _ ih => exact ⟨.cons hfirst.1 ih.1, List.forall_mem_cons.mpr ⟨hfirst.2, ih.2⟩⟩
  · rintro ⟨h, hgood⟩
    induction h with
    | nil => exact .nil
    | cons hfirst _ ih =>
      rw [List.forall_mem_cons] at hgood
      exact .cons ⟨hfirst, hgood.1⟩ (ih hgood.2)

theorem forall₂_eq_map {source : β → α} :
    List.Forall₂ (fun item answer => item = source answer) row answers
      ↔ row = answers.map source := by
  rw [← List.forall₂_eq_eq_eq, List.forall₂_map_right_iff]

end ImportPolicy
