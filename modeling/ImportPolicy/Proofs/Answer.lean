/-!
# Answers that may be missing

Most functions of the library answer in `Except`: the value, or the reason
why there is none. What a run of steps answers is read off its steps by the
lemmas below, so that no later proof has to take a `do` block apart by hand.
-/

namespace ImportPolicy

variable {ε α β : Type}

/-- A run of two steps has an answer exactly when both have one. -/
theorem bind_eq_ok {x : Except ε α} {f : α → Except ε β} {b : β} :
    x >>= f = .ok b ↔ ∃ a, x = .ok a ∧ f a = .ok b := by
  constructor
  · intro h
    match x, h with
    | .ok a, h => exact ⟨a, rfl, h⟩
  · rintro ⟨a, rfl, h⟩
    exact h

/-- A run of two steps fails where its first step does, or where the second
one does behind it. -/
theorem bind_eq_error {x : Except ε α} {f : α → Except ε β} {e : ε} :
    x >>= f = .error e ↔ x = .error e ∨ ∃ a, x = .ok a ∧ f a = .error e := by
  cases x with
  | ok a =>
    show f a = .error e ↔ _
    simp
  | error other =>
    show Except.error other = .error e ↔ _
    simp

theorem toOption_eq_some {x : Except ε α} {a : α} : x.toOption = some a ↔ x = .ok a := by
  cases x with
  | ok b => simp [Except.toOption]
  | error e => simp [Except.toOption]

theorem isOk_iff {x : Except ε α} : x.isOk = true ↔ ∃ a, x = .ok a := by
  cases x with
  | ok a => simp [Except.isOk, Except.toBool]
  | error e => simp [Except.isOk, Except.toBool]

/-- The answer of a step is handed to the next one. -/
@[simp] theorem ok_bind (a : α) (f : α → Except ε β) : Except.ok a >>= f = f a := rfl

/-- A step without an answer ends the run. -/
@[simp] theorem error_bind (e : ε) (f : α → Except ε β) :
    (Except.error e : Except ε α) >>= f = .error e := rfl

/-- A value is its own answer. -/
@[simp] theorem pure_eq_ok (a : α) : (pure a : Except ε α) = .ok a := rfl

/-! ## What a step ends in -/

/-- A step ends in a fault that is fine, or in an answer that is good. -/
def Ends (fine : ε → Prop) (good : α → Prop) : Except ε α → Prop
  | .ok a => good a
  | .error e => fine e

variable {fine : ε → Prop} {good : α → Prop}

@[simp] theorem ends_ok {a : α} : Ends fine good (.ok a) ↔ good a := Iff.rfl

@[simp] theorem ends_error {e : ε} : Ends fine good (.error e : Except ε α) ↔ fine e := Iff.rfl

theorem Ends.bind {x : Except ε α} {f : α → Except ε β} {better : β → Prop}
    (hx : Ends fine good x) (hf : ∀ a, good a → Ends fine better (f a)) :
    Ends fine better (x >>= f) := by
  cases x with
  | ok a => exact hf a hx
  | error e => exact hx

/-- Two ways to go on from a step are the same if they are so from its good
answers. -/
theorem Ends.bind_congr {x : Except ε α} {f g : α → Except ε β} (hx : Ends fine good x)
    (h : ∀ a, good a → f a = g a) : (x >>= f) = (x >>= g) := by
  cases x with
  | ok a => exact h a hx
  | error e => rfl

theorem Ends.mono {x : Except ε α} {better : α → Prop} (hx : Ends fine good x)
    (h : ∀ a, good a → better a) : Ends fine better x := by
  cases x with
  | ok a => exact h a hx
  | error e => exact hx

end ImportPolicy
