import ImportPolicy.Policy.Evaluate
import ImportPolicy.Proofs.Answer

/-!
# What an evaluation finds

`Policy.evaluate` walks over the imports of a file and asks of each whether
one of the allowed patterns matches it. Here the walk is replaced by a closed
form: the violations are the image of the *unpermitted* imports – those of
known place that no allowed pattern matches – in their order, and every one
of them is the violation `violationAt` of its import.

The closed form holds for every evaluation that has an answer. It does not
say that no pattern is without one: a pattern behind the first one that
matches is never asked.
-/

namespace ImportPolicy

open Glob (Overflow isMatch)

variable {policy : Policy} {file : String} {allowed : List String}

/-! ## Patterns that match -/

/-- Whether a candidate is known to match a pattern. -/
def Glob.matched (candidate pattern : String) : Bool :=
  match isMatch candidate pattern with
  | .ok answer => answer
  | .error _ => false

theorem Glob.matched_iff {candidate pattern : String} :
    Glob.matched candidate pattern = true ↔ isMatch candidate pattern = .ok true := by
  unfold Glob.matched
  cases isMatch candidate pattern with
  | ok answer => simp
  | error e => simp

theorem Glob.matched_of_ok {candidate pattern : String} {answer : Bool}
    (h : isMatch candidate pattern = .ok answer) :
    Glob.matched candidate pattern = answer := by
  unfold Glob.matched
  rw [h]

/-- Whether an import has to be reported: its place is known, and it matches
none of the allowed patterns. -/
def unpermitted (allowed : List String) (o : Occurrence) : Bool :=
  o.isKnown && !allowed.any (Glob.matched o.specifier)

theorem unpermitted_iff {o : Occurrence} :
    unpermitted allowed o = true
      ↔ 0 ≤ o.start ∧ ∀ pattern ∈ allowed, isMatch o.specifier pattern ≠ .ok true := by
  unfold unpermitted Occurrence.isKnown
  simp [← Glob.matched_iff]

/-- Where the search for a matching pattern has an answer, it says whether
there is one. -/
theorem isAllowed_eq_ok {specifier : String} {answer : Bool}
    (h : isAllowed specifier allowed = .ok answer) :
    answer = allowed.any (Glob.matched specifier) := by
  induction allowed with
  | nil => simpa [isAllowed] using h.symm
  | cons pattern more ih =>
    rw [isAllowed, bind_eq_ok] at h
    obtain ⟨hit, hhit, h⟩ := h
    rw [List.any_cons, Glob.matched_of_ok hhit]
    cases hit with
    | true => simpa using h.symm
    | false => simpa using ih h

/-! ## The closed form -/

/-- The violation that an unpermitted import is. -/
def violationAt (policy : Policy) (file : String) (allowed : List String) (o : Occurrence) :
    Violation where
  file := file
  start := o.start
  stop := max o.start o.stop
  message := (verdict allowed).2
  code := (verdict allowed).1
  source := policy.name

theorem violation?_eq_ok {o : Occurrence} {found : Option Violation}
    (h : violation? policy file allowed o = .ok found) :
    found = if unpermitted allowed o then some (violationAt policy file allowed o) else none := by
  unfold violation? at h
  by_cases hknown : o.isKnown = true
  · simp only [hknown, Bool.not_true, Bool.false_eq_true, if_false] at h
    rw [bind_eq_ok] at h
    obtain ⟨answer, hanswer, h⟩ := h
    have ha := isAllowed_eq_ok hanswer
    cases answer with
    | true => simpa [unpermitted, hknown, ← ha] using h.symm
    | false => simpa [unpermitted, hknown, ← ha, violationAt] using h.symm
  · simp only [Bool.not_eq_true] at hknown
    simpa [unpermitted, hknown] using h.symm

/-- The violations among some imports are those of the unpermitted ones. -/
theorem violations_eq_ok {imports : List Occurrence} {found : List Violation}
    (h : violations policy file allowed imports = .ok found) :
    found = (imports.filter (unpermitted allowed)).map (violationAt policy file allowed) := by
  induction imports generalizing found with
  | nil => simpa [violations] using h.symm
  | cons o more ih =>
    rw [violations, bind_eq_ok] at h
    obtain ⟨first, hfirst, h⟩ := h
    rw [bind_eq_ok] at h
    obtain ⟨later, hlater, h⟩ := h
    rw [pure_eq_ok, Except.ok.injEq, violation?_eq_ok hfirst, ih hlater] at h
    rw [← h, List.filter_cons]
    by_cases ho : unpermitted allowed o = true
    · simp [ho]
    · simp [ho]

/-- **An evaluation reports exactly the unpermitted imports**, in their
order, once the patterns allowed for the file are known. -/
theorem Policy.evaluate_eq_ok {imports : List Occurrence} {found : List Violation}
    (h : policy.evaluate file imports = .ok found) :
    ∃ allowed, policy.allowedFor file = .ok allowed
      ∧ found = (imports.filter (unpermitted allowed)).map (violationAt policy file allowed) := by
  rw [Policy.evaluate, bind_eq_ok] at h
  obtain ⟨allowed, hallowed, h⟩ := h
  exact ⟨allowed, hallowed, violations_eq_ok h⟩

/-- Every violation carries the name of the policy. -/
theorem Policy.source_of_mem_evaluate {imports : List Occurrence} {found : List Violation}
    (h : policy.evaluate file imports = .ok found) {v : Violation} (hv : v ∈ found) :
    v.source = policy.name := by
  obtain ⟨allowed, -, rfl⟩ := Policy.evaluate_eq_ok h
  obtain ⟨o, -, rfl⟩ := List.mem_map.mp hv
  rfl

end ImportPolicy
