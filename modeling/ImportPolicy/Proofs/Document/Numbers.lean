import Mathlib.Algebra.Group.Nat.Defs
import Mathlib.Data.List.Infix
import Mathlib.Data.List.TakeWhile
import ImportPolicy.Document.Toml
import ImportPolicy.Proofs.Answer

/-!
# Numbers in a document

A whole number of more than 4300 decimal digits can be neither read nor
written, and this is the one thing in a document that ends a run. Such a
number takes many characters to write, in any base: sixteen is the largest,
and 3571 of its digits are still fewer than 4300 decimal ones. So a document
without a longer row of digits (`Short`) has no such number in it, whatever
else it holds. That this carries over to what is read from the document
follows from two facts on every reader: what it leaves is an end of what it
was given, in any document, and what it gives holds no number that it did not
read.
-/

namespace ImportPolicy.Document

variable {ε α : Type} {fine : ε → Prop} {document text rest run : List Char}

/-! ## Rows of digits -/

/-- Whether a character can stand in a whole number: a digit in some base, or
an underscore between digits. -/
def isNumeral (c : Char) : Bool := (Toml.hexValue? c).isSome || c = '_'

/-- The most hexadecimal digits of a number that surely can be shown. -/
def mostNumerals : Nat := 3571

/-- There is no row of digits in a text that is too long. -/
def Short (text : List Char) : Prop :=
  ∀ run, run <:+: text → (∀ c ∈ run, isNumeral c = true) → run.length ≤ mostNumerals

theorem Short.suffix (h : Short text) (hrest : rest <:+ text) : Short rest :=
  fun run hrun => h run (hrun.trans hrest.isInfix)

theorem Short.prefix_length (h : Short text) (hrun : run <+: text)
    (hnumeral : ∀ c ∈ run, isNumeral c = true) : run.length ≤ mostNumerals :=
  h run hrun.isInfix hnumeral

/-- A text of few characters has no long row. -/
theorem short_of_length (h : text.length ≤ mostNumerals) : Short text :=
  fun _ hrun _ => hrun.length_le.trans h

theorem le_of_isDigit {c : Char} (h : c.isDigit = true) : '0' ≤ c ∧ c ≤ '9' := by
  simpa [Char.isDigit, Char.le_def] using h

theorem isNumeral_of_isDigit {c : Char} (h : c.isDigit = true) : isNumeral c = true := by
  simp [isNumeral, Toml.hexValue?, le_of_isDigit h]

theorem digit_lt_ten {c : Char} (h : c.isDigit = true) : c.toNat - '0'.toNat < 10 := by
  have hle : c.toNat ≤ '9'.toNat := (le_of_isDigit h).2
  have hnine : '9'.toNat = '0'.toNat + 9 := rfl
  omega

/-- Digits stand for a number below the power of their base. -/
theorem foldl_lt_pow {base : Nat} {digit : Char → Nat} {digits : List Char}
    (h : ∀ c ∈ digits, digit c < base) (start : Nat) :
    digits.foldl (fun n c => base * n + digit c) start < (start + 1) * base ^ digits.length := by
  induction digits generalizing start with
  | nil => simp
  | cons c more ih =>
    have hc := h c List.mem_cons_self
    calc more.foldl (fun n c => base * n + digit c) (base * start + digit c)
      _ < (base * start + digit c + 1) * base ^ more.length :=
        ih (fun d hd => h d (List.mem_cons_of_mem _ hd)) _
      _ ≤ (base * (start + 1)) * base ^ more.length := by
        refine Nat.mul_le_mul_right _ ?_
        rw [Nat.mul_add]
        omega
      _ = (start + 1) * base ^ (c :: more).length := by
        rw [List.length_cons, Nat.pow_succ, Nat.mul_comm base, Nat.mul_assoc, Nat.mul_comm base]

theorem decimal_lt {digits : List Char} (h : ∀ c ∈ digits, c.isDigit = true) :
    digits.foldl (fun n c => 10 * n + (c.toNat - '0'.toNat)) 0 < 10 ^ digits.length := by
  have hlt := foldl_lt_pow (fun c hc => digit_lt_ten (h c hc)) 0
  rwa [Nat.zero_add, Nat.one_mul] at hlt

theorem mostNumerals_le : mostNumerals ≤ Value.mostDigits := by decide

theorem pow_mostNumerals_le : 16 ^ mostNumerals ≤ Value.leastLong := by
  decide +kernel

/-- A number with few enough decimal digits can be written. -/
theorem decimal_lt_leastLong {digits : List Char} (h : ∀ c ∈ digits, c.isDigit = true)
    (hlength : digits.length ≤ Value.mostDigits) :
    digits.foldl (fun n c => 10 * n + (c.toNat - '0'.toNat)) 0 < Value.leastLong := by
  have hpow : ∀ {m}, digits.length ≤ m → 10 ^ digits.length ≤ Nat.pow 10 m :=
    Nat.pow_le_pow_right (by decide)
  unfold Value.leastLong
  exact (decimal_lt h).trans_le (hpow hlength)

/-- A part that need not be there leaves an end of the text in any case. -/
theorem getD_suffix {found : Option (α × List Char)}
    (h : ∀ a behind, found = some (a, behind) → behind <:+ rest) (a : α) :
    (found.getD (a, rest)).2 <:+ rest := by
  cases found with
  | none => exact List.suffix_refl rest
  | some pair => exact h pair.1 pair.2 rfl

/-! ## Values without long numbers -/

namespace Value

theorem hasLongNumber_int {n : Nat} (h : n < leastLong) (negative : Bool) :
    (int (if negative then -(n : Int) else n)).hasLongNumber = false := by
  have habs : (if negative then -(n : Int) else n).natAbs = n := by
    split
    · rw [Int.natAbs_neg, Int.natAbs_natCast]
    · rw [Int.natAbs_natCast]
  rw [hasLongNumber, habs]
  exact decide_eq_false (Nat.not_le_of_lt h)

theorem anyLongNumber_eq_false {items : List Value} :
    anyLongNumber items = false ↔ ∀ v ∈ items, v.hasLongNumber = false := by
  induction items with
  | nil => simp [anyLongNumber]
  | cons v more ih => simp [anyLongNumber, ih]

theorem hasLongNumber_array {items : List Value} :
    (array items).hasLongNumber = false ↔ ∀ v ∈ items, v.hasLongNumber = false :=
  anyLongNumber_eq_false

theorem entriesLongNumber_eq_false {entries : Entries} :
    entriesLongNumber entries = false ↔ ∀ e ∈ entries, e.2.hasLongNumber = false := by
  induction entries with
  | nil => simp [entriesLongNumber]
  | cons e more ih => simp [entriesLongNumber, ih]

end Value

namespace Entries

variable {entries : Entries} {key : String} {v : Value}

theorem hasLongNumber_get? (h : Value.entriesLongNumber entries = false)
    (hv : entries.get? key = some v) : v.hasLongNumber = false := by
  obtain ⟨front, back, hentries, -⟩ := List.lookup_eq_some_iff.mp hv
  exact Value.entriesLongNumber_eq_false.mp h (key, v) (by simp [hentries])

theorem entriesLongNumber_set (h : Value.entriesLongNumber entries = false)
    (hv : v.hasLongNumber = false) : Value.entriesLongNumber (entries.set key v) = false := by
  fun_induction set key v entries with
  | case1 => simp [Value.entriesLongNumber, hv]
  | case2 old more =>
    simp only [Value.entriesLongNumber, Bool.or_eq_false_iff] at h ⊢
    exact ⟨hv, h.2⟩
  | case3 k old more hne ih =>
    simp only [Value.entriesLongNumber, Bool.or_eq_false_iff] at h ⊢
    exact ⟨h.1, ih h.2⟩

end Entries

/-! ## Readers -/

/-- A reader leaves an end of the text. -/
abbrev Leaves (fine : ε → Prop) (text : List Char) (x : Except ε (α × List Char)) : Prop :=
  Ends fine (fun r => r.2 <:+ text) x

/-- A reader leaves an end of the text. In a document without long rows of
digits it also gives a value without long numbers, or ends in a fault that is
fine. -/
abbrev Gives (document : List Char) (fine : ε → Prop) (text : List Char)
    (x : Except ε (Value × List Char)) : Prop :=
  Ends (fun e => Short document → fine e)
    (fun r => (Short document → r.1.hasLongNumber = false) ∧ r.2 <:+ text) x

theorem Leaves.suffix {x : Except ε (α × List Char)} (h : Leaves fine rest x)
    (hrest : rest <:+ text) : Leaves fine text x :=
  h.mono fun _ hr => hr.trans hrest

theorem Gives.suffix {x : Except ε (Value × List Char)} (h : Gives document fine rest x)
    (hrest : rest <:+ text) : Gives document fine text x :=
  h.mono fun _ hr => ⟨hr.1, hr.2.trans hrest⟩

theorem Gives.of_short {x : Except ε (Value × List Char)} (h : Gives document fine text x)
    (hshort : Short document) :
    Ends fine (fun r => r.1.hasLongNumber = false ∧ r.2 <:+ text) x := by
  cases x with
  | ok r => exact ⟨h.1 hshort, h.2⟩
  | error e => exact h hshort

/-- What is read before a value has faults that are fine in any document. -/
theorem Gives.after {good : α → Prop} {x : Except ε α}
    {f : α → Except ε (Value × List Char)} (hx : Ends fine good x)
    (hf : ∀ a, good a → Gives document fine text (f a)) : Gives document fine text (x >>= f) := by
  cases x with
  | ok a => exact hf a hx
  | error e => exact fun _ => hx

end ImportPolicy.Document
