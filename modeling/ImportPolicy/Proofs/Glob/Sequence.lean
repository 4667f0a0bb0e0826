import ImportPolicy.Proofs.Answer
import ImportPolicy.Proofs.Glob.BraceTree

/-!
# Reading sequences

The body of a sequence is two ends with two dots between them, and perhaps a
step behind two more. This module says what `sequence` makes of such a body:
the items of the sequence if there are not too many of them, and a failure if
there are (`Limited`). The numbers come from `progression`, which counts the
items first and multiplies; `between` picks them from all numbers on the way,
and the two agree because the multiples of the step up to a distance are as
many as the step goes into it.
-/

namespace ImportPolicy.Glob

/-- The wanted list if it is not too long, and otherwise some failure. -/
def Limited {α : Type} (answer : Except Failure (List α)) (want : List α) : Prop :=
  (want.length ≤ 1024 → answer = .ok want) ∧ (1024 < want.length → ∃ e, answer = .error e)

/-! ## Digits and letters -/

theorem digitValue?_eq_none {c : Char} (hlow : 58 ≤ c.toNat) (hhigh : c.toNat < 1632) :
    Text.digitValue? c = none := by
  unfold Text.digitValue?
  rw [Option.map_eq_none_iff, List.find?_eq_none]
  intro base hbase
  have hzeros : ∀ base ∈ Text.digitZeros, base + 10 ≤ 58 ∨ 1632 ≤ base := by decide
  rcases hzeros base hbase with h | h
  · simp; omega
  · simp; omega

theorem toNat_of_isLetter {c : Char} (h : isLetter c = true) : 65 ≤ c.toNat ∧ c.toNat ≤ 122 := by
  unfold isLetter at h
  simp only [Bool.or_eq_true, Bool.and_eq_true, decide_eq_true_eq] at h
  have hle : ∀ a b : Char, a ≤ b ↔ a.toNat ≤ b.toNat := fun a b => Iff.rfl
  rw [hle, hle, hle, hle] at h
  have hletters : 'a'.toNat = 97 ∧ 'z'.toNat = 122 ∧ 'A'.toNat = 65 ∧ 'Z'.toNat = 90 := by
    decide
  omega

theorem digitValue?_of_isLetter {c : Char} (h : isLetter c = true) :
    Text.digitValue? c = none := by
  have hrange := toNat_of_isLetter h
  exact digitValue?_eq_none (by omega) (by omega)

theorem ne_of_isDigit {c d : Char} (hc : Text.isDigit c = true)
    (hd : Text.digitValue? d = none) : c ≠ d := by
  rintro rfl
  rw [Text.isDigit, hd] at hc
  simp at hc

theorem digitValue?_of_isDigit {c : Char} (h : Text.isDigit c = true) :
    Text.digitValue? c = some (digitOf c) := by
  obtain ⟨value, hvalue⟩ := Option.isSome_iff_exists.mp h
  rw [digitOf, hvalue]
  rfl

/-! ## Numerals -/

/-- Nothing goes on with digits here. -/
def NoDigit (rest : List Char) : Prop := ∀ c ∈ rest.head?, Text.digitValue? c = none

theorem takeDigits_of_noDigit {rest : List Char} (h : NoDigit rest) :
    Numeral.takeDigits rest = ([], rest) := by
  cases rest with
  | nil => rfl
  | cons c more =>
    rw [Numeral.takeDigits, h c rfl]

theorem takeDigits_append {digits rest : List Char} (hdigits : ∀ c ∈ digits, Text.isDigit c = true)
    (hrest : NoDigit rest) :
    Numeral.takeDigits (digits ++ rest) = (digits.map digitOf, rest) := by
  induction digits with
  | nil => exact takeDigits_of_noDigit hrest
  | cons c more ih =>
    have hc := digitValue?_of_isDigit (hdigits c List.mem_cons_self)
    rw [List.cons_append, Numeral.takeDigits, hc,
      ih (fun d hd => hdigits d (List.mem_cons_of_mem _ hd))]
    rfl

/-- A numeral that does not start with a minus is its digits. -/
theorem read?_of_ne_minus {c : Char} (hminus : c ≠ '-') (more : List Char) :
    Numeral.read? (c :: more) = match Numeral.takeDigits (c :: more) with
      | ([], _) => none
      | (digits, behind) => some (⟨false, digits⟩, behind) := by
  unfold Numeral.read?
  split
  rename_i negative text heq
  split at heq
  · rename_i hcons
    exact absurd (List.cons.inj hcons).1 hminus
  · obtain ⟨rfl, rfl⟩ := Prod.mk.inj heq
    rfl

/-- Digits behind a minus or none are read as a numeral, however many there
are. -/
theorem read?_digits (negative : Bool) {digits rest : List Char} (hne : digits ≠ [])
    (hdigits : ∀ c ∈ digits, Text.isDigit c = true) (hrest : NoDigit rest) :
    Numeral.read? ((if negative then '-' :: digits else digits) ++ rest)
      = some (⟨negative, digits.map digitOf⟩, rest) := by
  obtain ⟨c, more, rfl⟩ := List.exists_cons_of_ne_nil hne
  have htake := takeDigits_append hdigits hrest
  cases negative with
  | true =>
    show (match Numeral.takeDigits (c :: more ++ rest) with
      | ([], _) => none
      | (digits, behind) => some (Numeral.mk true digits, behind)) = _
    rw [htake]
    rfl
  | false =>
    have hminus : c ≠ '-' := ne_of_isDigit (hdigits c List.mem_cons_self) (by decide)
    show Numeral.read? (c :: (more ++ rest)) = _
    rw [read?_of_ne_minus hminus, ← List.cons_append, htake]
    rfl

/-- Digits are read from the left; the number is that of the digits in
reverse, the unit first. -/
theorem natOf_eq_ofDigits (digits : List Nat) :
    Numeral.natOf digits = Nat.ofDigits 10 digits.reverse := by
  unfold Numeral.natOf
  rw [Nat.ofDigits_eq_foldr, List.foldr_reverse]
  exact congrArg (fun f => List.foldl f 0 _) (funext fun n => funext fun d => Nat.add_comm _ _)

namespace Written

/-- A written number as the reader keeps it. -/
def numeral (w : Written) : Numeral := ⟨w.negative, w.digits.map digitOf⟩

theorem read?_text (w : Written) {rest : List Char} (hrest : NoDigit rest) :
    Numeral.read? (w.text ++ rest) = some (w.numeral, rest) :=
  read?_digits w.negative w.digits_ne_nil w.isDigit_of_mem hrest

theorem value_numeral (w : Written) : w.numeral.value = .ok w.value := by
  have hnat : Numeral.natOf w.numeral.digits
      = Nat.ofDigits 10 (w.digits.map digitOf).reverse := natOf_eq_ofDigits _
  have hlength : ¬ w.numeral.digits.length > mostDigits := by
    rw [show w.numeral.digits.length = w.digits.length from List.length_map _]
    exact Nat.not_lt.mpr w.length_le
  unfold Numeral.value value
  rw [if_neg hlength, hnat]
  cases hw : w.negative with
  | true => simp [numeral, hw]
  | false => simp [numeral, hw]

end Written

/-! ## Bodies of sequences -/

theorem noDigit_nil : NoDigit [] := by
  intro c hc
  simp at hc

theorem noDigit_dots (rest : List Char) : NoDigit ('.' :: rest) := by
  intro c hc
  obtain rfl := Option.some.inj hc
  decide

theorem noDigit_stepText (step : Option Written) : NoDigit (stepText step) := by
  cases step with
  | none => exact noDigit_nil
  | some step => exact noDigit_dots _

/-- A step is read behind two dots at the end of a body. -/
theorem readStep?_digits (negative : Bool) {digits : List Char} (hne : digits ≠ [])
    (hdigits : ∀ c ∈ digits, Text.isDigit c = true) :
    readStep? ('.' :: '.' :: if negative then '-' :: digits else digits)
      = some (some ⟨negative, digits.map digitOf⟩) := by
  have hread := read?_digits negative hne hdigits noDigit_nil
  rw [List.append_nil] at hread
  unfold readStep?
  rw [if_neg (by simp [atEnd])]
  show (Numeral.read? (if negative then '-' :: digits else digits) >>= fun read =>
    if atEnd read.2 then some (some read.1) else none) = _
  rw [hread]
  rfl

theorem readStep?_stepText (step : Option Written) :
    readStep? (stepText step) = some (step.map Written.numeral) := by
  cases step with
  | none => rfl
  | some step => exact readStep?_digits step.negative step.digits_ne_nil step.isDigit_of_mem

/-- The body of a sequence of numbers. -/
def numbersBody (first last : Written) (step : Option Written) : List Char :=
  first.text ++ '.' :: '.' :: (last.text ++ stepText step)

/-- The body of a sequence of letters. -/
def lettersBody (first last : Char) (step : Option Written) : List Char :=
  first :: '.' :: '.' :: last :: stepText step

theorem readNumbers?_numbersBody (first last : Written) (step : Option Written) :
    readNumbers? (numbersBody first last step)
      = some (first.numeral, last.numeral, step.map Written.numeral) := by
  unfold readNumbers? numbersBody
  rw [first.read?_text (noDigit_dots _)]
  show (Numeral.read? (last.text ++ stepText step) >>= fun read =>
    readStep? read.2 >>= fun step => some (first.numeral, read.1, step)) = _
  rw [last.read?_text (noDigit_stepText step)]
  show (readStep? (stepText step) >>= fun step =>
    some (first.numeral, last.numeral, step)) = _
  rw [readStep?_stepText]
  rfl

/-- What starts with a letter is no sequence of numbers. -/
theorem readNumbers?_of_isLetter {first : Char} (hfirst : isLetter first = true)
    (rest : List Char) : readNumbers? (first :: rest) = none := by
  have hminus : first ≠ '-' := by
    rintro rfl
    exact absurd hfirst (by decide)
  have htake : Numeral.takeDigits (first :: rest) = ([], first :: rest) := by
    refine takeDigits_of_noDigit (fun c hc => ?_)
    obtain rfl := Option.some.inj hc
    exact digitValue?_of_isLetter hfirst
  have hread : Numeral.read? (first :: rest) = none := by
    rw [read?_of_ne_minus hminus, htake]
  unfold readNumbers?
  rw [hread]
  rfl

/-- Two letters with dots between them are the ends of a sequence if a step or
nothing is behind them. -/
theorem readLetters?_of_isLetter {first last : Char} (hfirst : isLetter first = true)
    (hlast : isLetter last = true) (rest : List Char) :
    readLetters? (first :: '.' :: '.' :: last :: rest)
      = (readStep? rest).map fun step => (first, last, step) := by
  show (if isLetter first && isLetter last then do
      let step ← readStep? rest
      some (first, last, step)
    else none) = _
  rw [hfirst, hlast]
  cases readStep? rest with
  | none => rfl
  | some step => rfl

theorem stride_numeral (step : Option Written) :
    stride (step.map Written.numeral) = .ok (stepSize step) := by
  cases step with
  | none => rfl
  | some step =>
    show (step.numeral.value >>= fun value => Except.ok (max 1 value.natAbs)) = _
    rw [step.value_numeral]
    rfl

/-! ## The items -/

/-- The multiples of a step up to a distance, counted and picked out. -/
theorem filter_dvd_range (step distance : Nat) :
    (List.range (distance + 1)).filter (step ∣ ·)
      = (List.range (distance / step + 1)).map (· * step) := by
  induction distance with
  | zero => simp
  | succ distance ih =>
    rw [List.range_succ, List.filter_append, ih, Nat.succ_div]
    by_cases h : step ∣ distance + 1
    · have hmul : (distance / step + 1) * step = distance + 1 := by
        rw [← Nat.succ_div_of_dvd h, Nat.div_mul_cancel h]
      rw [if_pos h, show List.range (distance / step + 1 + 1) = _ from List.range_succ,
        List.map_append]
      simp [h, hmul]
    · rw [if_neg h]
      simp [h]

theorem between_eq_map_range (first last : Int) (step : Nat) :
    between first last step = (List.range (itemCount first last step)).map fun k =>
      if first ≤ last then first + (k * step : Nat) else first - (k * step : Nat) := by
  unfold between itemCount
  rw [filter_dvd_range, List.map_map]
  rfl

theorem length_between (first last : Int) (step : Nat) :
    (between first last step).length = itemCount first last step := by
  rw [between_eq_map_range, List.length_map, List.length_range]

/-- The first item is the first end. -/
theorem mem_between_first (first last : Int) (step : Nat) : first ∈ between first last step := by
  refine List.mem_map.mpr ⟨0, List.mem_filter.mpr ⟨by simp, by simp⟩, ?_⟩
  simp

theorem between_ne_nil (first last : Int) (step : Nat) : between first last step ≠ [] :=
  List.ne_nil_of_mem (mem_between_first first last step)

/-- Every item lies between the ends. -/
theorem mem_between {first last n : Int} {step : Nat} (h : n ∈ between first last step) :
    min first last ≤ n ∧ n ≤ max first last := by
  obtain ⟨distance, hdistance, rfl⟩ := List.mem_map.mp h
  have hle := List.mem_range.mp (List.mem_filter.mp hdistance).1
  split
  · omega
  · omega

/-- Only the number of its items decides what becomes of a progression. -/
theorem progression_cases (first last : Int) (step : Nat) :
    (itemCount first last step ≤ 1024 →
      progression first last step = .ok (between first last step))
    ∧ (1024 < itemCount first last step → itemCount first last step < 2 ^ 63 →
      progression first last step = .error .items)
    ∧ (2 ^ 63 ≤ itemCount first last step → progression first last step = .error .overflow) := by
  have hlimit : countLimit = 2 ^ 63 := rfl
  have hmost : mostPatterns = 1024 := rfl
  unfold progression
  simp only [hlimit, hmost]
  refine ⟨fun hcount => ?_, fun hitems hcount => ?_, fun hcount => if_pos hcount⟩
  · rw [if_neg (by omega), if_neg (Nat.not_lt.mpr hcount), between_eq_map_range]
  · rw [if_neg (Nat.not_le.mpr hcount), if_pos hitems]

/-- A progression is the list of its numbers, unless it is too long. -/
theorem limited_progression (first last : Int) (step : Nat) :
    Limited (progression first last step) (between first last step) := by
  obtain ⟨hlisted, hitems, hoverflow⟩ := progression_cases first last step
  unfold Limited
  rw [length_between first last step]
  refine ⟨hlisted, fun hcount => ?_⟩
  by_cases hlimit : itemCount first last step < 2 ^ 63
  · exact ⟨_, hitems hcount hlimit⟩
  · exact ⟨_, hoverflow (Nat.not_lt.mp hlimit)⟩

theorem Limited.map {α β : Type} {answer : Except Failure (List α)} {want : List α}
    (h : Limited answer want) (f : α → β) : Limited (List.map f <$> answer) (want.map f) := by
  unfold Limited
  rw [List.length_map]
  constructor
  · intro hlength
    rw [h.1 hlength]
    rfl
  · intro hlength
    obtain ⟨e, he⟩ := h.2 hlength
    exact ⟨e, by rw [he]; rfl⟩

theorem sequence_eq_progression (first last : Written) (step : Option Written) :
    sequence (numbersBody first last step)
      = some <$> List.map decimal <$> progression first.value last.value (stepSize step) := by
  unfold sequence
  rw [readNumbers?_numbersBody]
  simp only [Written.value_numeral, stride_numeral, ok_bind]
  cases progression first.value last.value (stepSize step) with
  | ok items => rfl
  | error e => rfl

theorem sequence_numbersBody (first last : Written) (step : Option Written) :
    ∃ answer, sequence (numbersBody first last step) = some <$> answer
      ∧ Limited answer ((between first.value last.value (stepSize step)).map decimal) :=
  ⟨_, sequence_eq_progression first last step,
    (limited_progression first.value last.value (stepSize step)).map decimal⟩

theorem sequence_lettersBody {first last : Char} (hfirst : isLetter first = true)
    (hlast : isLetter last = true) (step : Option Written) :
    ∃ answer, sequence (lettersBody first last step) = some <$> answer
      ∧ Limited answer ((between first.toNat last.toNat (stepSize step)).map
          fun n => [Char.ofNat n.toNat]) := by
  refine ⟨_, ?_, (limited_progression first.toNat last.toNat (stepSize step)).map _⟩
  unfold sequence lettersBody
  rw [readNumbers?_of_isLetter hfirst, readLetters?_of_isLetter hfirst hlast,
    readStep?_stepText, Option.map_some]
  simp only [stride_numeral, ok_bind]
  cases progression first.toNat last.toNat (stepSize step) with
  | ok items => rfl
  | error e => rfl

end ImportPolicy.Glob
