import ImportPolicy.Proofs.Glob.Shrinking

/-!
# The arithmetic of number sequences

A sequence of numbers goes from its first end towards its last one, in steps
of one size, as long as it does not pass the last end. How many items that
makes is a division with one added, and only the number of items decides
whether there is an answer: up to 1024 of them are listed, more are refused,
and so many that a machine word cannot count them end in another failure
(`sequence_numbers`).

The items are written anew, in the ten common digits and without leading
zeros, whatever the digits of the ends were. No item is further from zero
than one of the ends, so none of them has more digits than the ends may have
(`exists_written`).
-/

namespace ImportPolicy.Glob

/-! ## The common digits -/

theorem digitValue?_of_common {c : Char} (h : c.isDigit = true) :
    Text.digitValue? c = some (c.toNat - '0'.toNat) := by
  have hrange : '0' ≤ c ∧ c ≤ '9' := by simpa [Char.isDigit, Char.le_def] using h
  have hlow : 48 ≤ c.toNat := hrange.1
  have hhigh : c.toNat < 58 := Nat.lt_succ_of_le hrange.2
  have hzeros : Text.digitZeros = 48 :: Text.digitZeros.tail := rfl
  rw [Text.digitValue?, hzeros, List.find?_cons_of_pos (by simp [hlow, hhigh])]
  rfl

/-- The digits of a number stand for that number. -/
theorem natOf_toDigits (n : Nat) : Numeral.natOf ((Nat.toDigits 10 n).map digitOf) = n := by
  have hdigit : ∀ c ∈ Nat.toDigits 10 n, digitOf c = c.toNat - '0'.toNat := by
    intro c hc
    rw [digitOf, digitValue?_of_common (Nat.isDigit_of_mem_toDigits (by decide) (by decide) hc)]
    rfl
  rw [List.map_congr_left hdigit, Numeral.natOf, List.foldl_map]
  exact Nat.ofDigitChars_ten_toDigits

namespace Written

theorem natAbs_value_lt (w : Written) : w.value.natAbs < 10 ^ mostDigits := by
  have hread : w.numeral.IsRead := by
    refine ⟨by simpa [numeral] using w.digits_ne_nil, fun d hd => ?_⟩
    obtain ⟨c, hc, rfl⟩ := List.mem_map.mp hd
    exact digitValue?_lt (digitValue?_of_isDigit (w.isDigit_of_mem c hc))
  have hlength : w.numeral.digits.length ≤ mostDigits := by
    rw [show w.numeral.digits.length = w.digits.length from List.length_map _]
    exact w.length_le
  have hnat : w.value.natAbs = Numeral.natOf w.numeral.digits := by
    rw [value_eq_ok w.value_numeral]
    split
    · rw [Int.natAbs_neg, Int.natAbs_natCast]
    · rw [Int.natAbs_natCast]
  calc w.value.natAbs = Numeral.natOf w.numeral.digits := hnat
    _ < 10 ^ w.numeral.digits.length := hread.natOf_lt
    _ ≤ 10 ^ mostDigits := Nat.pow_le_pow_right (by decide) hlength

end Written

/-- What is written in decimal is read back as the same number, if it has no
more digits than can be read. -/
theorem exists_written {n : Int} (h : n.natAbs < 10 ^ mostDigits) :
    ∃ w : Written, w.text = decimal n ∧ w.value = n := by
  have hdigit : ∀ c ∈ Nat.toDigits 10 n.natAbs, Text.isDigit c = true := by
    intro c hc
    rw [Text.isDigit,
      digitValue?_of_common (Nat.isDigit_of_mem_toDigits (by decide) (by decide) hc)]
    rfl
  have hlength : (Nat.toDigits 10 n.natAbs).length ≤ mostDigits :=
    (Nat.length_toDigits_le_iff (by decide) (by decide)).mpr h
  let w : Written := ⟨n < 0, Nat.toDigits 10 n.natAbs, Nat.toDigits_ne_nil, hdigit, hlength⟩
  have hvalue : w.value = if w.negative then -(n.natAbs : Int) else n.natAbs := by
    rw [value_eq_ok w.value_numeral]
    show (if w.negative then -(Numeral.natOf ((Nat.toDigits 10 n.natAbs).map digitOf) : Int)
      else Numeral.natOf ((Nat.toDigits 10 n.natAbs).map digitOf)) = _
    rw [natOf_toDigits]
  refine ⟨w, ?_, ?_⟩
  · simp [w, Written.text, decimal]
  · rw [hvalue]
    by_cases hn : n < 0
    · rw [if_pos (decide_eq_true hn)]
      omega
    · rw [if_neg (by simpa [w] using hn)]
      omega

/-! ## The items -/

theorem items_eq {first last : Written} {step : Option Written} {items : List (List Char)}
    (h : sequence (numbersBody first last step) = .ok (some items)) :
    items = (between first.value last.value (stepSize step)).map decimal := by
  rw [sequence_eq_progression] at h
  cases hnumbers : progression first.value last.value (stepSize step) with
  | error e =>
    rw [hnumbers] at h
    cases h
  | ok numbers =>
    rw [hnumbers] at h
    cases h
    rw [progression_eq_ok hnumbers]

theorem between_eq_cons (first last : Int) (step : Nat) :
    ∃ more, between first last step = first :: more := by
  rw [between_eq_map_range, itemCount, List.range_succ_eq_map, List.map_cons]
  exact ⟨_, congrArg (· :: _) (by simp)⟩

/-- A number between two that can be written can be written as well. -/
theorem exists_written_between {first last : Written} {n : Int}
    (h : min first.value last.value ≤ n ∧ n ≤ max first.value last.value) :
    ∃ w : Written, w.text = decimal n ∧ w.value = n := by
  have hfirst := first.natAbs_value_lt
  have hlast := last.natAbs_value_lt
  exact exists_written (by omega)

/-- **The arithmetic of a number sequence.** With `size` the size of the step
and `count` the number of steps that go into the distance of the ends, and one
more, the items are `count` numbers from the first end on, each `size` further
towards the last end. They are listed if there are at most 1024 of them; up to
what a machine word counts the sequence is refused as too long, and beyond that
it cannot be counted. So the list is never empty, the first item is the first
end, and each item is a number between the ends, written with no more digits
than are read. -/
theorem sequence_numbers (first last : Written) (step : Option Written) :
    let size := stepSize step
    let count := (last.value - first.value).natAbs / size + 1
    let item (k : Nat) : Int :=
      if first.value ≤ last.value then first.value + k * size else first.value - k * size
    (count ≤ 1024 → sequence (numbersBody first last step)
      = .ok (some ((List.range count).map fun k => decimal (item k))))
    ∧ (1024 < count → count < 2 ^ 63 → sequence (numbersBody first last step) = .error .items)
    ∧ (2 ^ 63 ≤ count → sequence (numbersBody first last step) = .error .overflow)
    ∧ ∀ items, sequence (numbersBody first last step) = .ok (some items) →
      (∃ more, items = decimal first.value :: more)
      ∧ ∀ text ∈ items, ∃ w : Written, w.text = text ∧ decimal w.value = text
        ∧ min first.value last.value ≤ w.value ∧ w.value ≤ max first.value last.value := by
  intro size count item
  obtain ⟨hlisted, hitems, hoverflow⟩ := progression_cases first.value last.value size
  rw [sequence_eq_progression]
  refine ⟨fun hcount => ?_, fun hlow hhigh => ?_, fun hcount => ?_, fun items h => ?_⟩
  · -- the distances are multiplied as natural numbers in the row of items
    have hitem : (fun k : Nat => if first.value ≤ last.value then first.value + (k * size : Nat)
        else first.value - (k * size : Nat)) = item := by
      funext k
      simp only [item, Nat.cast_mul]
    rw [hlisted hcount, between_eq_map_range, hitem]
    show Except.ok (some (((List.range count).map item).map decimal)) = _
    rw [List.map_map]
    rfl
  · rw [hitems hlow hhigh]
    rfl
  · rw [hoverflow hcount]
    rfl
  · rw [← sequence_eq_progression] at h
    rw [items_eq h]
    constructor
    · obtain ⟨more, hmore⟩ := between_eq_cons first.value last.value size
      exact ⟨more.map decimal, by rw [hmore, List.map_cons]⟩
    · intro text htext
      obtain ⟨n, hn, rfl⟩ := List.mem_map.mp htext
      obtain ⟨w, hw, rfl⟩ := exists_written_between (mem_between hn)
      exact ⟨w, hw, rfl, mem_between hn⟩

/-- A few digits as a written number. -/
def Written.ofDigits (negative : Bool) (digits : List Char)
    (h : (digits ≠ [] ∧ digits.all Text.isDigit = true) ∧ digits.length ≤ 4300) : Written :=
  ⟨negative, digits, h.1.1, List.all_eq_true.mp h.1.2, h.2⟩

/-- From `007` down to `-1` by `-3`, from `0` to `1024`, and from `0` on for
more items than can be counted. -/
theorem sequence_numbers_down :
    ∃ seven low three zero most huge : Written,
      (seven.text = "007".toList ∧ low.text = "-1".toList ∧ three.text = "-3".toList
        ∧ zero.text = "0".toList ∧ most.text = "1024".toList
        ∧ huge.text = "9223372036854775807".toList)
      ∧ sequence (numbersBody seven low (some three))
        = .ok (some ["7".toList, "4".toList, "1".toList])
      ∧ (∃ w : Written, w.text = "4".toList ∧ -1 ≤ w.value ∧ w.value ≤ 7)
      ∧ sequence (numbersBody zero most none) = .error .items
      ∧ sequence (numbersBody zero huge none) = .error .overflow := by
  let seven := Written.ofDigits false "007".toList (by decide)
  let low := Written.ofDigits true "1".toList (by decide)
  let three := Written.ofDigits true "3".toList (by decide)
  let zero := Written.ofDigits false "0".toList (by decide)
  let most := Written.ofDigits false "1024".toList (by decide)
  let huge := Written.ofDigits false "9223372036854775807".toList (by decide)
  have hdown := sequence_numbers seven low (some three)
  have hlisted : sequence (numbersBody seven low (some three))
      = .ok (some ["7".toList, "4".toList, "1".toList]) :=
    (hdown.1 (by decide +kernel)).trans (by decide +kernel)
  obtain ⟨w, hw, -, hlow, hhigh⟩ := (hdown.2.2.2 _ hlisted).2 "4".toList (by decide)
  refine ⟨seven, low, three, zero, most, huge, by decide, hlisted, ⟨w, hw, hlow, hhigh⟩, ?_, ?_⟩
  · exact (sequence_numbers zero most none).2.1 (by decide +kernel) (by decide +kernel)
  · exact (sequence_numbers zero huge none).2.2.1 (by decide +kernel)

end ImportPolicy.Glob
