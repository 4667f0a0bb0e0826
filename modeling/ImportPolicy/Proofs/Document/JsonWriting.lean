import Mathlib.Data.List.TakeWhile
import Mathlib.Tactic.IntervalCases
import ImportPolicy.Document.Json
import ImportPolicy.Proofs.Answer

/-!
# Reading back what was written as JSON

A written text comes back character by character: whatever form a character
takes in quotes, one step of the reader takes it off and gives the character
(`stringWithin_writeChar`). A written number comes back if it has no more
digits than the reader takes, and if it is not followed by something that
would make the number longer; behind a written value there is always a comma
or a line break (`Follows`).
-/

namespace ImportPolicy.Document.Json

variable {rest : List Char}

/-! ## Texts -/

theorem fourDigits?_hexDigits {n : Nat} (h : n < 0x20) (hrest : rest ≠ []) :
    fourDigits? (Text.hexDigits 4 n ++ rest) = some (n, rest) := by
  obtain ⟨e, more, rfl⟩ := List.exists_cons_of_ne_nil hrest
  interval_cases n <;> rfl

/-- A control character comes back from its code. -/
theorem codePoint_hexDigits {c : Char} (h : c.toNat < 0x20) (hrest : rest ≠ []) :
    codePoint (Text.hexDigits 4 c.toNat ++ rest) = .ok (c, rest) := by
  rw [codePoint, fourDigits?_hexDigits h hrest]
  dsimp only
  rw [if_neg (by omega), if_neg (by omega), Char.ofNat_toNat]

/-- **One step takes off one written character**, whatever its form. -/
theorem stringWithin_writeChar (begin n : Nat) (got : List Char) (c : Char) (hrest : rest ≠ []) :
    stringWithin begin (n + 1) got (writeChar c ++ rest)
      = stringWithin begin n (c :: got) rest := by
  unfold writeChar
  split
  · subst c; rfl
  rename_i hquote
  split
  · subst c; rfl
  rename_i hslash
  -- the other characters with a short form
  iterate 5
    split
    · subst c; rfl
  split
  · rename_i hcontrol
    show (codePoint (Text.hexDigits 4 c.toNat ++ rest) >>= _) = _
    rw [codePoint_hexDigits hcontrol hrest]
    rfl
  · rw [List.singleton_append, stringWithin.eq_def]
    dsimp only
    rw [if_neg hquote, if_neg (by omega), if_pos hslash]

/-- The reader takes one step for every written character, and a last one for
the closing quote. -/
theorem stringWithin_written (begin : Nat) {n : Nat} (got chars : List Char)
    (h : chars.length < n) :
    stringWithin begin n got (chars.flatMap writeChar ++ '"' :: rest)
      = .ok (got.reverse ++ chars, rest) := by
  induction chars generalizing n got with
  | nil =>
    obtain ⟨n, rfl⟩ := Nat.exists_eq_add_one_of_ne_zero (Nat.ne_of_gt h)
    simp [stringWithin]
  | cons c chars ih =>
    obtain ⟨n, rfl⟩ := Nat.exists_eq_add_one_of_ne_zero (Nat.ne_of_gt (Nat.zero_lt_of_lt h))
    rw [List.flatMap_cons, List.append_assoc, stringWithin_writeChar _ _ _ _ (by simp),
      ih _ (by simpa using h)]
    simp

theorem length_writeChar_pos (c : Char) : 0 < (writeChar c).length := by
  unfold writeChar
  repeat' split
  all_goals exact Nat.succ_pos _

theorem length_le_length_written (chars : List Char) :
    chars.length ≤ (chars.flatMap writeChar).length := by
  induction chars with
  | nil => simp
  | cons c chars ih =>
    have hc := length_writeChar_pos c
    rw [List.flatMap_cons, List.length_append, List.length_cons]
    omega

/-- **A written text is read back.** -/
theorem string_written (s : String) (rest : List Char) :
    string (s.toList.flatMap writeChar ++ '"' :: rest) = .ok (s, rest) := by
  have hlength := length_le_length_written s.toList
  rw [string, stringWithin_written _ _ _ (by rw [List.length_append]; omega), ok_bind]
  dsimp only
  rw [List.reverse_nil, List.nil_append, String.ofList_toList]

/-! ## Whole numbers -/

/-- What stands behind a written value: a comma or a line break. -/
def Follows (rest : List Char) : Prop := ∃ c more, rest = c :: more ∧ (c = ',' ∨ c = '\n')

theorem head_toDigits {n : Nat} (h : n ≠ 0) :
    ∃ d ds, Nat.toDigits 10 n = d :: ds ∧ d ≠ '0' := by
  induction n using Nat.strong_induction_on with
  | h n ih =>
    by_cases hsmall : n < 10
    · refine ⟨_, [], Nat.toDigits_of_lt_base hsmall, ?_⟩
      interval_cases n <;> first | exact absurd rfl h | decide
    · obtain ⟨d, ds, hds, hd⟩ := ih (n / 10) (by omega) (by omega)
      refine ⟨d, ds ++ [(n % 10).digitChar], ?_, hd⟩
      rw [Nat.toDigits_of_base_le (by decide) (by omega), hds]
      rfl

theorem isDigit_of_mem_toDigits {n : Nat} : ∀ c ∈ Nat.toDigits 10 n, c.isDigit = true :=
  fun _ => Nat.isDigit_of_mem_toDigits (by decide) (by decide)

theorem digits_append {ds : List Char} (h : ∀ c ∈ ds, c.isDigit = true) (hrest : Follows rest) :
    digits (ds ++ rest) = (ds, rest) := by
  obtain ⟨c, more, rfl, hc⟩ := hrest
  have hstop : ¬ c.isDigit = true := by
    obtain rfl | rfl := hc <;> decide
  rw [digits, List.takeWhile_append_of_pos h, List.dropWhile_append_of_pos h,
    List.takeWhile_cons_of_neg hstop, List.dropWhile_cons_of_neg hstop, List.append_nil]

theorem wholeDigits_written (n : Nat) (hrest : Follows rest) :
    wholeDigits (Nat.toDigits 10 n ++ rest) = some (Nat.toDigits 10 n, rest) := by
  by_cases hzero : n = 0
  · subst hzero
    rfl
  · obtain ⟨d, ds, hds, hd⟩ := head_toDigits hzero
    have hdigits := digits_append (isDigit_of_mem_toDigits (n := n)) hrest
    rw [hds] at hdigits ⊢
    rw [wholeDigits.eq_def]
    split
    · rename_i heq
      exact absurd (List.cons.inj heq).1 hd
    · rw [hdigits]

theorem fraction_of_follows (hrest : Follows rest) : fraction rest = none := by
  obtain ⟨c, more, rfl, rfl | rfl⟩ := hrest <;> rfl

theorem exponent_of_follows (hrest : Follows rest) : exponent rest = none := by
  obtain ⟨c, more, rfl, rfl | rfl⟩ := hrest <;> rfl

theorem natOf_toDigits (n : Nat) : natOf (Nat.toDigits 10 n) = n :=
  Nat.ofDigitChars_ten_toDigits

theorem length_toDigits_le {n : Nat} (h : n < Value.leastLong) :
    (Nat.toDigits 10 n).length ≤ Value.mostDigits := by
  have hlength : ∀ {m}, 0 < m → n < Nat.pow 10 m → (Nat.toDigits 10 n).length ≤ m :=
    fun hm => (Nat.length_toDigits_le_iff (by decide) hm).mpr
  unfold Value.leastLong at h
  exact hlength (by decide) h

/-- What the reader makes of the digits behind a sign. -/
theorem number_of_sign {text : List Char} {n : Nat} (negative : Bool)
    (hsign : (match text with
      | '-' :: rest => (true, rest)
      | other => (false, other)) = (negative, Nat.toDigits 10 n ++ rest))
    (h : n < Value.leastLong) (hrest : Follows rest) :
    number text = .ok (.int (if negative then -(n : Int) else n), rest) := by
  have hlength := Nat.not_lt_of_le (length_toDigits_le h)
  unfold number
  split
  rename_i hread
  obtain ⟨rfl, rfl⟩ := Prod.mk.inj (hread.symm.trans hsign)
  rw [wholeDigits_written n hrest]
  simp only [fraction_of_follows hrest, Option.getD_none, exponent_of_follows hrest,
    Option.isSome_none, Bool.or_self]
  rw [if_neg Bool.false_ne_true, if_neg hlength, natOf_toDigits]

/-- **A written number is read back** if it has no more digits than can be
read. -/
theorem number_written {i : Int} (h : i.natAbs < Value.leastLong) (hrest : Follows rest) :
    number ((toString i).toList ++ rest) = .ok (.int i, rest) := by
  rw [Int.toString_eq_repr, Int.repr_eq_if]
  by_cases hi : 0 ≤ i
  · have habs : i.toNat = i.natAbs := by omega
    have hcast : (i.natAbs : Int) = i := by omega
    rw [if_pos hi, habs, Nat.toList_repr, number_of_sign false ?_ h hrest]
    · rw [if_neg Bool.false_ne_true, hcast]
    · obtain ⟨d, ds, hds⟩ :=
        List.exists_cons_of_ne_nil (@Nat.toDigits_ne_nil i.natAbs 10)
      have hd : d ≠ '-' := by
        rintro rfl
        have hminus : '-' ∈ Nat.toDigits 10 i.natAbs := by
          rw [hds]
          exact List.mem_cons_self
        exact absurd (isDigit_of_mem_toDigits '-' hminus) (by decide)
      rw [hds]
      split
      · rename_i heq
        exact absurd (List.cons.inj heq).1 hd
      · rfl
  · have habs : (-i).toNat = i.natAbs := by omega
    have hcast : -(i.natAbs : Int) = i := by omega
    rw [if_neg hi, habs, String.toList_append, Nat.toList_repr,
      number_of_sign true rfl h hrest, if_pos rfl, hcast]

/-! ## Values -/

/-- A text is read back as a value, whatever follows it, by a reader that may
go at least as deep as `depth`. -/
structure ReadsBack (depth : Nat) (text : List Char) (v : Value) : Prop where
  /-- The text does not start with a blank. -/
  skip_eq : ∀ rest, skip (text ++ rest) = text ++ rest
  value_eq : ∀ n rest, Follows rest → value (n + depth) (text ++ rest) = .ok (v, rest)

theorem readsBack_text (s : String) : ReadsBack 1 (writeString s) (.text s) where
  skip_eq _ := rfl
  value_eq n rest _ := by
    have hread := string_written s rest
    rw [writeString, List.cons_append, List.cons_append, List.append_assoc, List.singleton_append,
      value, hread]
    rfl

theorem readsBack_null : ReadsBack 1 "null".toList .null where
  skip_eq _ := rfl
  value_eq _ _ _ := rfl

theorem ne_of_isDigit {c d : Char} (hd : d.isDigit = true) (hc : c.isDigit = false) : c ≠ d := by
  rintro rfl
  rw [hd] at hc
  cases hc

/-- A number starts with a digit, or with a digit behind a sign. -/
theorem toList_toString (i : Int) :
    ∃ d ds, d.isDigit = true
      ∧ ((toString i).toList = d :: ds ∨ (toString i).toList = '-' :: d :: ds) := by
  obtain ⟨d, ds, hds⟩ := List.exists_cons_of_ne_nil (@Nat.toDigits_ne_nil i.natAbs 10)
  refine ⟨d, ds, isDigit_of_mem_toDigits d (by rw [hds]; exact List.mem_cons_self), ?_⟩
  rw [Int.toString_eq_repr, Int.repr_eq_if]
  by_cases hi : 0 ≤ i
  · have habs : i.toNat = i.natAbs := by omega
    rw [if_pos hi, habs, Nat.toList_repr, hds]
    exact .inl rfl
  · have habs : (-i).toNat = i.natAbs := by omega
    rw [if_neg hi, habs, String.toList_append, Nat.toList_repr, hds]
    exact .inr rfl

theorem word?_of_digit {d : Char} (hd : d.isDigit = true) (more : List Char) :
    word? (d :: more) = none := by
  have hne {c : Char} (hc : c.isDigit = false) : c ≠ d := ne_of_isDigit hd hc
  simp [word?, hne (c := 'n') rfl, hne (c := 't') rfl, hne (c := 'f') rfl, hne (c := 'N') rfl,
    hne (c := 'I') rfl, hne (c := '-') rfl]

theorem word?_of_minus {d : Char} (hd : d.isDigit = true) (more : List Char) :
    word? ('-' :: d :: more) = none := by
  simp [word?, ne_of_isDigit (c := 'I') hd rfl]

theorem value_eq_number {c : Char} {more : List Char} (n : Nat)
    (hc : c ∉ ['"', '\x7b', '[']) (hword : word? (c :: more) = none) :
    value (n + 1) (c :: more) = number (c :: more) := by
  rw [value, hword]
  all_goals
    rintro rest heq
    exact hc (by simp [(List.cons.inj heq).1])

theorem skip_of_not_blank {c : Char} (h : c ∉ [' ', '\t', '\n', '\r']) (more : List Char) :
    skip (c :: more) = c :: more :=
  List.dropWhile_cons_of_neg (by simpa using h)

theorem not_mem_of_isDigit {d : Char} (hd : d.isDigit = true) {cs : List Char}
    (h : cs.any Char.isDigit = false) : d ∉ cs := by
  intro hmem
  rw [List.any_eq_true.mpr ⟨d, hmem, hd⟩] at h
  cases h

/-- **A written number is read back as a value.** -/
theorem readsBack_int {i : Int} (h : i.natAbs < Value.leastLong) :
    ReadsBack 1 (toString i).toList (.int i) where
  skip_eq rest := by
    obtain ⟨d, ds, hd, htext | htext⟩ := toList_toString i
    · rw [htext]
      exact skip_of_not_blank (not_mem_of_isDigit hd rfl) _
    · rw [htext]
      rfl
  value_eq n rest hrest := by
    rw [← number_written h hrest]
    obtain ⟨d, ds, hd, htext | htext⟩ := toList_toString i
    · rw [htext]
      exact value_eq_number n (not_mem_of_isDigit hd rfl) (word?_of_digit hd _)
    · rw [htext]
      exact value_eq_number n (by decide) (word?_of_minus hd _)

end ImportPolicy.Document.Json
