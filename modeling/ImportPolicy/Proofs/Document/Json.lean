import ImportPolicy.Document.Json
import ImportPolicy.Proofs.Document.Numbers

/-!
# What is read from JSON

A document without long rows of digits is read without meeting a number that
is too long, and the value that is read holds none. Each reader is taken on
its own: what it leaves is an end of what it was given, so that no row of
digits is longer there.
-/

namespace ImportPolicy.Document.Json

variable {document text rest : List Char}

/-- A fault that is not about a number. -/
def Fault.IsPlain (f : Fault) : Prop := ∀ count, f.problem ≠ .digits count

@[simp] theorem isPlain_mk {problem : Problem} {left : Nat} :
    Fault.IsPlain ⟨problem, left⟩ ↔ ∀ count, problem ≠ .digits count := Iff.rfl

@[simp] theorem ends_stop {α : Type} {good : α → Prop} {problem : Problem} :
    Ends Fault.IsPlain good (stop problem rest) ↔ ∀ count, problem ≠ .digits count := Iff.rfl

@[simp] theorem gives_stop {problem : Problem} :
    Gives document Fault.IsPlain text (stop problem rest)
      ↔ Short document → ∀ count, problem ≠ .digits count := Iff.rfl

theorem skip_suffix (text : List Char) : skip text <:+ text := List.dropWhile_suffix _

/-! ## Texts -/

theorem fourDigits?_suffix {code : Nat} (h : fourDigits? text = some (code, rest)) :
    rest <:+ text := by
  unfold fourDigits? at h
  split at h
  · rename_i a b c d e behind
    simp only [Option.bind_eq_bind, Option.bind_eq_some_iff] at h
    obtain ⟨_, -, _, -, _, -, _, -, heq⟩ := h
    cases heq
    exact ⟨[a, b, c, d], rfl⟩
  · cases h

theorem lowHalf?_leaves (text : List Char) :
    Ends Fault.IsPlain (fun r => ∀ low behind, r = some (low, behind) → behind <:+ text)
      (lowHalf? text) := by
  unfold lowHalf?
  split
  · rename_i digits
    split
    · simp
    · split
      · rename_i low behind hdigits
        split
        · simp only [ends_ok, Option.some.injEq, Prod.mk.injEq]
          rintro _ _ ⟨-, rfl⟩
          exact (fourDigits?_suffix hdigits).trans ⟨['\\', 'u'], rfl⟩
        · simp
      · simp
  · simp

theorem codePoint_leaves (text : List Char) : Leaves Fault.IsPlain text (codePoint text) := by
  unfold codePoint
  split
  · simp
  · rename_i code rest hdigits
    have hrest := fourDigits?_suffix hdigits
    split
    · refine (lowHalf?_leaves rest).bind fun half hhalf => ?_
      split
      · exact (hhalf _ _ rfl).trans hrest
      · exact hrest
    · split
      · exact hrest
      · exact hrest

theorem stringWithin_leaves (start n : Nat) (got text : List Char) :
    Leaves Fault.IsPlain text (stringWithin start n got text) := by
  induction n generalizing got text with
  | zero => simp [stringWithin]
  | succ n ih =>
    cases text with
    | nil => simp [stringWithin]
    | cons c rest =>
      have hcons := List.suffix_cons c rest
      unfold stringWithin
      dsimp only
      split
      · exact hcons
      split
      · simp
      split
      · exact (ih _ rest).suffix hcons
      split
      · simp
      · rename_i digits
        refine (codePoint_leaves digits).bind fun found hfound => ?_
        exact (ih _ found.2).suffix (hfound.trans ⟨[c, 'u'], rfl⟩)
      · rename_i e behind _
        split
        · exact (ih _ behind).suffix ⟨[c, e], rfl⟩
        · simp

theorem string_leaves (text : List Char) : Leaves Fault.IsPlain text (string text) :=
  (stringWithin_leaves _ _ _ text).bind fun _ h => h

/-! ## Numbers -/

theorem digits_suffix (text : List Char) : (digits text).2 <:+ text := List.dropWhile_suffix _

theorem wholeDigits_eq_some {whole : List Char} (h : wholeDigits text = some (whole, rest)) :
    text = whole ++ rest ∧ ∀ c ∈ whole, c.isDigit = true := by
  unfold wholeDigits at h
  split at h
  · cases h
    simp
  · split at h
    · cases h
    · cases h
      exact ⟨List.takeWhile_append_dropWhile.symm, fun c hc => List.mem_takeWhile_imp hc⟩

theorem fraction_suffix {places : List Char} (h : fraction text = some (places, rest)) :
    rest <:+ text := by
  unfold fraction at h
  split at h
  · split at h
    · cases h
    · cases h
      exact (digits_suffix _).trans (List.suffix_cons _ _)
  · cases h

theorem exponent_suffix {scale : Int} (h : exponent text = some (scale, rest)) :
    rest <:+ text := by
  unfold exponent at h
  split at h
  · rename_i e more
    split at h
    · split at h
      rename_i negative signed hsign
      have hsigned : signed <:+ e :: more := by
        split at hsign
        · cases hsign
          exact ⟨[e, '-'], rfl⟩
        · cases hsign
          exact ⟨[e, '+'], rfl⟩
        · cases hsign
          exact List.suffix_cons e _
      have hbehind := digits_suffix signed
      split at h
      · cases h
      · rename_i ds behind _ hdigits
        cases h
        rw [hdigits] at hbehind
        exact hbehind.trans hsigned
    · cases h
  · cases h

/-- A number is read unless it has too many digits, which it has not in a
short document. -/
theorem number_gives (h : text <:+ document) :
    Gives document Fault.IsPlain text (number text) := by
  unfold number
  split
  rename_i negative body hsign
  have hbody : body <:+ text := by
    split at hsign
    · cases hsign
      exact List.suffix_cons _ _
    · cases hsign
      exact List.suffix_refl _
  split
  · simp
  · rename_i whole rest hwhole
    obtain ⟨heq, hdigits⟩ := wholeDigits_eq_some hwhole
    have hlength (hshort : Short document) : whole.length ≤ Value.mostDigits :=
      ((hshort.suffix (hbody.trans h)).prefix_length ⟨rest, heq.symm⟩
        fun c hc => isNumeral_of_isDigit (hdigits c hc)).trans mostNumerals_le
    have hrest : rest <:+ text := List.IsSuffix.trans ⟨whole, heq.symm⟩ hbody
    -- a fraction and an exponent may follow, and each leaves less
    have hplaces : ((fraction rest).getD ([], rest)).2 <:+ rest :=
      getD_suffix (fun _ _ => fraction_suffix) []
    have htail := ((getD_suffix (fun _ _ => exponent_suffix) 0).trans hplaces).trans hrest
    dsimp only
    split
    · exact ⟨fun _ => rfl, htail⟩
    split
    · rename_i hlong
      exact fun hshort => absurd (hlength hshort) (Nat.not_le_of_lt hlong)
    · rename_i hfew
      have hlt := decimal_lt_leastLong hdigits (Nat.le_of_not_lt hfew)
      exact ⟨fun _ => Value.hasLongNumber_int hlt _, htail⟩

/-! ## Values -/

theorem word?_eq_some {v : Value} (h : word? text = some (v, rest)) :
    v.hasLongNumber = false ∧ rest <:+ text := by
  unfold word? at h
  obtain ⟨⟨word, value⟩, hfind, heq⟩ := Option.map_eq_some_iff.mp h
  cases heq
  refine ⟨?_, List.drop_suffix _ _⟩
  have hmem := List.mem_of_find?_eq_some hfind
  simp only [List.mem_cons, Prod.mk.injEq, List.not_mem_nil, or_false] at hmem
  obtain ⟨-, rfl⟩ | ⟨-, rfl⟩ | ⟨-, rfl⟩ | ⟨-, rfl⟩ | ⟨-, rfl⟩ | ⟨-, rfl⟩ := hmem
  all_goals rfl

/-- The three readers of values, in as many steps as are left. -/
structure ReadsWithin (document : List Char) (n : Nat) : Prop where
  value : ∀ {text}, text <:+ document → Gives document Fault.IsPlain text (value n text)
  members : ∀ {got text}, (Short document → Value.entriesLongNumber got = false) →
    text <:+ document → Gives document Fault.IsPlain text (members n got text)
  elements : ∀ {got text}, (Short document → Value.anyLongNumber got = false) →
    text <:+ document → Gives document Fault.IsPlain text (elements n got text)

theorem readsWithin_zero (document : List Char) : ReadsWithin document 0 where
  value _ := by simp [Json.value]
  members _ _ := by simp [Json.members]
  elements _ _ := by simp [Json.elements]

theorem value_gives {n : Nat} (ih : ReadsWithin document n) (h : text <:+ document) :
    Gives document Fault.IsPlain text (value (n + 1) text) := by
  unfold value
  dsimp only
  split
  · rename_i rest
    refine .after (string_leaves rest) fun found hfound => ?_
    exact ⟨fun _ => rfl, hfound.trans (List.suffix_cons _ _)⟩
  · rename_i rest
    have hskip : skip rest <:+ '{' :: rest := (skip_suffix rest).trans (List.suffix_cons _ _)
    split
    · rename_i behind heq
      rw [heq] at hskip
      exact ⟨fun _ => rfl, (List.suffix_cons _ _).trans hskip⟩
    · exact (ih.members (fun _ => rfl) (hskip.trans h)).suffix hskip
  · rename_i rest
    have hskip : skip rest <:+ '[' :: rest := (skip_suffix rest).trans (List.suffix_cons _ _)
    split
    · rename_i behind heq
      rw [heq] at hskip
      exact ⟨fun _ => rfl, (List.suffix_cons _ _).trans hskip⟩
    · exact (ih.elements (fun _ => rfl) (hskip.trans h)).suffix hskip
  · split
    · rename_i found hfound
      obtain ⟨hplain, hsuffix⟩ := word?_eq_some hfound
      exact ⟨fun _ => hplain, hsuffix⟩
    · exact number_gives h

theorem members_gives {n : Nat} (ih : ReadsWithin document n) {got : Entries}
    (hgot : Short document → Value.entriesLongNumber got = false) (h : text <:+ document) :
    Gives document Fault.IsPlain text (members (n + 1) got text) := by
  unfold members
  dsimp only
  split
  · rename_i rest
    refine .after (string_leaves rest) fun found hfound => ?_
    have hkey := (skip_suffix found.2).trans (hfound.trans (List.suffix_cons '"' rest))
    split
    · rename_i behind heq
      rw [heq] at hkey
      have hvalue := (skip_suffix behind).trans ((List.suffix_cons _ _).trans hkey)
      refine ((ih.value (hvalue.trans h)).suffix hvalue).bind fun next hnext => ?_
      have hset (hshort : Short document) :
          Value.entriesLongNumber (got.set found.1 next.1) = false :=
        Entries.entriesLongNumber_set (hgot hshort) (hnext.1 hshort)
      have hbehind := (skip_suffix next.2).trans hnext.2
      split
      · rename_i last heq
        rw [heq] at hbehind
        exact ⟨hset, (List.suffix_cons _ _).trans hbehind⟩
      · rename_i more heq
        rw [heq] at hbehind
        have hmore := (skip_suffix more).trans ((List.suffix_cons _ _).trans hbehind)
        exact (ih.members hset (hmore.trans h)).suffix hmore
      · simp
    · simp
  · simp

theorem elements_gives {n : Nat} (ih : ReadsWithin document n) {got : List Value}
    (hgot : Short document → Value.anyLongNumber got = false) (h : text <:+ document) :
    Gives document Fault.IsPlain text (elements (n + 1) got text) := by
  unfold elements
  refine (ih.value h).bind fun found hfound => ?_
  have hmore (hshort : Short document) : Value.anyLongNumber (found.1 :: got) = false := by
    simp [Value.anyLongNumber, hfound.1 hshort, hgot hshort]
  have hbehind := (skip_suffix found.2).trans hfound.2
  dsimp only
  split
  · rename_i last heq
    rw [heq] at hbehind
    refine ⟨fun hshort => ?_, (List.suffix_cons _ _).trans hbehind⟩
    rw [Value.hasLongNumber_array]
    intro v hv
    exact Value.anyLongNumber_eq_false.mp (hmore hshort) v (List.mem_reverse.mp hv)
  · rename_i more heq
    rw [heq] at hbehind
    have hnext := (skip_suffix more).trans ((List.suffix_cons _ _).trans hbehind)
    exact (ih.elements hmore (hnext.trans h)).suffix hnext
  · simp

theorem readsWithin (document : List Char) (n : Nat) : ReadsWithin document n := by
  induction n with
  | zero => exact readsWithin_zero document
  | succ n ih => exact ⟨value_gives ih, members_gives ih, elements_gives ih⟩

/-- **A document without long rows of digits has no number that is too
long.** -/
theorem read_ends (h : Short text) :
    Ends Fault.IsPlain (fun v => v.hasLongNumber = false) (read text) := by
  unfold read
  split
  · simp
  · have hvalue := (readsWithin text (2 * text.length + 1)).value (skip_suffix text)
    refine (hvalue.of_short h).bind fun found hfound => ?_
    dsimp only
    split
    · exact hfound.1
    · simp

end ImportPolicy.Document.Json
