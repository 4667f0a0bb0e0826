import ImportPolicy.Proofs.Document.Numbers

/-!
# What is read from TOML

As for the other format, a document without long rows of digits is read
without meeting a number that is too long, and the table that is read holds
none. Besides the readers themselves there are the changes that a header or a
dotted key makes to the table: they move values, and add empty tables only.
-/

namespace ImportPolicy.Document.Toml

variable {document text rest : List Char}

/-- A fault that is not about a number. -/
def Fault.IsPlain (f : Fault) : Prop := ∀ count, f.problem ≠ .digits count

@[simp] theorem ends_stop {α : Type} {good : α → Prop} {problem : Problem} :
    Ends Fault.IsPlain good (stop problem rest) ↔ ∀ count, problem ≠ .digits count := Iff.rfl

@[simp] theorem gives_stop {problem : Problem} :
    Gives document Fault.IsPlain text (stop problem rest)
      ↔ Short document → ∀ count, problem ≠ .digits count := Iff.rfl

/-! ## Filler -/

theorem skipSpace_suffix (text : List Char) : skipSpace text <:+ text := List.dropWhile_suffix _

theorem skipLines_suffix (text : List Char) : skipLines text <:+ text := List.dropWhile_suffix _

theorem refuse_ends (bad : Char → Bool) (n : Nat) (text : List Char) :
    Ends Fault.IsPlain (fun _ => True) (refuse bad n text) := by
  fun_induction refuse bad n text with
  | case1 => trivial
  | case2 => trivial
  | case3 n c rest hbad => simp
  | case4 n c rest hbad ih => exact ih

theorem skipComment_ends (text : List Char) :
    Ends Fault.IsPlain (· <:+ text) (skipComment text) := by
  unfold skipComment
  split
  · rename_i rest
    refine (refuse_ends _ _ rest).bind fun _ _ => ?_
    exact (List.drop_suffix _ rest).trans (List.suffix_cons '#' rest)
  · exact List.suffix_refl _

theorem skipFiller_ends (n : Nat) (text : List Char) :
    Ends Fault.IsPlain (· <:+ text) (skipFiller n text) := by
  induction n generalizing text with
  | zero => exact List.suffix_refl text
  | succ n ih =>
    unfold skipFiller
    refine (skipComment_ends (skipLines text)).bind fun rest hrest => ?_
    have hrest := hrest.trans (skipLines_suffix text)
    split
    · exact hrest
    · exact (ih rest).mono fun _ h => h.trans hrest

/-! ## Texts -/

theorem literalUntil_leaves (finish : String) (bad : Char → Bool) (text : List Char) :
    Leaves Fault.IsPlain text (literalUntil finish bad text) := by
  unfold literalUntil
  split
  · simp
  · exact (refuse_ends bad _ text).bind fun _ _ => List.drop_suffix _ text

theorem codePoint_leaves (width : Nat) (text : List Char) :
    Leaves Fault.IsPlain text (codePoint width text) := by
  unfold codePoint
  dsimp only
  split
  · split
    · simp
    · split
      · exact List.drop_suffix width text
      · simp
  · simp

theorem escape_leaves (lines : Bool) (text : List Char) :
    Leaves Fault.IsPlain text (escape lines text) := by
  unfold escape
  split
  · simp
  · rename_i c rest
    have hcons := List.suffix_cons c rest
    split
    · exact (skipLines_suffix rest).trans hcons
    split
    · have hspace := (skipSpace_suffix rest).trans hcons
      split
      · exact List.nil_suffix
      · rename_i more heq
        rw [heq] at hspace
        exact (skipLines_suffix more).trans ((List.suffix_cons _ _).trans hspace)
      · simp
    split
    · exact (codePoint_leaves 4 rest).bind fun _ h => h.trans hcons
    split
    · exact (codePoint_leaves 8 rest).bind fun _ h => h.trans hcons
    split
    · exact hcons
    · simp

theorem basicWithin_leaves (lines : Bool) (n : Nat) (got text : List Char) :
    Leaves Fault.IsPlain text (basicWithin lines n got text) := by
  induction n generalizing got text with
  | zero => simp [basicWithin]
  | succ n ih =>
    cases text with
    | nil => simp [basicWithin]
    | cons c rest =>
      have hcons := List.suffix_cons c rest
      unfold basicWithin
      dsimp only
      split
      · split
        · exact hcons
        split
        · exact (List.drop_suffix 2 rest).trans hcons
        · exact (ih _ rest).suffix hcons
      split
      · refine (escape_leaves lines rest).bind fun found hfound => ?_
        exact (ih _ found.2).suffix (hfound.trans hcons)
      · generalize (if lines = true then isControlInLines c else isControl c) = bad
        cases bad with
        | true => simp
        | false => exact (ih _ rest).suffix hcons

theorem basic_leaves (lines : Bool) (text : List Char) :
    Leaves Fault.IsPlain text (basic lines text) :=
  basicWithin_leaves lines _ _ text

theorem extraQuotes_suffix (quote : Char) (got rest : List Char) :
    (extraQuotes quote got rest).2 <:+ rest := by
  unfold extraQuotes
  split
  · split
    · split
      · exact ⟨[_, _], rfl⟩
      · exact List.suffix_cons _ _
    · exact List.suffix_refl _
  · split
    · exact List.nil_suffix
    · exact List.suffix_refl _
  · exact List.suffix_refl _

theorem multiline_leaves (literal : Bool) (text : List Char) :
    Leaves Fault.IsPlain text (multiline literal text) := by
  unfold multiline
  dsimp only
  split
  · refine (literalUntil_leaves _ _ _).bind fun found hfound => ?_
    refine (extraQuotes_suffix _ _ _).trans (hfound.trans ?_)
    split
    · exact List.suffix_cons _ _
    · exact List.suffix_refl _
  · refine (basic_leaves _ _).bind fun found hfound => ?_
    refine (extraQuotes_suffix _ _ _).trans (hfound.trans ?_)
    split
    · exact List.suffix_cons _ _
    · exact List.suffix_refl _

/-! ## Keys -/

theorem keyPart_leaves (text : List Char) : Leaves Fault.IsPlain text (keyPart text) := by
  unfold keyPart
  split
  · exact (literalUntil_leaves _ _ _).bind fun _ h => h.trans (List.suffix_cons _ _)
  · exact (basic_leaves _ _).bind fun _ h => h.trans (List.suffix_cons _ _)
  · split
    · simp
    · exact List.drop_suffix _ text

theorem keyWithin_leaves (n : Nat) (text : List Char) :
    Leaves Fault.IsPlain text (keyWithin n text) := by
  induction n generalizing text with
  | zero => simp [keyWithin]
  | succ n ih =>
    unfold keyWithin
    refine (keyPart_leaves text).bind fun found hfound => ?_
    have hspace := (skipSpace_suffix found.2).trans hfound
    dsimp only
    split
    · rename_i more heq
      rw [heq] at hspace
      refine (ih (skipSpace more)).bind fun _ h => ?_
      exact (h.trans (skipSpace_suffix more)).trans ((List.suffix_cons _ _).trans hspace)
    · exact hspace

theorem key_leaves (text : List Char) : Leaves Fault.IsPlain text (key text) :=
  keyWithin_leaves _ text

/-! ## Numbers -/

/-- What a row of digits with underscores takes from a text: at least the
digits, and nothing but digits and underscores. -/
structure Takes (isDigit : Char → Bool) (text : List Char) (found : List Char × List Char) :
    Prop where
  digits : ∀ c ∈ found.1, isDigit c = true
  row : ∃ run, text = run ++ found.2 ∧ found.1.length ≤ run.length
    ∧ ∀ c ∈ run, isDigit c = true ∨ c = '_'

theorem takes_nothing (isDigit : Char → Bool) (text : List Char) :
    Takes isDigit text ([], text) where
  digits _ h := absurd h List.not_mem_nil
  row := ⟨[], rfl, Nat.le_refl 0, fun _ h => absurd h List.not_mem_nil⟩

theorem Takes.cons {isDigit : Char → Bool} {found : List Char × List Char} {d : Char}
    (h : Takes isDigit text found) (hd : isDigit d = true) :
    Takes isDigit (d :: text) (d :: found.1, found.2) where
  digits c hc := by
    obtain rfl | hc := List.mem_cons.mp hc
    · exact hd
    · exact h.digits c hc
  row := by
    obtain ⟨run, heq, hlength, hrun⟩ := h.row
    refine ⟨d :: run, by rw [heq]; rfl, by simpa using hlength, fun c hc => ?_⟩
    obtain rfl | hc := List.mem_cons.mp hc
    · exact .inl hd
    · exact hrun c hc

theorem Takes.underscore {isDigit : Char → Bool} {found : List Char × List Char}
    (h : Takes isDigit text found) : Takes isDigit ('_' :: text) found where
  digits := h.digits
  row := by
    obtain ⟨run, heq, hlength, hrun⟩ := h.row
    refine ⟨'_' :: run, by rw [heq]; rfl, hlength.trans (Nat.le_succ _), fun c hc => ?_⟩
    obtain rfl | hc := List.mem_cons.mp hc
    · exact .inr rfl
    · exact hrun c hc

theorem Takes.suffix {isDigit : Char → Bool} {found : List Char × List Char}
    (h : Takes isDigit text found) : found.2 <:+ text := by
  obtain ⟨run, heq, -⟩ := h.row
  exact ⟨run, heq.symm⟩

/-- A short text has no long row of digits. -/
theorem Takes.length_le {isDigit : Char → Bool} {found : List Char × List Char}
    (h : Takes isDigit text found) (hshort : Short text)
    (hdigit : ∀ c, isDigit c = true → isNumeral c = true) : found.1.length ≤ mostNumerals := by
  obtain ⟨run, heq, hlength, hrun⟩ := h.row
  refine hlength.trans (hshort.prefix_length ⟨found.2, heq.symm⟩ fun c hc => ?_)
  obtain hc | rfl := hrun c hc
  · exact hdigit c hc
  · rfl

theorem moreDigits_takes (isDigit : Char → Bool) (text : List Char) :
    Takes isDigit text (moreDigits isDigit text) := by
  fun_induction moreDigits isDigit text with
  | case1 d rest hd ds behind heq ih =>
    rw [heq] at ih
    exact (ih.cons hd).underscore
  | case2 d rest hd => exact takes_nothing isDigit _
  | case3 d rest _ hd ds behind heq ih =>
    rw [heq] at ih
    exact ih.cons hd
  | case4 d rest _ hd => exact takes_nothing isDigit _
  | case5 => exact takes_nothing isDigit []

theorem digitRun_takes (isDigit : Char → Bool) (text : List Char) :
    Takes isDigit text (digitRun isDigit text) := by
  unfold digitRun
  split
  · split
    · rename_i hc
      exact (moreDigits_takes isDigit _).cons hc
    · exact takes_nothing isDigit _
  · exact takes_nothing isDigit []

/-- Whether a character is a digit in a base. -/
def isDigitIn (base : Nat) (c : Char) : Bool :=
  match hexValue? c with
  | some d => d < base
  | none => false

theorem isDigitIn_iff {base : Nat} {c : Char} :
    isDigitIn base c = true ↔ ∃ d, hexValue? c = some d ∧ d < base := by
  unfold isDigitIn
  cases hexValue? c with
  | none => simp
  | some d => simp

theorem inBase_lt {base : Nat} {ds : List Char} (h : ∀ c ∈ ds, isDigitIn base c = true) :
    inBase base ds < base ^ ds.length := by
  have hdigit : ∀ c ∈ ds, (hexValue? c).getD 0 < base := by
    intro c hc
    obtain ⟨d, hd, hlt⟩ := isDigitIn_iff.mp (h c hc)
    simpa [hd] using hlt
  have hlt := foldl_lt_pow hdigit 0
  rwa [Nat.zero_add, Nat.one_mul] at hlt

/-- A number in one of the bases is not too long. -/
theorem inBase_lt_most {base : Nat} (hbase : base ≤ 16) (hshort : Short text) :
    inBase base (digitRun (isDigitIn base) text).1 < Value.leastLong := by
  have htakes := digitRun_takes (isDigitIn base) text
  have hlength := htakes.length_le hshort fun c hc => by
    obtain ⟨d, hd, -⟩ := isDigitIn_iff.mp hc
    simp [isNumeral, hd]
  calc inBase base (digitRun (isDigitIn base) text).1
    _ < base ^ (digitRun (isDigitIn base) text).1.length := inBase_lt htakes.digits
    _ ≤ 16 ^ (digitRun (isDigitIn base) text).1.length := Nat.pow_le_pow_left hbase _
    _ ≤ 16 ^ mostNumerals := Nat.pow_le_pow_right (by decide) hlength
    _ ≤ Value.leastLong := pow_mostNumerals_le

/-- A number in a base, behind what tells the base. -/
def inBase? (base : Nat) (text : List Char) : Option (Nat × List Char) :=
  match digitRun (isDigitIn base) text with
  | ([], _) => none
  | (ds, behind) => some (inBase base ds, behind)

theorem inBase?_eq_some {base n : Nat} (hbase : base ≤ 16)
    (h : inBase? base text = some (n, rest)) :
    (Short text → n < Value.leastLong) ∧ rest <:+ text := by
  have hlt (hshort : Short text) := inBase_lt_most hbase hshort
  have hsuffix := (digitRun_takes (isDigitIn base) text).suffix
  unfold inBase? at h
  split at h
  · cases h
  · rename_i ds behind _ hrun
    rw [hrun] at hlt hsuffix
    cases h
    exact ⟨hlt, hsuffix⟩

theorem based?_eq_some {n : Nat} (h : based? text = some (n, rest)) :
    (Short text → n < Value.leastLong) ∧ rest <:+ text := by
  have hread : ∀ {base body}, base ≤ 16 → body <:+ text → inBase? base body = some (n, rest) →
      (Short text → n < Value.leastLong) ∧ rest <:+ text := by
    intro base body hbase hbody heq
    obtain ⟨hlt, hrest⟩ := inBase?_eq_some hbase heq
    exact ⟨fun hshort => hlt (hshort.suffix hbody), hrest.trans hbody⟩
  unfold based? at h
  dsimp only at h
  split at h
  · exact hread (by decide) ⟨['0', 'x'], rfl⟩ h
  · exact hread (by decide) ⟨['0', 'b'], rfl⟩ h
  · exact hread (by decide) ⟨['0', 'o'], rfl⟩ h
  · cases h

theorem wholeDigits_takes (text : List Char) : Takes Char.isDigit text (wholeDigits text) := by
  unfold wholeDigits
  split
  · exact (takes_nothing Char.isDigit _).cons (by decide)
  · exact digitRun_takes Char.isDigit text

theorem fraction_suffix {places : List Char} (h : fraction text = some (places, rest)) :
    rest <:+ text := by
  unfold fraction at h
  split at h
  · rename_i body
    have hsuffix := (digitRun_takes Char.isDigit body).suffix
    split at h
    · cases h
    · rw [Option.some.inj h] at hsuffix
      exact hsuffix.trans (List.suffix_cons '.' body)
  · cases h

theorem exponent_suffix {scale : Int} (h : exponent text = some (scale, rest)) :
    rest <:+ text := by
  unfold exponent at h
  split at h
  · rename_i e more
    split at h
    · split at h
      rename_i negative signed hsign
      have hsigned : signed <:+ e :: more := by
        split at hsign
        · cases hsign
          exact ⟨[e, '-'], rfl⟩
        · cases hsign
          exact ⟨[e, '+'], rfl⟩
        · cases hsign
          exact List.suffix_cons e _
      have hbehind := (digitRun_takes Char.isDigit signed).suffix
      split at h
      · cases h
      · rename_i ds behind _ hdigits
        cases h
        rw [hdigits] at hbehind
        exact hbehind.trans hsigned
    · cases h
  · cases h

/-- A number is read unless it has too many digits, which it has not in a
short document. -/
theorem number?_gives (hdocument : text <:+ document) {found : Except Fault (Value × List Char)}
    (h : number? text = some found) : Gives document Fault.IsPlain text found := by
  unfold number? at h
  split at h
  · rename_i n rest hbased
    obtain ⟨hlt, hsuffix⟩ := based?_eq_some hbased
    cases h
    exact ⟨fun hshort => Value.hasLongNumber_int (hlt (hshort.suffix hdocument)) false, hsuffix⟩
  · split at h
    rename_i negative body hsign
    have hbody : body <:+ text := by
      split at hsign
      · cases hsign
        exact List.suffix_cons _ _
      · cases hsign
        exact List.suffix_cons _ _
      · cases hsign
        exact List.suffix_refl _
    have htakes := wholeDigits_takes body
    split at h
    · cases h
    · rename_i whole rest _ hwhole
      rw [hwhole] at htakes
      have hlength (hshort : Short document) : whole.length ≤ Value.mostDigits :=
        (htakes.length_le (hshort.suffix (hbody.trans hdocument))
          fun _ => isNumeral_of_isDigit).trans mostNumerals_le
      -- a fraction and an exponent may follow, and each leaves less
      have hplaces : ((fraction rest).getD ([], rest)).2 <:+ rest :=
        getD_suffix (fun _ _ => fraction_suffix) []
      have htail := (((getD_suffix (fun _ _ => exponent_suffix) 0).trans hplaces).trans
        htakes.suffix).trans hbody
      dsimp only at h
      rw [← Option.some.inj h]
      split
      · exact ⟨fun _ => rfl, htail⟩
      split
      · rename_i hlong
        exact fun hshort => absurd (hlength hshort) (Nat.not_le_of_lt hlong)
      · rename_i hfew
        have hlt := decimal_lt_leastLong htakes.digits (Nat.le_of_not_lt hfew)
        exact ⟨fun _ => Value.hasLongNumber_int hlt _, htail⟩

/-! ## Dates and times -/

theorem twoDigits?_suffix {low high n : Nat} (h : twoDigits? low high text = some (n, rest)) :
    rest <:+ text := by
  unfold twoDigits? at h
  split at h
  · rename_i a b behind
    dsimp only at h
    split at h
    · cases h
      exact ⟨[a, b], rfl⟩
    · cases h
  · cases h

theorem behind?_suffix {c : Char} (h : behind? c text = some rest) : rest <:+ text := by
  unfold behind? at h
  split at h
  · split at h
    · cases h
      exact List.suffix_cons _ _
    · cases h
  · cases h

theorem micros_suffix (text : List Char) : (micros text).2 <:+ text := by
  unfold micros
  split
  · rename_i rest
    split
    · exact List.suffix_refl _
    · exact (List.drop_suffix _ rest).trans (List.suffix_cons '.' rest)
  · exact List.suffix_refl _

theorem clock?_suffix {t : Clock} (h : clock? text = some (t, rest)) : rest <:+ text := by
  simp only [clock?, Option.bind_eq_bind, Option.bind_eq_some_iff, Prod.exists] at h
  obtain ⟨_, r₁, hhour, r₂, hcolon, _, r₃, hminute, r₄, hcolon', _, r₅, hsecond, heq⟩ := h
  cases heq
  calc (micros r₅).2
    _ <:+ r₅ := micros_suffix r₅
    _ <:+ r₄ := twoDigits?_suffix hsecond
    _ <:+ r₃ := behind?_suffix hcolon'
    _ <:+ r₂ := twoDigits?_suffix hminute
    _ <:+ r₁ := behind?_suffix hcolon
    _ <:+ text := twoDigits?_suffix hhour

theorem offset?_suffix (text : List Char) : (offset? text).2 <:+ text := by
  unfold offset?
  split
  · exact List.suffix_refl _
  · rename_i c rest
    split
    · exact List.suffix_cons c rest
    split
    · dsimp only
      split
      · rename_i n behind h
        simp only [Option.bind_eq_bind, Option.bind_eq_some_iff, Prod.exists] at h
        obtain ⟨_, r₁, hhours, r₂, hcolon, _, r₃, hminutes, heq⟩ := h
        cases heq
        calc behind
          _ <:+ r₂ := twoDigits?_suffix hminutes
          _ <:+ r₁ := behind?_suffix hcolon
          _ <:+ rest := twoDigits?_suffix hhours
          _ <:+ c :: rest := List.suffix_cons c rest
      · exact List.suffix_refl _
    · exact List.suffix_refl _

theorem date?_suffix {d : Date} (h : date? text = some (d, rest)) : rest <:+ text := by
  simp only [date?, Option.bind_eq_bind, Option.bind_eq_some_iff, Prod.exists] at h
  obtain ⟨_, r₁, hcentury, _, r₂, hyear, r₃, hdash, _, r₄, hmonth, r₅, hdash', _, r₆, hday, heq⟩ :=
    h
  cases heq
  calc rest
    _ <:+ r₅ := twoDigits?_suffix hday
    _ <:+ r₄ := behind?_suffix hdash'
    _ <:+ r₃ := twoDigits?_suffix hmonth
    _ <:+ r₂ := behind?_suffix hdash
    _ <:+ r₁ := twoDigits?_suffix hyear
    _ <:+ text := twoDigits?_suffix hcentury

theorem dateTime?_gives {found : Except Fault (Value × List Char)}
    (h : dateTime? text = some found) : Gives document Fault.IsPlain text found := by
  simp only [dateTime?, Option.bind_eq_bind, Option.bind_eq_some_iff, Prod.exists] at h
  obtain ⟨date, rest, hdate, h⟩ := h
  have hrest := date?_suffix hdate
  split at h
  · cases h
    simp
  · split at h
    · rename_i time more htimed
      cases h
      refine ⟨fun _ => rfl, (offset?_suffix more).trans ?_⟩
      split at htimed
      · split at htimed
        · exact (clock?_suffix htimed).trans ((List.suffix_cons _ _).trans hrest)
        · cases htimed
      · cases htimed
    · cases h
      exact ⟨fun _ => rfl, hrest⟩

theorem special?_eq_some {v : Value} (h : special? text = some (v, rest)) :
    v.hasLongNumber = false ∧ rest <:+ text := by
  unfold special? at h
  obtain ⟨⟨word, value⟩, hfind, heq⟩ := Option.map_eq_some_iff.mp h
  cases heq
  refine ⟨?_, List.drop_suffix _ _⟩
  have hmem := List.mem_of_find?_eq_some hfind
  simp only [List.mem_cons, Prod.mk.injEq, List.not_mem_nil, or_false] at hmem
  obtain ⟨-, rfl⟩ | ⟨-, rfl⟩ | ⟨-, rfl⟩ | ⟨-, rfl⟩ | ⟨-, rfl⟩ | ⟨-, rfl⟩ := hmem
  all_goals rfl

theorem scalar_gives (h : text <:+ document) :
    Gives document Fault.IsPlain text (scalar text) := by
  unfold scalar
  split
  · exact ⟨fun _ => rfl, List.drop_suffix _ _⟩
  split
  · exact ⟨fun _ => rfl, List.drop_suffix _ _⟩
  split
  · rename_i found hfound
    exact dateTime?_gives hfound
  split
  · rename_i t rest hclock
    exact ⟨fun _ => rfl, clock?_suffix hclock⟩
  split
  · rename_i found hfound
    exact number?_gives h hfound
  split
  · rename_i found hfound
    obtain ⟨hplain, hsuffix⟩ := special?_eq_some hfound
    exact ⟨fun _ => hplain, hsuffix⟩
  · simp

/-! ## Tables -/

/-- A change to a table that brings in no long number. -/
def IsPlainChange (change : Entries → Option Entries) : Prop :=
  ∀ {entries changed}, Value.entriesLongNumber entries = false → change entries = some changed →
    Value.entriesLongNumber changed = false

theorem isPlainChange_some : IsPlainChange some := by
  intro entries changed h heq
  cases heq
  exact h

theorem isPlainChange_addKey {k : String} {v : Value} (hv : v.hasLongNumber = false) :
    IsPlainChange (addKey k v) := by
  intro entries changed h heq
  unfold addKey at heq
  split at heq
  · cases heq
    exact Entries.entriesLongNumber_set h hv
  · cases heq

theorem isPlainChange_addItem (k : String) : IsPlainChange (addItem k) := by
  intro entries changed h heq
  unfold addItem at heq
  split at heq
  · cases heq
    exact Entries.entriesLongNumber_set h rfl
  · rename_i items hget
    cases heq
    have hitems := Value.hasLongNumber_array.mp (Entries.hasLongNumber_get? h hget)
    refine Entries.entriesLongNumber_set h (Value.hasLongNumber_array.mpr fun v hv => ?_)
    obtain hv | hv := List.mem_append.mp hv
    · exact hitems v hv
    · rw [List.mem_singleton.mp hv]
      rfl
  · cases heq

/-- A change further inside is as plain as the change itself. -/
theorem isPlainChange_changeAt {throughArrays : Bool} {change : Entries → Option Entries}
    (hchange : IsPlainChange change) (path : Key) :
    IsPlainChange (changeAt throughArrays change path) := by
  induction path with
  | nil => exact hchange
  | cons k path ih =>
    intro entries changed h heq
    rw [changeAt] at heq
    split at heq
    · obtain ⟨inner, hinner, heq⟩ := Option.bind_eq_some_iff.mp heq
      cases heq
      exact Entries.entriesLongNumber_set h (ih rfl hinner)
    · rename_i table hget
      obtain ⟨inner, hinner, heq⟩ := Option.bind_eq_some_iff.mp heq
      cases heq
      have htable := Entries.hasLongNumber_get? h hget
      exact Entries.entriesLongNumber_set h (ih htable hinner)
    · rename_i items hget
      have hitems := Value.hasLongNumber_array.mp (Entries.hasLongNumber_get? h hget)
      split at heq
      · split at heq
        · rename_i table earlier hreverse
          obtain ⟨inner, hinner, heq⟩ := Option.bind_eq_some_iff.mp heq
          cases heq
          -- only the last item changes, and it is found by turning the array around
          have hmem : ∀ v ∈ Value.table table :: earlier, v.hasLongNumber = false := by
            intro v hv
            rw [← hreverse] at hv
            exact hitems v (List.mem_reverse.mp hv)
          refine Entries.entriesLongNumber_set h (Value.hasLongNumber_array.mpr fun v hv => ?_)
          obtain hv | hv := List.mem_append.mp hv
          · exact hmem v (List.mem_cons_of_mem _ (List.mem_reverse.mp hv))
          · rw [List.mem_singleton.mp hv]
            exact ih (hmem _ List.mem_cons_self) hinner
        · cases heq
      · cases heq
    · cases heq

/-! ## Values -/

/-- The three readers of values, in as many steps as are left. -/
structure ReadsWithin (document : List Char) (n : Nat) : Prop where
  value : ∀ {text}, text <:+ document → Gives document Fault.IsPlain text (value n text)
  items : ∀ {got text}, (Short document → Value.anyLongNumber got = false) →
    text <:+ document → Gives document Fault.IsPlain text (items n got text)
  pairs : ∀ {got marks text}, (Short document → Value.entriesLongNumber got = false) →
    text <:+ document → Gives document Fault.IsPlain text (pairs n got marks text)

theorem readsWithin_zero (document : List Char) : ReadsWithin document 0 where
  value _ := by simp [Toml.value]
  items _ _ := by simp [Toml.items]
  pairs _ _ := by simp [Toml.pairs]

theorem value_gives {n : Nat} (ih : ReadsWithin document n) (h : text <:+ document) :
    Gives document Fault.IsPlain text (value (n + 1) text) := by
  unfold value
  dsimp only
  split
  · exact .after (multiline_leaves false _) fun _ hfound =>
      ⟨fun _ => rfl, hfound.trans ⟨['"', '"', '"'], rfl⟩⟩
  · exact .after (basic_leaves false _) fun _ hfound =>
      ⟨fun _ => rfl, hfound.trans (List.suffix_cons _ _)⟩
  · exact .after (multiline_leaves true _) fun _ hfound =>
      ⟨fun _ => rfl, hfound.trans ⟨['\'', '\'', '\''], rfl⟩⟩
  · exact .after (literalUntil_leaves _ _ _) fun _ hfound =>
      ⟨fun _ => rfl, hfound.trans (List.suffix_cons _ _)⟩
  · rename_i rest
    refine .after (skipFiller_ends _ rest) fun inside hinside => ?_
    have hinside := hinside.trans (List.suffix_cons '[' rest)
    split
    · exact ⟨fun _ => rfl, (List.suffix_cons _ _).trans hinside⟩
    · exact (ih.items (fun _ => rfl) (hinside.trans h)).suffix hinside
  · rename_i rest
    have hspace := (skipSpace_suffix rest).trans (List.suffix_cons '{' rest)
    split
    · rename_i behind heq
      rw [heq] at hspace
      exact ⟨fun _ => rfl, (List.suffix_cons _ _).trans hspace⟩
    · exact (ih.pairs (fun _ => rfl) (hspace.trans h)).suffix hspace
  · exact scalar_gives h

theorem items_gives {n : Nat} (ih : ReadsWithin document n) {got : List Value}
    (hgot : Short document → Value.anyLongNumber got = false) (h : text <:+ document) :
    Gives document Fault.IsPlain text (items (n + 1) got text) := by
  unfold items
  refine (ih.value h).bind fun found hfound => ?_
  have hmore (hshort : Short document) : Value.anyLongNumber (found.1 :: got) = false := by
    simp [Value.anyLongNumber, hfound.1 hshort, hgot hshort]
  have harray (hshort : Short document) :
      (Value.array (found.1 :: got).reverse).hasLongNumber = false :=
    Value.hasLongNumber_array.mpr fun v hv =>
      Value.anyLongNumber_eq_false.mp (hmore hshort) v (List.mem_reverse.mp hv)
  dsimp only
  refine Gives.after (skipFiller_ends _ found.2) fun rest hrest => ?_
  have hrest := hrest.trans hfound.2
  split
  · exact ⟨harray, (List.suffix_cons _ _).trans hrest⟩
  · rename_i more _
    refine .after (skipFiller_ends _ more) fun next hnext => ?_
    have hnext := hnext.trans ((List.suffix_cons _ _).trans hrest)
    split
    · exact ⟨harray, (List.suffix_cons _ _).trans hnext⟩
    · exact (ih.items hmore (hnext.trans h)).suffix hnext
  · simp

theorem pairs_gives {n : Nat} (ih : ReadsWithin document n) {got : Entries} {marks : Marks}
    (hgot : Short document → Value.entriesLongNumber got = false) (h : text <:+ document) :
    Gives document Fault.IsPlain text (pairs (n + 1) got marks text) := by
  unfold pairs
  refine .after (key_leaves text) fun found hfound => ?_
  obtain ⟨k, rest⟩ := found
  dsimp only at hfound ⊢
  split
  · rename_i rest
    have hrest := (skipSpace_suffix rest).trans ((List.suffix_cons _ _).trans hfound)
    refine ((ih.value (hrest.trans h)).suffix hrest).bind fun next hnext => ?_
    split
    · simp
    split
    · simp
    split
    · simp
    · rename_i changed hchanged
      have hplain (hshort : Short document) : Value.entriesLongNumber changed = false :=
        isPlainChange_changeAt (isPlainChange_addKey (hnext.1 hshort)) _ (hgot hshort) hchanged
      have hbehind := (skipSpace_suffix next.2).trans hnext.2
      split
      · rename_i behind heq
        rw [heq] at hbehind
        exact ⟨hplain, (List.suffix_cons _ _).trans hbehind⟩
      · rename_i more heq
        rw [heq] at hbehind
        have hmore := (skipSpace_suffix more).trans ((List.suffix_cons _ _).trans hbehind)
        exact (ih.pairs hplain (hmore.trans h)).suffix hmore
      · simp
  · simp

theorem readsWithin (document : List Char) (n : Nat) : ReadsWithin document n := by
  induction n with
  | zero => exact readsWithin_zero document
  | succ n ih => exact ⟨value_gives ih, items_gives ih, pairs_gives ih⟩

/-! ## Documents -/

/-- A statement leaves a table without long numbers, and an end of the
text. -/
abbrev Keeps (text : List Char) (x : Except Fault (State × List Char)) : Prop :=
  Ends Fault.IsPlain (fun r => Value.entriesLongNumber r.1.table = false ∧ r.2 <:+ text) x

theorem passThrough_ends (rest : List Char) (paths : List Key) (marks : Marks) :
    Ends Fault.IsPlain (fun _ => True) (passThrough rest paths marks) := by
  fun_induction passThrough rest paths marks with
  | case1 => trivial
  | case2 marks path more hclosed => simp
  | case3 marks path more hclosed ih => exact ih

theorem assignment_keeps {s : State} (hs : Value.entriesLongNumber s.table = false)
    (h : Short text) : Keeps text (assignment s text) := by
  unfold assignment
  refine (key_leaves text).bind fun found hfound => ?_
  obtain ⟨k, rest⟩ := found
  dsimp only at hfound ⊢
  split
  · rename_i rest
    have hrest := (skipSpace_suffix rest).trans ((List.suffix_cons _ _).trans hfound)
    refine (((readsWithin text _).value hrest).of_short h).bind fun next hnext => ?_
    refine (passThrough_ends _ _ _).bind fun marks _ => ?_
    split
    · simp
    split
    · simp
    · rename_i table htable
      exact ⟨isPlainChange_changeAt (isPlainChange_addKey hnext.1) _ hs htable,
        hnext.2.trans hrest⟩
  · simp

theorem tableHeader_keeps {s : State} (hs : Value.entriesLongNumber s.table = false)
    (text : List Char) : Keeps text (tableHeader s text) := by
  unfold tableHeader
  refine (key_leaves (skipSpace text)).bind fun found hfound => ?_
  obtain ⟨k, rest⟩ := found
  have hfound := List.IsSuffix.trans hfound (skipSpace_suffix text)
  dsimp only at hfound ⊢
  split
  · simp
  split
  · simp
  · rename_i table htable
    split
    · exact ⟨isPlainChange_changeAt isPlainChange_some _ hs htable,
        (List.suffix_cons _ _).trans hfound⟩
    · simp

theorem itemHeader_keeps {s : State} (hs : Value.entriesLongNumber s.table = false)
    (text : List Char) : Keeps text (itemHeader s text) := by
  unfold itemHeader
  refine (key_leaves (skipSpace text)).bind fun found hfound => ?_
  obtain ⟨k, rest⟩ := found
  have hfound := List.IsSuffix.trans hfound (skipSpace_suffix text)
  dsimp only at hfound ⊢
  split
  · simp
  split
  · simp
  · rename_i table htable
    split
    · rename_i behind
      exact ⟨isPlainChange_changeAt (isPlainChange_addItem _) _ hs htable,
        List.IsSuffix.trans ⟨[']', ']'], rfl⟩ hfound⟩
    · simp

/-- What is done behind a statement: a comment may follow, and then the line
has to end. -/
def finishLine (n : Nat) (found : State × List Char) : Except Fault Entries := do
  match ← skipComment found.2 with
  | [] => .ok found.1.table
  | '\n' :: more => statements n found.1 more
  | other => stop .lineEnd other

theorem statements_ends (n : Nat) {s : State} (hs : Value.entriesLongNumber s.table = false)
    (h : Short text) :
    Ends Fault.IsPlain (fun entries => Value.entriesLongNumber entries = false)
      (statements n s text) := by
  induction n generalizing s text with
  | zero => exact hs
  | succ n ih =>
    unfold statements
    have hspace := skipSpace_suffix text
    dsimp only
    split
    · exact hs
    · rename_i rest heq
      rw [heq] at hspace
      exact ih hs (h.suffix ((List.suffix_cons _ _).trans hspace))
    · rename_i c rest _ heq
      rw [heq] at hspace
      have hfinish : ∀ found : State × List Char,
          Value.entriesLongNumber found.1.table = false ∧ found.2 <:+ text →
          Ends Fault.IsPlain (fun entries => Value.entriesLongNumber entries = false)
            (finishLine n found) := by
        rintro ⟨s, rest⟩ ⟨hs, hrest⟩
        refine (skipComment_ends rest).bind fun behind hbehind => ?_
        have hbehind := hbehind.trans hrest
        split
        · exact hs
        · exact ih hs (h.suffix ((List.suffix_cons _ _).trans hbehind))
        · simp
      have hspaced : ∀ {front : List Char}, front <:+ text → ∀ found : State × List Char,
          Value.entriesLongNumber found.1.table = false ∧ found.2 <:+ front → _ :=
        fun hfront found hfound => hfinish (found.1, skipSpace found.2)
          ⟨hfound.1, ((skipSpace_suffix found.2).trans hfound.2).trans hfront⟩
      split
      · exact (assignment_keeps hs (h.suffix hspace)).bind (hspaced hspace)
      split
      · split
        · rename_i inner
          have hinner : inner <:+ text := List.IsSuffix.trans ⟨[c, '['], rfl⟩ hspace
          exact (itemHeader_keeps (s := { s with marks := s.marks.settle }) hs inner).bind
            (hspaced hinner)
        · exact (tableHeader_keeps (s := { s with marks := s.marks.settle }) hs rest).bind
            (hspaced ((List.suffix_cons c rest).trans hspace))
      split
      · exact hfinish (s, c :: rest) ⟨hs, hspace⟩
      · exact (ends_stop.mpr fun _ => Problem.noConfusion).bind hfinish

/-- **A document without long rows of digits has no number that is too
long.** -/
theorem read_ends (h : Short text) :
    Ends Fault.IsPlain (fun entries => Value.entriesLongNumber entries = false) (read text) :=
  statements_ends _ rfl h

end ImportPolicy.Document.Toml
