import Mathlib.Data.Nat.Digits.Lemmas
import ImportPolicy.Proofs.Glob.BraceExpansion

/-!
# Expansion makes patterns shorter

A step of the expansion puts a part in the place of its group and reads the
whole again, so nothing can be said of the braces that are left: a part can
hold braces of its own, and an item of a sequence can be a backslash that
takes the meaning from the brace behind it. What does go down is the *length*
of the pattern, by three characters at least (`length_replacedBy`).

For alternatives this is plain, since two braces and a comma go away. An item
of a sequence is not a piece of the pattern but is written anew, and it could
be longer than its group if a number between two others could have more
digits than both. It cannot (`length_decimal_le`), and neither do signs and
leading zeros help: what is read has as many characters as its digits and
its sign, and what is written has no more.

The module starts with the converse of the scanners: what a group, its parts
and the ends of a sequence say about the text they were read from, for every
pattern, balanced or not.
-/

namespace ImportPolicy.Glob

variable {pattern body behind part : List Char} {parts : List (List Char)}

/-! ## What a group says about the pattern -/

theorem eq_append_of_map {found : Option (List Char × List Char)} {rest : List Char}
    (chars : List Char)
    (hfound : ∀ {body behind}, found = some (body, behind) → rest = body ++ '}' :: behind)
    (h : (found.map fun (body, behind) => (chars ++ body, behind)) = some (body, behind)) :
    chars ++ rest = body ++ '}' :: behind := by
  obtain ⟨⟨inner, after⟩, hinner, heq⟩ := Option.map_eq_some_iff.mp h
  cases heq
  rw [hfound hinner, List.append_assoc]

/-- What is split at a closing brace has that brace between its parts. -/
theorem splitClose_eq_some {depth : Nat} {text : List Char}
    (h : splitClose depth text = some (body, behind)) : text = body ++ '}' :: behind := by
  fun_induction splitClose depth text generalizing body behind with
  | case1 => cases h
  | case2 => cases h
  | case3 depth c rest ih => exact eq_append_of_map ['\\', c] ih h
  | case4 depth rest ih => exact eq_append_of_map ['{'] ih h
  | case5 rest =>
    cases h
    rfl
  | case6 depth rest ih => exact eq_append_of_map ['}'] ih h
  | case7 depth c rest _ _ _ _ ih => exact eq_append_of_map [c] ih h

theorem intercalate_extendFirst (chars : List Char) (hne : parts ≠ []) :
    List.intercalate [','] (extendFirst chars parts)
      = chars ++ List.intercalate [','] parts := by
  obtain ⟨first, more, rfl⟩ := List.exists_cons_of_ne_nil hne
  cases more with
  | nil => simp [extendFirst]
  | cons next rest => simp [extendFirst, List.intercalate_cons_cons]

/-- Splitting a body loses nothing but the commas between the parts. -/
theorem intercalate_splitTop (depth : Int) (body : List Char) :
    List.intercalate [','] (splitTop depth body) = body := by
  have hextend : ∀ (chars : List Char) {depth : Int} {rest : List Char},
      List.intercalate [','] (splitTop depth rest) = rest →
      List.intercalate [','] (extendFirst chars (splitTop depth rest)) = chars ++ rest := by
    intro chars depth rest hrest
    rw [intercalate_extendFirst chars (splitTop_ne_nil depth rest), hrest]
  fun_induction splitTop depth body with
  | case1 => rfl
  | case2 depth c rest ih => exact hextend ['\\', c] ih
  | case3 depth rest _ ih => exact hextend ['{'] ih
  | case4 depth rest _ _ ih => exact hextend ['}'] ih
  | case5 depth c rest _ _ _ hcomma ih =>
    obtain ⟨first, more, hmore⟩ := List.exists_cons_of_ne_nil (splitTop_ne_nil depth rest)
    rw [hmore] at ih ⊢
    rw [List.intercalate_cons_cons, ih, hcomma.1]
    rfl
  | case6 depth c rest _ _ _ _ ih => exact hextend [c] ih

theorem partsOf_eq_error {e : Failure} (h : partsOf body = .error e) :
    sequence body = .error e := by
  unfold partsOf at h
  split at h
  · cases h
  · exact h

/-- A body has the parts it is cut into, if it is cut, and the items of a
sequence if not. -/
theorem partsOf_eq_some_iff :
    partsOf body = .ok (some parts)
      ↔ (2 ≤ parts.length ∧ parts = splitTop 0 body)
        ∨ (splitTop 0 body = [body] ∧ sequence body = .ok (some parts)) := by
  have hjoined := intercalate_splitTop 0 body
  unfold partsOf
  split
  · rename_i first second more hsplit
    rw [hsplit]
    constructor
    · intro h
      cases h
      exact .inl ⟨by simp, rfl⟩
    · rintro (⟨-, rfl⟩ | ⟨hone, -⟩)
      · rfl
      · simp at hone
  · rename_i hfew
    -- there is always a part, so it is the only one and the whole body
    obtain ⟨first, more, hsplit⟩ := List.exists_cons_of_ne_nil (splitTop_ne_nil 0 body)
    cases more with
    | cons second more => exact absurd hsplit (hfew first second more)
    | nil =>
      rw [hsplit, List.intercalate_singleton] at hjoined
      rw [hsplit, hjoined]
      constructor
      · exact fun h => .inr ⟨rfl, h⟩
      · rintro (⟨htwo, rfl⟩ | ⟨-, h⟩)
        · simp at htwo
        · exact h

/-- A pattern holds a body in braces that has the given failure. -/
def FailsIn (pattern : List Char) (e : Failure) : Prop :=
  ∃ before body behind, pattern = before ++ '{' :: (body ++ '}' :: behind)
    ∧ partsOf body = .error e

/-- A group that was found stands in the pattern: it has the parts of a body
in braces at its place. -/
def StandsIn (pattern : List Char) (found : Option Group) : Prop :=
  ∀ g ∈ found, ∃ body, pattern = g.before ++ '{' :: (body ++ '}' :: g.behind)
    ∧ partsOf body = .ok (some g.parts)

theorem ends_after {found : Except Failure (Option Group)} {rest : List Char}
    (chars : List Char)
    (h : Ends (FailsIn rest) (StandsIn rest) found) :
    Ends (FailsIn (chars ++ rest)) (StandsIn (chars ++ rest))
      (found >>= fun found => .ok (found.map (.after chars))) := by
  cases found with
  | error e =>
    obtain ⟨before, body, behind, rfl, hbody⟩ := h
    exact ⟨chars ++ before, body, behind, (List.append_assoc _ _ _).symm, hbody⟩
  | ok found =>
    intro g hg
    obtain ⟨inner, hinner, rfl⟩ := Option.map_eq_some_iff.mp hg
    obtain ⟨body, rfl, hbody⟩ := h inner hinner
    exact ⟨body, (List.append_assoc _ _ _).symm, hbody⟩

/-- What the search for a group ends in is about a body in braces that stands
in the pattern. -/
theorem findGroup_ends (pattern : List Char) :
    Ends (FailsIn pattern) (StandsIn pattern) (findGroup pattern) := by
  fun_induction findGroup pattern with
  | case1 => simp [StandsIn]
  | case2 => simp [StandsIn]
  | case3 c rest ih => exact ends_after ['\\', c] ih
  | case4 rest _ body behind hclose ih =>
    have hrest := splitClose_eq_some hclose
    cases hparts : partsOf body with
    | error e => exact ⟨[], body, behind, by rw [hrest]; rfl, hparts⟩
    | ok found =>
      cases found with
      | none => exact ends_after ['{'] ih
      | some parts =>
        intro g hg
        cases hg
        exact ⟨body, by rw [hrest]; rfl, hparts⟩
  | case5 rest _ hclose ih => exact ends_after ['{'] ih
  | case6 c rest _ _ ih => exact ends_after [c] ih

/-- A group that was found has the parts of a body in braces at its place. -/
theorem standsIn_of_findGroup {g : Group} (h : findGroup pattern = .ok (some g)) :
    ∃ body, pattern = g.before ++ '{' :: (body ++ '}' :: g.behind)
      ∧ partsOf body = .ok (some g.parts) := by
  have hends := findGroup_ends pattern
  rw [h] at hends
  exact hends g rfl

/-! ## What the ends of a sequence say about its body -/

/-- How many characters a numeral is written with. -/
def Numeral.width (n : Numeral) : Nat := n.digits.length + if n.negative then 1 else 0

/-- A numeral as it is read: there are digits, each of them below ten. -/
structure Numeral.IsRead (n : Numeral) : Prop where
  /-- There is a digit. -/
  digits_ne_nil : n.digits ≠ []
  /-- A digit is below ten. -/
  digit_lt : ∀ d ∈ n.digits, d < 10

theorem Numeral.IsRead.width_pos {n : Numeral} (h : n.IsRead) : 1 ≤ n.width :=
  Nat.le_add_right_of_le (List.length_pos_iff.mpr h.digits_ne_nil)

theorem digitValue?_lt {c : Char} {d : Nat} (h : Text.digitValue? c = some d) : d < 10 := by
  obtain ⟨base, hbase, rfl⟩ := Option.map_eq_some_iff.mp h
  have hrange := List.find?_some hbase
  simp only [Bool.and_eq_true, decide_eq_true_eq] at hrange
  omega

theorem takeDigits_eq {text rest : List Char} {digits : List Nat}
    (h : Numeral.takeDigits text = (digits, rest)) :
    digits.length + rest.length = text.length ∧ ∀ d ∈ digits, d < 10 := by
  fun_induction Numeral.takeDigits text generalizing digits rest with
  | case1 =>
    cases h
    simp
  | case2 c text d hd more behind htake ih =>
    cases h
    obtain ⟨hlength, hdigits⟩ := ih htake
    refine ⟨by simp only [List.length_cons]; omega, ?_⟩
    intro other hother
    obtain rfl | hother := List.mem_cons.mp hother
    · exact digitValue?_lt hd
    · exact hdigits other hother
  | case3 c text hd =>
    cases h
    simp

theorem read?_eq_some {text rest : List Char} {n : Numeral}
    (h : Numeral.read? text = some (n, rest)) :
    n.IsRead ∧ n.width + rest.length = text.length := by
  unfold Numeral.read? at h
  split at h
  rename_i negative digitText hsign
  split at h
  · cases h
  · rename_i digits behind hne htake
    cases h
    obtain ⟨hlength, hdigits⟩ := takeDigits_eq htake
    refine ⟨⟨hne, hdigits⟩, ?_⟩
    unfold Numeral.width
    split at hsign
    · cases hsign
      simp
      omega
    · cases hsign
      simp
      omega

theorem readNumbers?_eq_some {first last : Numeral} {step : Option Numeral}
    (h : readNumbers? body = some (first, last, step)) :
    first.IsRead ∧ last.IsRead ∧ first.width + last.width + 2 ≤ body.length := by
  unfold readNumbers? at h
  obtain ⟨⟨n, behindFirst⟩, hfirst, h⟩ := Option.bind_eq_some_iff.mp h
  obtain ⟨behindDots, hdots, h⟩ := Option.bind_eq_some_iff.mp h
  obtain ⟨⟨m, behindLast⟩, hlast, h⟩ := Option.bind_eq_some_iff.mp h
  obtain ⟨found, -, h⟩ := Option.bind_eq_some_iff.mp h
  cases h
  obtain ⟨hn, hfirstLength⟩ := read?_eq_some hfirst
  obtain ⟨hm, hlastLength⟩ := read?_eq_some hlast
  refine ⟨hn, hm, ?_⟩
  have hdotsLength : behindDots.length + 2 = behindFirst.length := by
    unfold behindDots? at hdots
    split at hdots
    · cases hdots
      rfl
    · cases hdots
  omega

theorem readLetters?_eq_some {first last : Char} {step : Option Numeral}
    (h : readLetters? body = some (first, last, step)) :
    isLetter first = true ∧ isLetter last = true ∧ 4 ≤ body.length := by
  unfold readLetters? at h
  split at h
  · split at h
    · rename_i hletters
      obtain ⟨found, -, h⟩ := Option.bind_eq_some_iff.mp h
      cases h
      rw [Bool.and_eq_true] at hletters
      exact ⟨hletters.1, hletters.2, by simp⟩
    · cases h
  · cases h

theorem value_eq_ok {n : Numeral} {v : Int} (h : n.value = .ok v) :
    v = if n.negative then -(Numeral.natOf n.digits : Int) else Numeral.natOf n.digits := by
  unfold Numeral.value at h
  split at h
  · cases h
  · split at h
    · rename_i hnegative
      rw [if_pos hnegative]
      exact (Except.ok.inj h).symm
    · rename_i hnegative
      rw [if_neg hnegative]
      exact (Except.ok.inj h).symm

/-- Digits stand for a number below the power of ten that they reach. -/
theorem Numeral.IsRead.natOf_lt {n : Numeral} (h : n.IsRead) :
    Numeral.natOf n.digits < 10 ^ n.digits.length := by
  rw [natOf_eq_ofDigits, ← List.length_reverse]
  exact Nat.ofDigits_lt_base_pow_length (by decide)
    (fun d hd => h.digit_lt d (List.mem_reverse.mp hd))

/-! ## What is written is no longer than what was read -/

/-- A number that is no further from zero than one that was read, on the same
side, is written with no more characters. -/
theorem length_decimal_le_width {n : Numeral} (hn : n.IsRead) {v m : Int}
    (hv : n.value = .ok v) (h : (0 ≤ m ∧ m ≤ v) ∨ (v ≤ m ∧ m < 0)) :
    (decimal m).length ≤ n.width := by
  have hvalue := value_eq_ok hv
  have hdigits : (Nat.toDigits 10 m.natAbs).length ≤ n.digits.length := by
    rw [Nat.length_toDigits_le_iff (by decide) (List.length_pos_iff.mpr hn.digits_ne_nil)]
    refine Nat.lt_of_le_of_lt ?_ hn.natOf_lt
    split at hvalue
    · omega
    · omega
  unfold decimal Numeral.width
  by_cases hm : m < 0
  · -- only what is read with a sign is below zero
    have hnegative : n.negative = true := by
      by_contra hpositive
      rw [if_neg hpositive] at hvalue
      omega
    rw [if_pos hm, if_pos hnegative, List.length_cons]
    omega
  · rw [if_neg hm]
    omega

/-- A number between two that were read is written with no more characters
than one of them. -/
theorem length_decimal_le {first last : Numeral} (hfirst : first.IsRead) (hlast : last.IsRead)
    {low high m : Int} (hlow : first.value = .ok low) (hhigh : last.value = .ok high)
    (h : min low high ≤ m ∧ m ≤ max low high) :
    (decimal m).length ≤ max first.width last.width := by
  have hside : ((0 ≤ m ∧ m ≤ low) ∨ (low ≤ m ∧ m < 0))
      ∨ ((0 ≤ m ∧ m ≤ high) ∨ (high ≤ m ∧ m < 0)) := by omega
  obtain hside | hside := hside
  · exact (length_decimal_le_width hfirst hlow hside).trans (Nat.le_max_left _ _)
  · exact (length_decimal_le_width hlast hhigh hside).trans (Nat.le_max_right _ _)

theorem progression_eq_ok {first last : Int} {step : Nat} {items : List Int}
    (h : progression first last step = .ok items) : items = between first last step := by
  unfold progression at h
  dsimp only at h
  split at h
  · cases h
  split at h
  · cases h
  · rw [between_eq_map_range]
    exact (Except.ok.inj h).symm

/-- What the items of a sequence are: the numbers between two that were read,
written anew, or the characters between two letters. -/
theorem sequence_eq_some {items : List (List Char)} (h : sequence body = .ok (some items)) :
    (∃ first last step low high size, readNumbers? body = some (first, last, step)
      ∧ first.value = .ok low ∧ last.value = .ok high
      ∧ items = (between low high size).map decimal)
    ∨ ∃ first last step size, readLetters? body = some (first, last, step)
      ∧ items = (between first.toNat last.toNat size).map fun n => [Char.ofNat n.toNat] := by
  unfold sequence at h
  split at h
  · rename_i first last step hread
    obtain ⟨low, hlow, h⟩ := bind_eq_ok.mp h
    obtain ⟨high, hhigh, h⟩ := bind_eq_ok.mp h
    obtain ⟨size, -, h⟩ := bind_eq_ok.mp h
    obtain ⟨numbers, hnumbers, h⟩ := bind_eq_ok.mp h
    cases h
    rw [progression_eq_ok hnumbers]
    exact .inl ⟨first, last, step, low, high, size, hread, hlow, hhigh, rfl⟩
  · split at h
    · rename_i first last step hread
      obtain ⟨size, -, h⟩ := bind_eq_ok.mp h
      obtain ⟨numbers, hnumbers, h⟩ := bind_eq_ok.mp h
      cases h
      rw [progression_eq_ok hnumbers]
      exact .inr ⟨first, last, step, size, hread, rfl⟩
    · cases h

/-- An item of a sequence is shorter than the body of the sequence, by the
dots and a numeral or a letter. -/
theorem length_item_le {items : List (List Char)} {item : List Char}
    (h : sequence body = .ok (some items)) (hitem : item ∈ items) :
    item.length + 3 ≤ body.length := by
  obtain ⟨first, last, step, low, high, size, hread, hlow, hhigh, rfl⟩
    | ⟨first, last, step, size, hread, rfl⟩ := sequence_eq_some h
  · obtain ⟨hfirst, hlast, hlength⟩ := readNumbers?_eq_some hread
    obtain ⟨m, hm, rfl⟩ := List.mem_map.mp hitem
    have hwritten := length_decimal_le hfirst hlast hlow hhigh (mem_between hm)
    have hfirstPos := hfirst.width_pos
    have hlastPos := hlast.width_pos
    omega
  · obtain ⟨-, -, hlength⟩ := readLetters?_eq_some hread
    obtain ⟨m, -, rfl⟩ := List.mem_map.mp hitem
    exact hlength

/-- A part of some parts with commas between them leaves room for a comma. -/
theorem length_lt_length_intercalate (hparts : 2 ≤ parts.length) (h : part ∈ parts) :
    part.length < (List.intercalate [','] parts).length := by
  match parts with
  | first :: next :: rest =>
    rw [List.intercalate_cons_cons, List.length_append, List.length_append]
    obtain rfl | h := List.mem_cons.mp h
    · simp only [List.length_singleton]
      omega
    · have hle := BraceTree.length_le_length_intercalate h
      simp only [List.length_singleton]
      omega

theorem length_part_lt (h : partsOf body = .ok (some parts)) (hpart : part ∈ parts) :
    part.length < body.length := by
  obtain ⟨htwo, rfl⟩ | ⟨-, hsequence⟩ := partsOf_eq_some_iff.mp h
  · have hlength := length_lt_length_intercalate htwo hpart
    rwa [intercalate_splitTop] at hlength
  · have hitem := length_item_le hsequence hpart
    omega

/-- **Each step of an expansion makes the pattern shorter**, whatever the
pattern is: with a part in the place of its group, three characters or more
are gone. -/
theorem length_replacedBy {g : Group} (h : findGroup pattern = .ok (some g))
    (hpart : part ∈ g.parts) : (g.replacedBy part).length + 3 ≤ pattern.length := by
  obtain ⟨body, hpattern, hparts⟩ := standsIn_of_findGroup h
  have hlength := length_part_lt hparts hpart
  rw [hpattern, Group.replacedBy]
  simp only [List.length_append, List.length_cons]
  omega

/-! ## The steps are enough -/

theorem gather_congr {expansion other : List Char → Except Failure (List (List Char))}
    {patterns : List (List Char)} (h : ∀ p ∈ patterns, expansion p = other p)
    (got : List (List Char)) : gather expansion patterns got = gather other patterns got := by
  induction patterns generalizing got with
  | nil => rfl
  | cons p more ih =>
    have hmore := fun got => ih (fun q hq => h q (List.mem_cons_of_mem _ hq)) got
    rw [gather, gather, h p List.mem_cons_self]
    simp only [hmore]

/-- A change that is made to each pattern and to each text of its expansion
alike is made to what is gathered. -/
theorem gather_map {expansion other : List Char → Except Failure (List (List Char))}
    {change : List Char → List Char} {patterns : List (List Char)}
    (h : ∀ p ∈ patterns, expansion (change p) = List.map change <$> other p)
    (got : List (List Char)) :
    gather expansion (patterns.map change) (got.map change)
      = List.map change <$> gather other patterns got := by
  induction patterns generalizing got with
  | nil => rfl
  | cons p more ih =>
    rw [List.map_cons, gather, gather, h p List.mem_cons_self]
    cases other p with
    | error e => rfl
    | ok new =>
      show (if (got.map change ++ new.map change).length > mostPatterns then _ else _)
        = _ <$> (if (got ++ new).length > mostPatterns then _ else _)
      rw [← List.map_append, List.length_map]
      split
      · rfl
      · exact ih (fun q hq => h q (List.mem_cons_of_mem _ hq)) _

/-- More steps than the pattern has characters make no difference. -/
theorem expandWithin_congr {n m : Nat} (hn : pattern.length ≤ n) (hm : pattern.length ≤ m) :
    expandWithin n pattern = expandWithin m pattern := by
  have hnil : ∀ k, expandWithin k [] = .ok [[]] := fun k => by cases k <;> rfl
  induction n generalizing pattern m with
  | zero =>
    obtain rfl := List.length_eq_zero_iff.mp (Nat.le_zero.mp hn)
    rw [hnil, hnil]
  | succ n ih =>
    cases m with
    | zero =>
      obtain rfl := List.length_eq_zero_iff.mp (Nat.le_zero.mp hm)
      rw [hnil, hnil]
    | succ m =>
      rw [expandWithin, expandWithin]
      cases hfound : findGroup pattern with
      | error e => rfl
      | ok found =>
        cases found with
        | none => rfl
        | some g =>
          refine gather_congr (fun replaced hreplaced => ?_) []
          obtain ⟨part, hpart, rfl⟩ := List.mem_map.mp hreplaced
          have hshorter := length_replacedBy hfound hpart
          exact ih (by omega) (by omega)

theorem expandWithin_eq_expand {n : Nat} (hn : pattern.length ≤ n) :
    expandWithin n pattern = expand pattern :=
  expandWithin_congr hn (Nat.le_refl _)

/-- A pattern without a group that can be expanded stands for itself. -/
theorem expand_of_none (h : findGroup pattern = .ok none) : expand pattern = .ok [pattern] := by
  rw [← expandWithin_eq_expand (Nat.le_succ pattern.length), expandWithin, h]
  rfl

/-- A pattern whose search for a group fails has no expansion. -/
theorem expand_of_error {e : Failure} (h : findGroup pattern = .error e) :
    expand pattern = .error e := by
  rw [← expandWithin_eq_expand (Nat.le_succ pattern.length), expandWithin, h]
  rfl

/-- **A pattern with a group stands for what it stands for with each part in
the place of the group.** -/
theorem expand_of_some {g : Group} (h : findGroup pattern = .ok (some g)) :
    expand pattern = gather expand (g.parts.map g.replacedBy) [] := by
  rw [← expandWithin_eq_expand (Nat.le_succ pattern.length), expandWithin, h]
  refine gather_congr (fun replaced hreplaced => ?_) []
  obtain ⟨part, hpart, rfl⟩ := List.mem_map.mp hreplaced
  have hshorter := length_replacedBy h hpart
  exact expandWithin_eq_expand (by omega)

end ImportPolicy.Glob
