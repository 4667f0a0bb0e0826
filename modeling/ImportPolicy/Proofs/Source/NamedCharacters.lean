import ImportPolicy.Source.StringLiteral

/-!
# Named characters in string literals

The table of names is no part of the program, so the question is how much
depends on it. A literal that names no character stands for the same text
with every table (`decode_congr`). A name that the table does not have is a
fault, with the place of the whole escape (`decode_unknown`), and this is so
with every table if the name is not spelled as names are
(`decode_misspelled`).
-/

namespace ImportPolicy

/-- What is not spelled as names are is in no table. -/
theorem CharacterNames.named?_eq_none (names : CharacterNames) {name : List Char} {c : Char}
    (hc : c ∈ name) (hspelled : isNameCharacter c = false) : names.named? name = none := by
  cases hnamed : names.named? name with
  | none => rfl
  | some ch =>
    have hall := List.all_eq_true.mp (names.all_isNameCharacter hnamed) c hc
    rw [hspelled] at hall
    cases hall

namespace Source.StringLiteral

variable {names other : CharacterNames} {name front body rest : List Char} {c : Char}

/-! ## One step -/

/-- A character that starts no escape stands for itself. -/
theorem decodeFrom_cons (hc : c ≠ '\\') (fuel pos : Nat) (rest : List Char) :
    decodeFrom names (fuel + 1) pos (c :: rest)
      = (c :: ·) <$> decodeFrom names fuel (pos + width c) rest := by
  rw [decodeFrom]
  · rfl
  · exact fun heq _ => hc heq
  · exact fun _ _ heq _ => hc heq

/-- What the name of a character stands for is up to the table. -/
theorem decodeFrom_named (hname : '}' ∉ name) (hne : name ≠ []) (fuel pos : Nat)
    (rest : List Char) :
    decodeFrom names (fuel + 1) pos ('\\' :: 'N' :: '{' :: (name ++ '}' :: rest))
      = match names.named? name with
        | none => .error (escapeFault pos (pos + 4 + widths name) "unknown Unicode character name")
        | some named => (named :: ·) <$> decodeFrom names fuel (pos + 4 + widths name) rest := by
  have htake : (name ++ '}' :: rest).takeWhile (· ≠ '}') = name := by
    rw [List.takeWhile_append_of_pos, List.takeWhile_cons_of_neg (by simp), List.append_nil]
    intro c hc
    exact decide_eq_true fun heq => hname (heq ▸ hc)
  have hdrop : (name ++ '}' :: rest).drop (name.length + 1) = rest := by simp
  have hclosed : name.length ≠ (name ++ '}' :: rest).length := by simp
  have hsome : ¬ name.isEmpty = true := by simpa using hne
  -- the letter starts none of the escapes that are looked for first
  have hletter : ¬ 'N'.toNat ≥ 128 ∧ ('N' == '\n') = false ∧ simpleEscape? 'N' = none
      ∧ isOctal 'N' = false := by decide
  simp only [decodeFrom, htake, hdrop, hclosed, hsome, hletter, if_false, Bool.false_eq_true]
  rfl

/-- An escape that names no character means the same with two tables, if the
ends of what is behind it do. -/
theorem decodeFrom_escape_congr {fuel : Nat}
    (hplain : ¬ ['\\', 'N', '{'] <+: '\\' :: c :: rest)
    (hrest : ∀ {tail}, tail <:+ c :: rest → ∀ pos,
      decodeFrom names fuel pos tail = decodeFrom other fuel pos tail) (pos : Nat) :
    decodeFrom names (fuel + 1) pos ('\\' :: c :: rest)
      = decodeFrom other (fuel + 1) pos ('\\' :: c :: rest) := by
  have hbehind := hrest (List.suffix_cons c rest)
  have hoctal := fun n => hrest (List.drop_suffix n (c :: rest))
  have hhex := fun n => hrest ((List.drop_suffix n rest).trans (List.suffix_cons c rest))
  by_cases hopen : ∃ behind, rest = '{' :: behind
  · obtain ⟨behind, rfl⟩ := hopen
    have hletter : c ≠ 'N' := by
      rintro rfl
      exact hplain ⟨behind, rfl⟩
    simp only [decodeFrom, hbehind, hoctal, hhex]
    split
    · rfl
    split
    · rfl
    split
    · rfl
    split
    · rfl
    split
    · rfl
    · rfl
    · rfl
    · exact absurd rfl hletter
    · rfl
  · have hclosed : ∀ behind, rest = '{' :: behind → False := fun behind heq => hopen ⟨behind, heq⟩
    simp only [decodeFrom, hbehind, hoctal, hhex]

/-! ## Whole literals -/

/-- Text without a backslash stands for itself. -/
theorem decodeFrom_append (h : '\\' ∉ front) (fuel pos : Nat) (rest : List Char) :
    decodeFrom names (fuel + front.length) pos (front ++ rest)
      = (front ++ ·) <$> decodeFrom names fuel (pos + widths front) rest := by
  induction front generalizing pos with
  | nil => exact (id_map (decodeFrom names fuel pos rest)).symm
  | cons c more ih =>
    obtain ⟨hc, hmore⟩ : '\\' ≠ c ∧ '\\' ∉ more := by simpa using h
    rw [List.length_cons, ← Nat.add_assoc, List.cons_append, decodeFrom_cons hc.symm, ih hmore,
      widths, Nat.add_assoc, ← comp_map]
    rfl

/-- **An unknown name is a fault.** It has the place of the escape, from the
backslash to the closing brace, whatever follows. -/
theorem decode_unknown (hfront : '\\' ∉ front) (hname : '}' ∉ name) (hne : name ≠ [])
    (hunknown : names.named? name = none) (rest : List Char) :
    decode names false (front ++ '\\' :: 'N' :: '{' :: (name ++ '}' :: rest))
      = .error (escapeFault (widths front) (widths front + 4 + widths name)
        "unknown Unicode character name") := by
  have hlength : (front ++ '\\' :: 'N' :: '{' :: (name ++ '}' :: rest)).length + 1
      = name.length + rest.length + 4 + 1 + front.length := by
    simp
    omega
  rw [decode, if_neg Bool.false_ne_true, hlength, decodeFrom_append hfront, Nat.zero_add,
    decodeFrom_named hname hne, hunknown]
  rfl

/-- A name with a character that no name has is a fault with every table. -/
theorem decode_misspelled (hfront : '\\' ∉ front) (hname : '}' ∉ name) (hc : c ∈ name)
    (hspelled : isNameCharacter c = false) (rest : List Char) :
    decode names false (front ++ '\\' :: 'N' :: '{' :: (name ++ '}' :: rest))
      = .error (escapeFault (widths front) (widths front + 4 + widths name)
        "unknown Unicode character name") :=
  decode_unknown hfront hname (List.ne_nil_of_mem hc) (names.named?_eq_none hc hspelled) rest

theorem decodeFrom_congr (h : ¬ ['\\', 'N', '{'] <:+: body) (fuel pos : Nat) :
    decodeFrom names fuel pos body = decodeFrom other fuel pos body := by
  induction fuel generalizing pos body with
  | zero => simp only [decodeFrom]
  | succ fuel ih =>
    -- no end of the literal names a character either
    have hrest : ∀ {tail}, tail <:+ body → ∀ pos,
        decodeFrom names fuel pos tail = decodeFrom other fuel pos tail :=
      fun htail => ih fun hname => h (hname.trans htail.isInfix)
    cases body with
    | nil => rfl
    | cons c rest =>
      have hbehind := @hrest rest (List.suffix_cons c rest)
      by_cases hc : c = '\\'
      · subst hc
        cases rest with
        | nil => rfl
        | cons c rest =>
          exact decodeFrom_escape_congr (fun hname => h hname.isInfix)
            (fun htail => hrest (htail.trans (List.suffix_cons _ _))) pos
      · rw [decodeFrom_cons hc, decodeFrom_cons hc, hbehind]

/-- **Only names of characters depend on the table**: a literal in which none
is written stands for the same with every table. -/
theorem decode_congr (names other : CharacterNames) (raw : Bool)
    (h : ¬ ['\\', 'N', '{'] <:+: body) : decode names raw body = decode other raw body := by
  rw [decode, decode, decodeFrom_congr h]

end Source.StringLiteral

end ImportPolicy
