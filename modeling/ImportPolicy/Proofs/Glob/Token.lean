import ImportPolicy.Glob.Path
import ImportPolicy.Proofs.Glob.Piece

/-!
# Segments as rows of tokens

A segment that opens no class means what it says from left to right. A
backslash and the character behind it are that character, a backslash at the
very end is itself, `*` stands for any text, `?` for any one character, and
every other character, a closing bracket among them, for itself.

The matcher comes to this by a detour. It first writes the escapes of
characters with a meaning as classes of one character, such as `[]]` or
`[[]`, and then reads the result, where brackets are classes again. So a
literal can come out as two kinds of pieces, and what the pieces have in
common with the tokens is only what they take (`agrees_tokens`).
-/

namespace ImportPolicy.Glob

variable {name part : List Char}

/-! ## Tokens -/

/-- A token of a segment. -/
inductive Token where
  /-- The character itself. -/
  | literal (c : Char)
  /-- Any one character. -/
  | one
  /-- Any text. -/
  | any
  deriving DecidableEq, Repr

namespace Token

/-- The texts that a token takes. -/
def Takes : Token → List Char → Prop
  | literal c, block => block = [c]
  | one, block => ∃ c, block = [c]
  | any, _ => True

/-- The token that a character is when there is no backslash before it. -/
def ofChar (c : Char) : Token :=
  if c = '*' then any else if c = '?' then one else literal c

end Token

/-- The tokens of a segment, from left to right. -/
def tokens : List Char → List Token
  | [] => []
  | '\\' :: c :: rest => .literal c :: tokens rest
  | c :: rest => .ofChar c :: tokens rest

/-- Whether a segment opens no class: every opening bracket in it has a
backslash before it. -/
def opensNoClass : List Char → Bool
  | [] => true
  | '\\' :: _ :: rest => opensNoClass rest
  | c :: rest => c ≠ '[' && opensNoClass rest

theorem tokens_cons {c : Char} (hback : c ≠ '\\') (rest : List Char) :
    tokens (c :: rest) = .ofChar c :: tokens rest := by
  rw [tokens]
  exact fun _ _ hc => absurd hc hback

theorem opensNoClass_cons {c : Char} (hback : c ≠ '\\') (rest : List Char) :
    opensNoClass (c :: rest) = (c ≠ '[' && opensNoClass rest) := by
  rw [opensNoClass]
  exact fun _ _ hc => absurd hc hback

/-! ## Tokens and pieces -/

/-- A token and a piece take the same texts. -/
def Token.Agrees (t : Token) (p : Piece) : Prop :=
  ∀ block, t.Takes block ↔ p.Takes block

theorem isSpecial_iff {c : Char} :
    isSpecial c = true ↔ c = '*' ∨ c = '?' ∨ c = '[' ∨ c = ']' ∨ c = '\\' := by
  unfold isSpecial
  exact decide_eq_true_iff

/-- The class that an escape is written as holds the escaped character. -/
theorem agrees_escaped {c : Char} (h : isSpecial c = true) :
    (Token.literal c).Agrees (.oneOf (CharClass.ofInside [c])) := by
  have hhyphen : '-' ∉ [c] := by
    rw [List.mem_singleton]
    rintro rfl
    exact absurd h (by decide)
  have hmark : [c].head? ≠ some '!' := by
    rintro hc
    cases hc
    exact absurd h (by decide)
  have hcontains : ∀ d, (CharClass.ofInside [c]).contains d = true ↔ d = c :=
    fun d => (CharClass.contains_ofInside hhyphen hmark d).trans List.mem_singleton
  intro block
  show block = [c] ↔ ∃ d, block = [d] ∧ (CharClass.ofInside [c]).contains d = true
  simp only [hcontains, exists_eq_right]

theorem pieces_escaped {c : Char} (h : isSpecial c = true) (rest : List Char) :
    pieces ('[' :: c :: ']' :: rest) = .oneOf (CharClass.ofInside [c]) :: pieces rest := by
  refine pieces_class ?_
  obtain rfl | rfl | rfl | rfl | rfl := isSpecial_iff.mp h
  all_goals rfl

/-- A character that opens no class is read as the piece of its token. -/
theorem pieces_ofChar {c : Char} (h : c ≠ '[') (rest : List Char) :
    ∃ p, pieces (c :: rest) = p :: pieces rest ∧ (Token.ofChar c).Agrees p := by
  rw [pieces_cons]
  unfold Token.ofChar
  by_cases hstar : c = '*'
  · rw [if_pos hstar, if_pos hstar]
    exact ⟨_, rfl, fun block => by simp [Token.Takes, Piece.Takes, IsSkipped]⟩
  by_cases hmark : c = '?'
  · rw [if_neg hstar, if_neg hstar, if_pos hmark, if_pos hmark]
    exact ⟨_, rfl, fun block => by simp [Token.Takes, Piece.Takes, IsOne, Piece.accepts]⟩
  · rw [if_neg hstar, if_neg hstar, if_neg hmark, if_neg hmark, if_neg h]
    exact ⟨_, rfl, fun block => by simp [Token.Takes, Piece.Takes, IsOne, Piece.accepts]⟩

theorem ofChar_of_not_isSpecial {c : Char} (h : ¬ isSpecial c = true) :
    Token.ofChar c = .literal c := by
  have hne : ∀ d, isSpecial d = true → c ≠ d := fun d hd hc => h (hc ▸ hd)
  unfold Token.ofChar
  rw [if_neg (hne '*' rfl), if_neg (hne '?' rfl)]

/-- **Token by token, the pieces of a segment take the same texts.** -/
theorem agrees_tokens (h : opensNoClass part = true) :
    List.Forall₂ Token.Agrees (tokens part) (pieces (resolve part)) := by
  fun_induction resolve part with
  | case1 => exact .nil
  | case2 c rest hspecial ih =>
    rw [tokens, pieces_escaped hspecial]
    exact .cons (agrees_escaped hspecial) (ih h)
  | case3 c rest hspecial ih =>
    have hclass : c ≠ '[' := fun hc => hspecial (hc ▸ rfl)
    obtain ⟨p, hp, hagrees⟩ := pieces_ofChar hclass (resolve rest)
    rw [tokens, hp, ← ofChar_of_not_isSpecial hspecial]
    exact .cons hagrees (ih h)
  | case4 rest ih => exact absurd h (by simp [opensNoClass])
  | case5 c rest hescape _ ih =>
    rw [opensNoClass, Bool.and_eq_true, decide_eq_true_eq] at h
    · obtain ⟨p, hp, hagrees⟩ := pieces_ofChar h.1 (resolve rest)
      rw [tokens, hp]
      · exact .cons hagrees (ih h.2)
      · exact hescape
    · exact hescape

/-! ## Names and tokens -/

/-- The pieces of a segment without classes match what its tokens take. -/
theorem matchPieces_resolve_iff (h : opensNoClass part = true) :
    matchPieces (pieces (resolve part)) name = true ↔ Cut Token.Takes name (tokens part) := by
  rw [matchPieces_iff, cut_congr (agrees_tokens h)]

/-- **A segment without classes matches by its tokens.** A name matches if it
does not start with a dot unless the segment does, and can be cut into one
text for each token, in order, that the token takes. -/
theorem matchSegment_iff_tokens (name part : List Char) (h : opensNoClass part = true) :
    matchSegment name part = true
      ↔ (name.head? = some '.' → part.head? = some '.')
        ∧ Cut Token.Takes name (tokens part) := by
  have hdot : (!isDotted name || isDotted part) = true
      ↔ (name.head? = some '.' → part.head? = some '.') := by
    simp [isDotted, imp_iff_not_or]
  rw [matchSegment, Bool.and_eq_true, hdot, matchPieces_resolve_iff h]

/-- An escaped star, a class that is never opened, two runs and a backslash at
the end. -/
theorem matchSegment_iff_tokens_escapes :
    opensNoClass "?\\**x]*\\".toList = true
      ∧ matchSegment ".*a.x]\\".toList "?\\**x]*\\".toList = false
      ∧ matchSegment "b*a.x]\\".toList "?\\**x]*\\".toList = true := by
  have h : opensNoClass "?\\**x]*\\".toList = true := by decide
  refine ⟨h, ?_, ?_⟩
  · rw [← Bool.not_eq_true, matchSegment_iff_tokens _ _ h]
    rintro ⟨hdot, -⟩
    exact absurd (hdot rfl) (by decide)
  · rw [matchSegment_iff_tokens _ _ h]
    refine ⟨by decide, ["b".toList, "*".toList, "a.".toList, "x".toList, "]".toList, [],
      "\\".toList], rfl, ?_⟩
    exact .cons ⟨'b', rfl⟩ (.cons rfl (.cons trivial (.cons rfl (.cons rfl (.cons trivial
      (.cons rfl .nil))))))

end ImportPolicy.Glob
