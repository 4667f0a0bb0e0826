import ImportPolicy.Proofs.Glob.Cut

/-!
# What the pieces of a segment are

The pieces of a segment are read from left to right, each from where the last
one ended. The reader is given a number of steps, because a class ends at a
bracket that it has to look for; every piece takes up a character at least,
so the length of the segment is enough and the number can be forgotten
(`pieces_cons`).

A name matches a row of pieces if it can be cut so that every piece takes its
part (`matchPieces_iff`). A class without hyphens whose first character is no
exclamation mark holds just the characters between its brackets
(`CharClass.contains_ofInside`).
-/

namespace ImportPolicy.Glob

variable {name part rest inside behind : List Char}

/-! ## Rows of pieces -/

/-- The texts that a piece takes: any text for `*`, and one character that is
accepted for every other piece. -/
def Piece.Takes : Piece → List Char → Prop
  | .run => IsSkipped fun _ => true
  | p => IsOne p.accepts

theorem tells_pieceRow {p : Piece} {P : List Char → Prop} {row : Row}
    (h : Row.Tells P name row) : Row.Tells (Behind p.Takes P) name (p.row name row) := by
  cases p with
  | run => exact h.skipping
  | char c => exact h.single
  | any => exact h.single
  | oneOf k => exact h.single

/-- The rows of the pieces decide whether the name can be cut. -/
theorem matchPieces_iff {ps : List Piece} :
    matchPieces ps name = true ↔ Cut Piece.Takes name ps :=
  (Row.tells_foldr (fun _ _ _ h => tells_pieceRow h) ps).headD

/-! ## Reading -/

theorem untilBracket_eq_some (h : untilBracket rest = some (inside, behind)) :
    rest = inside ++ ']' :: behind := by
  induction rest generalizing inside with
  | nil => cases h
  | cons c more ih =>
    rw [untilBracket] at h
    split at h
    · rename_i hc
      cases h
      rw [hc]
      rfl
    · obtain ⟨⟨found, after⟩, hfound, heq⟩ := Option.map_eq_some_iff.mp h
      cases heq
      rw [ih hfound]
      rfl

/-- What is split at the bracket that closes a class has that bracket between
its parts. -/
theorem splitClass_eq_some (h : splitClass rest = some (inside, behind)) :
    rest = inside ++ ']' :: behind := by
  unfold splitClass at h
  split at h
  · obtain ⟨⟨found, after⟩, hfound, heq⟩ := Option.map_eq_some_iff.mp h
    cases heq
    rw [untilBracket_eq_some hfound]
    rfl
  · obtain ⟨⟨found, after⟩, hfound, heq⟩ := Option.map_eq_some_iff.mp h
    cases heq
    rw [untilBracket_eq_some hfound]
    rfl
  · exact untilBracket_eq_some h

theorem length_le_of_splitClass (h : splitClass rest = some (inside, behind)) :
    behind.length ≤ rest.length := by
  rw [splitClass_eq_some h, List.length_append, List.length_cons]
  omega

theorem piecesWithin_congr {n m : Nat} (hn : part.length ≤ n) (hm : part.length ≤ m) :
    piecesWithin n part = piecesWithin m part := by
  induction n generalizing part m with
  | zero =>
    obtain rfl := List.length_eq_zero_iff.mp (Nat.le_zero.mp hn)
    cases m <;> rfl
  | succ n ih =>
    cases part with
    | nil => cases m <;> rfl
    | cons c rest =>
      cases m with
      | zero => exact absurd hm (Nat.not_succ_le_zero _)
      | succ m =>
        have hn : rest.length ≤ n := Nat.le_of_succ_le_succ hn
        have hm : rest.length ≤ m := Nat.le_of_succ_le_succ hm
        unfold piecesWithin
        rw [ih hn hm]
        cases hclass : splitClass rest with
        | none => rfl
        | some found =>
          obtain ⟨inside, behind⟩ := found
          have hlength := length_le_of_splitClass hclass
          dsimp only
          rw [ih (Nat.le_trans hlength hn) (Nat.le_trans hlength hm)]

/-- **Pieces are read one after the other**, however many there are. -/
theorem pieces_cons (c : Char) (rest : List Char) :
    pieces (c :: rest)
      = if c = '*' then .run :: pieces rest
        else if c = '?' then .any :: pieces rest
        else if c = '[' then
          match splitClass rest with
          | some (inside, behind) => .oneOf (CharClass.ofInside inside) :: pieces behind
          | none => .char '[' :: pieces rest
        else .char c :: pieces rest := by
  unfold pieces
  rw [List.length_cons, piecesWithin]
  cases hclass : splitClass rest with
  | none => rfl
  | some found =>
    obtain ⟨inside, behind⟩ := found
    dsimp only
    rw [piecesWithin_congr (length_le_of_splitClass hclass) (Nat.le_refl behind.length)]

theorem pieces_class (h : splitClass rest = some (inside, behind)) :
    pieces ('[' :: rest) = .oneOf (CharClass.ofInside inside) :: pieces behind := by
  rw [pieces_cons, h]
  rfl

/-! ## Classes without hyphens -/

namespace CharClass

theorem chunksFrom_of_not_mem (least : Nat) (chunk : List Char) (h : '-' ∉ inside) :
    chunksFrom least chunk inside = [chunk.reverse ++ inside] := by
  induction inside generalizing chunk with
  | nil => simp [chunksFrom]
  | cons c more ih =>
    have hc : c ≠ '-' := fun hc => h (hc ▸ List.mem_cons_self)
    rw [chunksFrom, if_neg (fun hyphen => hc hyphen.1),
      ih _ (fun hmore => h (List.mem_cons_of_mem _ hmore))]
    simp

theorem rangesOf_map_char (chars : List Char) :
    rangesOf (chars.map .char) = chars.map fun c => (c, c) := by
  induction chars with
  | nil => rfl
  | cons c more ih =>
    rw [List.map_cons, List.map_cons, ← ih]
    cases more with
    | nil => rfl
    | cons d more => rfl

/-- Without hyphens there are no ranges but those of single characters. -/
theorem ofInside_of_not_mem (hhyphen : '-' ∉ inside) (hmark : inside.head? ≠ some '!') :
    ofInside inside = ⟨false, inside.map fun c => (c, c)⟩ := by
  have hmarks : marks (dropEmpty (chunks inside)) = inside.map .char := by
    rw [chunks, chunksFrom_of_not_mem _ _ hhyphen]
    rfl
  unfold ofInside
  rw [hmarks]
  split
  · rename_i heq
    cases inside with
    | nil => cases heq
    | cons c more =>
      cases heq
      exact absurd rfl hmark
  · rw [rangesOf_map_char]

/-- Ranges of single characters hold just these. -/
theorem any_ranges_iff (chars : List Char) (c : Char) :
    (chars.map fun d => (d, d)).any (fun (low, high) => low ≤ c && c ≤ high) = true
      ↔ c ∈ chars := by
  rw [List.any_map, List.any_eq_true]
  constructor
  · rintro ⟨d, hd, hrange⟩
    simp only [Function.comp_apply, Bool.and_eq_true, decide_eq_true_eq] at hrange
    rwa [Char.le_antisymm hrange.2 hrange.1]
  · intro hc
    exact ⟨c, hc, by simp⟩

theorem contains_ofInside (hhyphen : '-' ∉ inside) (hmark : inside.head? ≠ some '!') (c : Char) :
    (ofInside inside).contains c = true ↔ c ∈ inside := by
  rw [ofInside_of_not_mem hhyphen hmark, contains, Bool.false_bne, any_ranges_iff]

/-- Behind an exclamation mark there are the characters that are left out. -/
theorem contains_ofInside_mark (hhyphen : '-' ∉ inside) (c : Char) :
    (ofInside ('!' :: inside)).contains c = true ↔ c ∉ inside := by
  have hmarks : marks (dropEmpty (chunks ('!' :: inside))) = .char '!' :: inside.map .char := by
    rw [chunks, chunksFrom_of_not_mem _ _ (by simp [hhyphen])]
    rfl
  unfold ofInside
  rw [hmarks]
  show contains ⟨true, rangesOf (inside.map .char)⟩ c = true ↔ _
  rw [rangesOf_map_char, contains, Bool.true_bne, Bool.not_eq_true', ← Bool.not_eq_true,
    any_ranges_iff]

end CharClass

end ImportPolicy.Glob
