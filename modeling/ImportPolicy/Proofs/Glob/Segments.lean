import ImportPolicy.Proofs.Glob.Match
import ImportPolicy.Proofs.Text.Lines

/-!
# Paths and their segments

A path is its segments with slashes between them, and nothing is lost when it
is split: two paths with the same segments are the same (`segments_inj`), and
a row of segments without slashes is the row of the path that they make up
(`segments_joined`).

A pattern that starts neither with an exclamation mark nor with a number sign
is asked about its expansions alone (`isMatch_of_expand`). The empty pattern
is no exception to this, although the matcher has an answer of its own for
it: its one segment is empty, and so only the empty path matches.
-/

namespace ImportPolicy.Glob

/-! ## Segments -/

theorem segments_ne_nil (path : List Char) : segments path ≠ [] :=
  Text.pieces_ne_nil _ _

theorem segments_slash (path : List Char) : segments ('/' :: path) = [] :: segments path :=
  Text.pieces_cons_self '/' path

theorem segments_append_slash (path rest : List Char) :
    segments (path ++ '/' :: rest) = segments path ++ segments rest := by
  unfold segments
  simp only [Text.pieces_eq_splitOn, List.splitOn_append_cons_self]

/-- The path that segments make up. -/
def joined (names : List (List Char)) : List Char := List.intercalate ['/'] names

theorem joined_segments (path : List Char) : joined (segments path) = path := by
  unfold joined segments
  rw [Text.pieces_eq_splitOn, List.intercalate_splitOn]

theorem segments_joined {names : List (List Char)} (hne : names ≠ [])
    (hslash : ∀ name ∈ names, '/' ∉ name) : segments (joined names) = names := by
  unfold joined segments
  rw [Text.pieces_eq_splitOn, List.splitOn_intercalate _ hslash hne]

/-- A path is known by its segments. -/
theorem segments_inj {path other : List Char} : segments path = segments other ↔ path = other :=
  ⟨fun h => by rw [← joined_segments path, h, joined_segments], congrArg segments⟩

/-! ## Patterns that are no comments and not negated -/

theorem matchSegment_nil {name : List Char} : matchSegment name [] = true ↔ name = [] := by
  cases name with
  | nil => exact iff_of_true rfl rfl
  | cons c rest => simp [matchSegment, matchPieces, pieces, resolve, piecesWithin, Row.finish,
      Row.whole]

theorem matchPlain_nil {candidate : List Char} :
    matchPlain candidate [] = true ↔ candidate = [] := by
  rw [matchPlain_iff, show segments [] = [[]] from rfl, cut_singleton, ← segments_inj,
    show segments [] = [[]] from rfl]
  show IsOne (matchSegment · []) (segments candidate) ↔ _
  simp only [IsOne, matchSegment_nil, exists_eq_right]

/-- A pattern without marks at its start matches what one of its expansions
does. -/
theorem isMatch_of_expand {candidate pattern : String} {plain : List (List Char)}
    (hmark : pattern.toList.head? ≠ some '!') (hcomment : pattern.toList.head? ≠ some '#')
    (hplain : expand pattern.toList = .ok plain) :
    isMatch candidate pattern = .ok (plain.any (matchPlain candidate.toList)) := by
  have hjudge : judge candidate.toList pattern.toList
      = .ok (plain.any (matchPlain candidate.toList)) := by
    by_cases hne : pattern.toList = []
    · rw [hne] at hplain ⊢
      cases hplain
      rw [judge, List.any_cons, List.any_nil, Bool.or_false]
      refine congrArg Except.ok ?_
      rw [Bool.eq_iff_iff, matchPlain_nil, decide_eq_true_iff]
    · rw [judge_eq_ok hne hcomment (negation_of_head hmark) hplain, Bool.bne_false]
  unfold isMatch
  rw [hjudge]

/-- A pattern without marks at its start that cannot be expanded matches
nothing, if its items can be counted. -/
theorem isMatch_of_expand_error {candidate pattern : String} {e : Failure}
    (hmark : pattern.toList.head? ≠ some '!') (hcomment : pattern.toList.head? ≠ some '#')
    (he : e ≠ .overflow) (h : expand pattern.toList = .error e) :
    isMatch candidate pattern = .ok false := by
  have hjudge : judge candidate.toList pattern.toList = .error e := by
    unfold judge
    split
    · rename_i hempty
      rw [hempty] at h
      cases h
    · rename_i rest hhead
      rw [hhead] at hcomment
      exact absurd rfl hcomment
    · rw [negation_of_head hmark]
      simp only [h]
  unfold isMatch
  rw [hjudge]
  cases e with
  | overflow => exact absurd rfl he
  | patterns => rfl
  | items => rfl
  | digits count => rfl

end ImportPolicy.Glob
