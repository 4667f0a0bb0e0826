import ImportPolicy.Proofs.Glob.Segments
import ImportPolicy.Proofs.Glob.Shrinking
import ImportPolicy.Proofs.Glob.Token

/-!
# Escaping

With a backslash before every character that has a meaning somewhere in a
pattern, any text becomes a pattern that matches this text and nothing else
(`isMatch_escaped`). The backslashes are read three times, each time by other
rules: by the search for groups, by the split into segments, which does not
look at them at all, and by the reading of a segment. So the text is followed
through the three stages. There is no group to expand (`settled_escaped`); a
slash is never escaped, so that the segments of the pattern are those of the
text, escaped one by one (`segments_escaped`); and an escaped segment is the
row of its characters as literal tokens (`tokens_escaped`), never `**`.
-/

namespace ImportPolicy.Glob

/-- Whether a character means something in a pattern: in a segment, to braces,
or at the start. -/
def isReserved (c : Char) : Bool :=
  c ∈ ['*', '?', '[', ']', '\\', '{', '}', '!', '#']

/-- A character with a backslash before it if it means something. -/
def escapedChar (c : Char) : List Char := if isReserved c then ['\\', c] else [c]

/-- A text with a backslash before every character that means something. -/
def escaped (text : List Char) : List Char := text.flatMap escapedChar

example : escaped "!a[*]/.b".toList = "\\!a\\[\\*\\]/.b".toList := rfl

variable {text candidate name : List Char}

theorem escaped_cons (c : Char) (rest : List Char) :
    escaped (c :: rest) = escapedChar c ++ escaped rest := List.flatMap_cons

theorem escapedChar_of_isReserved {c : Char} (h : isReserved c = true) :
    escapedChar c = ['\\', c] := if_pos h

theorem escapedChar_of_not_isReserved {c : Char} (h : ¬ isReserved c = true) :
    escapedChar c = [c] := if_neg h

theorem ne_of_not_isReserved {c d : Char} (h : ¬ isReserved c = true)
    (hd : isReserved d = true) : c ≠ d :=
  fun hc => h (hc ▸ hd)

/-- An escaped text starts with a backslash or with a character that means
nothing. -/
theorem head?_escaped (text : List Char) :
    (escaped text).head? = text.head?.map fun c => if isReserved c then '\\' else c := by
  cases text with
  | nil => rfl
  | cons c rest =>
    rw [escaped_cons, escapedChar]
    by_cases hc : isReserved c = true
    · simp [hc]
    · simp [hc]

theorem head?_escaped_ne {c : Char} (hc : isReserved c = true) (hback : c ≠ '\\') :
    (escaped text).head? ≠ some c := by
  rw [head?_escaped]
  intro h
  obtain ⟨d, -, hd⟩ := Option.map_eq_some_iff.mp h
  split at hd
  · exact hback hd.symm
  · rename_i hreserved
    exact ne_of_not_isReserved hreserved hc hd

/-! ## Groups -/

theorem settled_escaped (text : List Char) : Settled (escaped text) := by
  induction text with
  | nil => exact settled_nil
  | cons c rest ih =>
    rw [escaped_cons]
    refine Settled.append ?_ ih
    by_cases hc : isReserved c = true
    · rw [escapedChar_of_isReserved hc]
      exact settled_escape c
    · rw [escapedChar_of_not_isReserved hc]
      exact findGroup_cons (ne_of_not_isReserved hc rfl) (ne_of_not_isReserved hc rfl)

theorem expand_escaped (text : List Char) : expand (escaped text) = .ok [escaped text] := by
  have h := settled_escaped text []
  rw [List.append_nil] at h
  exact expand_of_none h

/-! ## Segments -/

theorem slash_not_mem_escapedChar {c : Char} (hc : c ≠ '/') : '/' ∉ escapedChar c := by
  unfold escapedChar
  split
  · simp [hc.symm]
  · simp [hc.symm]

/-- **Escaping goes segment by segment.** -/
theorem segments_escaped (text : List Char) :
    segments (escaped text) = (segments text).map escaped := by
  induction text with
  | nil => rfl
  | cons c rest ih =>
    rw [escaped_cons]
    by_cases hc : c = '/'
    · rw [hc, escapedChar_of_not_isReserved (by decide), List.singleton_append, segments_slash,
        segments_slash, ih]
      rfl
    · obtain ⟨first, more, hrest, heq⟩ := Text.pieces_cons_of_ne hc rest
      have hrest : segments rest = first :: more := hrest
      have heq : segments (c :: rest) = (c :: first) :: more := heq
      rw [hrest] at ih
      rw [heq, List.map_cons, escaped_cons]
      exact Text.pieces_append_of_not_mem (slash_not_mem_escapedChar hc) ih

theorem escaped_ne_globstar (text : List Char) : escaped text ≠ globstar := by
  intro h
  have hhead := congrArg List.head? h
  exact head?_escaped_ne (c := '*') rfl (by decide) hhead

/-! ## Tokens -/

theorem tokens_escapedChar (c : Char) (rest : List Char) :
    tokens (escapedChar c ++ rest) = .literal c :: tokens rest := by
  by_cases hc : isReserved c = true
  · rw [escapedChar_of_isReserved hc]
    rfl
  · rw [escapedChar_of_not_isReserved hc, List.singleton_append,
      tokens_cons (ne_of_not_isReserved hc rfl), Token.ofChar,
      if_neg (ne_of_not_isReserved hc rfl), if_neg (ne_of_not_isReserved hc rfl)]

theorem tokens_escaped (text : List Char) : tokens (escaped text) = text.map .literal := by
  induction text with
  | nil => rfl
  | cons c rest ih => rw [escaped_cons, tokens_escapedChar, ih, List.map_cons]

theorem opensNoClass_escapedChar (c : Char) (rest : List Char) :
    opensNoClass (escapedChar c ++ rest) = opensNoClass rest := by
  by_cases hc : isReserved c = true
  · rw [escapedChar_of_isReserved hc]
    rfl
  · rw [escapedChar_of_not_isReserved hc, List.singleton_append,
      opensNoClass_cons (ne_of_not_isReserved hc rfl)]
    simp [ne_of_not_isReserved hc (d := '[') rfl]

theorem opensNoClass_escaped (text : List Char) : opensNoClass (escaped text) = true := by
  induction text with
  | nil => rfl
  | cons c rest ih => rw [escaped_cons, opensNoClass_escapedChar, ih]

/-! ## Answers -/

theorem head?_escaped_eq_dot (text : List Char) :
    (escaped text).head? = some '.' ↔ text.head? = some '.' := by
  rw [head?_escaped, Option.map_eq_some_iff]
  constructor
  · rintro ⟨c, hc, hdot⟩
    split at hdot
    · exact absurd hdot (by decide)
    · rw [hc, hdot]
  · intro h
    exact ⟨'.', h, rfl⟩

theorem matchSegment_escaped : matchSegment name (escaped text) = true ↔ name = text := by
  have hliterals : Cut Token.Takes name (text.map .literal) ↔ name = text.map id :=
    cut_map_iff fun _ _ => Iff.rfl
  have hdot : isDotted (escaped text) = isDotted text :=
    decide_eq_decide.mpr (head?_escaped_eq_dot text)
  rw [matchSegment, Bool.and_eq_true, matchPieces_resolve_iff (opensNoClass_escaped text),
    tokens_escaped, hliterals, hdot, List.map_id]
  exact ⟨And.right, fun h => ⟨by rw [h, Bool.not_or_self], h⟩⟩

theorem matchPlain_escaped : matchPlain candidate (escaped text) = true ↔ candidate = text := by
  have htakes : ∀ name block, TakesNames (escaped name) block ↔ block = [name] := by
    intro name block
    rw [TakesNames, if_neg (escaped_ne_globstar name)]
    simp only [IsOne, matchSegment_escaped, exists_eq_right]
  have hcut : Cut TakesNames (segments candidate) ((segments text).map escaped)
      ↔ segments candidate = (segments text).map id := cut_map_iff htakes
  rw [matchPlain_iff, segments_escaped, hcut, List.map_id, segments_inj]

/-- **An escaped text matches itself and nothing else**, whatever is in it:
slashes and empty segments, dots at the start of segments, line breaks, and
everything that would otherwise be a group, a class, `**`, a comment or a
negation. -/
theorem isMatch_escaped (candidate text : String) :
    isMatch candidate (String.ofList (escaped text.toList))
      = .ok (decide (candidate = text)) := by
  have hchars : (String.ofList (escaped text.toList)).toList = escaped text.toList :=
    String.toList_ofList
  have hhead : ∀ c, isReserved c = true → c ≠ '\\' →
      (String.ofList (escaped text.toList)).toList.head? ≠ some c := by
    intro c hc hback
    rw [hchars]
    exact head?_escaped_ne hc hback
  have hplain : expand (String.ofList (escaped text.toList)).toList
      = .ok [escaped text.toList] := by
    rw [hchars, expand_escaped]
  rw [isMatch_of_expand (hhead '!' rfl (by decide)) (hhead '#' rfl (by decide)) hplain]
  refine congrArg Except.ok ?_
  rw [Bool.eq_iff_iff, List.any_cons, List.any_nil, Bool.or_false, matchPlain_escaped,
    decide_eq_true_iff, String.toList_inj]

end ImportPolicy.Glob
