import ImportPolicy.Proofs.Glob.Depth
import ImportPolicy.Proofs.Glob.Expanded
import ImportPolicy.Proofs.Glob.Segments
import ImportPolicy.Proofs.Glob.Token

/-!
# Letters put in as text

The items of a sequence are put into the pattern as text. For numbers this
makes no difference, and neither does it for letters, as long as both ends are
of one case. But between `Z` and `a` there are six more characters, and three
of them mean something in a segment: the two brackets and the backslash.

The closing bracket is harmless. Where the text around the sequence opens no
class, there is none for it to close (`matchPlain_bracket`). The other two are
not: the opening bracket makes a class of what follows, if that has a bracket
to close it, and the backslash takes the next character as it is. If the next
character is a backslash itself, the one behind that comes free, and it may be
a brace; still no group comes of it, since one brace makes none
(`findGroup_backslash`). So a sequence stands for the patterns with one item
each in its place (`expand_letters`), and its meaning is theirs
(`isMatch_letters`).
-/

namespace ImportPolicy.Glob

variable {kind : Char → Bool} {text front back before behind : List Char}

/-! ## Texts that open nothing -/

/-- Whether all characters of a kind have a backslash before them. -/
def allEscaped (kind : Char → Bool) : List Char → Bool
  | [] => true
  | '\\' :: rest => match rest with
    | [] => true
    | _ :: rest => allEscaped kind rest
  | c :: rest => !kind c && allEscaped kind rest

/-- Whether a character is a brace or opens a class. -/
def opens (c : Char) : Bool := c = '{' ∨ c = '}' ∨ c = '['

theorem opens_eq_false {c : Char} : opens c = false ↔ c ≠ '{' ∧ c ≠ '}' ∧ c ≠ '[' := by
  unfold opens
  rw [decide_eq_false_iff_not, not_or, not_or]

theorem allEscaped_cons {c : Char} (hback : c ≠ '\\') (rest : List Char) :
    allEscaped kind (c :: rest) = (!kind c && allEscaped kind rest) := by
  rw [allEscaped]
  exact hback

theorem splitClose_of_allEscaped (h : allEscaped opens text = true) (depth : ℕ) :
    splitClose depth text = none := by
  fun_induction allEscaped opens text with
  | case1 => rfl
  | case2 => rfl
  | case3 c rest ih =>
    have hescape := closed_escape c depth rest
    rwa [ih h] at hescape
  | case4 c rest hback ih =>
    rw [Bool.and_eq_true, Bool.not_eq_true', opens_eq_false] at h
    obtain ⟨⟨hopen, hclose, -⟩, hrest⟩ := h
    have hsingle := closed_singleton hback hopen hclose depth rest
    rwa [ih hrest] at hsingle

theorem findGroup_of_allEscaped (h : allEscaped opens text = true) :
    findGroup text = .ok none := by
  fun_induction allEscaped opens text with
  | case1 => rfl
  | case2 => rfl
  | case3 c rest ih =>
    have hescape := settled_escape c rest
    rwa [ih h] at hescape
  | case4 c rest hback ih =>
    rw [Bool.and_eq_true, Bool.not_eq_true', opens_eq_false] at h
    obtain ⟨⟨hopen, -, -⟩, hrest⟩ := h
    rw [findGroup_cons hback hopen, ih hrest]
    rfl

/-- A backslash before the text takes the meaning from a backslash in it, and
so it can free a brace. One brace makes no group. -/
theorem findGroup_backslash (h : allEscaped opens text = true) :
    findGroup ('\\' :: text) = .ok none := by
  fun_induction allEscaped opens text with
  | case1 => rfl
  | case2 => rfl
  | case3 c rest ih =>
    have hnone : findGroup (c :: rest) = .ok none := by
      by_cases hback : c = '\\'
      · exact hback ▸ ih h
      by_cases hopen : c = '{'
      · rw [hopen, findGroup_unclosed (splitClose_of_allEscaped h 0), findGroup_of_allEscaped h]
        rfl
      · rw [findGroup_cons hback hopen, findGroup_of_allEscaped h]
        rfl
    have hescape := settled_escape '\\' (c :: rest)
    rwa [hnone] at hescape
  | case4 c rest hback ih =>
    rw [Bool.and_eq_true] at h
    have hescape := settled_escape c rest
    rwa [findGroup_of_allEscaped h.2] at hescape

theorem settled_of_allEscaped (hwhole : isWhole text = true) (h : allEscaped opens text = true) :
    Settled text := by
  fun_induction isWhole text with
  | case1 => exact settled_nil
  | case2 => cases hwhole
  | case3 c rest ih => exact (settled_escape c).append (ih hwhole h)
  | case4 c rest hback ih =>
    rw [allEscaped_cons hback, Bool.and_eq_true, Bool.not_eq_true', opens_eq_false] at h
    obtain ⟨⟨hopen, -, -⟩, hrest⟩ := h
    have hsingle : Settled [c] := findGroup_cons hback hopen
    exact hsingle.append (ih hwhole hrest)

theorem opensNoClass_of_allEscaped (h : allEscaped opens text = true) :
    opensNoClass text = true := by
  fun_induction allEscaped opens text with
  | case1 => rfl
  | case2 => rfl
  | case3 c rest ih => exact ih h
  | case4 c rest hback ih =>
    rw [Bool.and_eq_true, Bool.not_eq_true', opens_eq_false] at h
    rw [opensNoClass_cons hback, Bool.and_eq_true, decide_eq_true_iff]
    exact ⟨h.1.2.2, ih h.2⟩

/-! ## Parts of such texts -/

theorem allEscaped_of_append (h : allEscaped kind (front ++ back) = true) :
    allEscaped kind front = true := by
  induction front using allEscaped.induct with
  | case1 => rfl
  | case2 => rfl
  | case3 c rest ih => exact ih h
  | case4 c rest hback ih =>
    rw [List.cons_append, allEscaped_cons hback, Bool.and_eq_true] at h
    rw [allEscaped_cons hback, Bool.and_eq_true]
    exact ⟨h.1, ih h.2⟩

/-- Behind a slash a text is read from the start, also if a backslash is
before the slash. -/
theorem allEscaped_of_slash (h : allEscaped kind (front ++ '/' :: back) = true) :
    allEscaped kind back = true := by
  induction front using allEscaped.induct with
  | case1 =>
    rw [List.nil_append, allEscaped_cons (by decide), Bool.and_eq_true] at h
    exact h.2
  | case2 => exact h
  | case3 c rest ih => exact ih h
  | case4 c rest hback ih =>
    rw [List.cons_append, allEscaped_cons hback, Bool.and_eq_true] at h
    exact ih h.2

theorem isWhole_of_slash (h : isWhole (front ++ '/' :: back) = true) : isWhole back = true := by
  induction front using isWhole.induct with
  | case1 =>
    rwa [List.nil_append, isWhole_cons (by decide)] at h
  | case2 => exact h
  | case3 c rest ih => exact ih h
  | case4 c rest hback ih =>
    rw [List.cons_append, isWhole_cons hback] at h
    exact ih h

theorem tokens_append (h : isWhole front = true) (back : List Char) :
    tokens (front ++ back) = tokens front ++ tokens back := by
  fun_induction isWhole front with
  | case1 => rfl
  | case2 => cases h
  | case3 c rest ih => exact congrArg (Token.literal c :: ·) (ih h)
  | case4 c rest hback ih =>
    rw [List.cons_append, tokens_cons hback, tokens_cons hback, ih h, List.cons_append]

theorem opensNoClass_append (h : isWhole front = true) (back : List Char) :
    opensNoClass (front ++ back) = (opensNoClass front && opensNoClass back) := by
  fun_induction isWhole front with
  | case1 => rfl
  | case2 => cases h
  | case3 c rest ih => exact ih h
  | case4 c rest hback ih =>
    rw [List.cons_append, opensNoClass_cons hback, opensNoClass_cons hback, ih h, Bool.and_assoc]

/-! ## A bracket that closes nothing -/

/-- Two segments take the same names. -/
def SameNames (part other : List Char) : Prop :=
  ∀ block, TakesNames part block ↔ TakesNames other block

theorem sameNames_self (parts : List (List Char)) : List.Forall₂ SameNames parts parts :=
  List.forall₂_same.mpr fun _ _ _ => Iff.rfl

theorem matchPlain_congr {candidate pattern other : List Char}
    (h : List.Forall₂ SameNames (segments pattern) (segments other)) :
    matchPlain candidate pattern = matchPlain candidate other := by
  rw [Bool.eq_iff_iff, matchPlain_iff, matchPlain_iff, cut_congr h]

/-- Segments without classes take the same names if they have the same tokens
and the same start. -/
theorem sameNames_of_tokens {part other : List Char} (hpart : opensNoClass part = true)
    (hother : opensNoClass other = true) (htokens : tokens part = tokens other)
    (hdotted : isDotted part = isDotted other) (hstar : part = globstar ↔ other = globstar) :
    SameNames part other := by
  have hmatch : ∀ name, matchSegment name part = matchSegment name other := by
    intro name
    have hpieces : matchPieces (pieces (resolve part)) name
        = matchPieces (pieces (resolve other)) name := by
      rw [Bool.eq_iff_iff, matchPieces_resolve_iff hpart, matchPieces_resolve_iff hother, htokens]
    rw [matchSegment, matchSegment, hdotted, hpieces]
  intro block
  unfold TakesNames
  simp only [hstar, hmatch]

theorem exists_last_slash (text : List Char) :
    '/' ∉ text ∨ ∃ front back, text = front ++ '/' :: back ∧ '/' ∉ back := by
  induction text with
  | nil => exact .inl List.not_mem_nil
  | cons c rest ih =>
    obtain hrest | ⟨front, back, rfl, hback⟩ := ih
    · by_cases hc : c = '/'
      · exact .inr ⟨[], rest, by rw [hc]; rfl, hrest⟩
      · exact .inl (List.not_mem_cons_of_ne_of_not_mem (Ne.symm hc) hrest)
    · exact .inr ⟨c :: front, back, rfl, hback⟩

/-- What follows a text goes on with the last segment of the text, and what
was known of the text is known of that segment. -/
theorem exists_last_segment (hwhole : isWhole before = true)
    (h : allEscaped opens before = true) :
    ∃ whole last, isWhole last = true ∧ opensNoClass last = true
      ∧ ∀ {rest part more}, segments rest = part :: more →
        segments (before ++ rest) = whole ++ (last ++ part) :: more := by
  obtain hslash | ⟨front, last, rfl, hslash⟩ := exists_last_slash before
  · exact ⟨[], before, hwhole, opensNoClass_of_allEscaped h,
      fun hrest => Text.pieces_append_of_not_mem hslash hrest⟩
  · refine ⟨segments front, last, isWhole_of_slash hwhole,
      opensNoClass_of_allEscaped (allEscaped_of_slash h), fun {rest part more} hrest => ?_⟩
    have hlast : segments (last ++ rest) = (last ++ part) :: more :=
      Text.pieces_append_of_not_mem hslash hrest
    rw [List.append_assoc, List.cons_append, segments_append_slash, hlast]

/-- The first segment of a text is its start. -/
theorem opensNoClass_first {part : List Char} {more : List (List Char)}
    (h : allEscaped opens text = true) (hsegments : segments text = part :: more) :
    opensNoClass part = true := by
  have hjoined := joined_segments text
  rw [hsegments] at hjoined
  have hprefix : ∃ back, text = part ++ back := by
    cases more with
    | nil => exact ⟨[], by rw [← hjoined]; simp [joined]⟩
    | cons next rest =>
      refine ⟨'/' :: joined (next :: rest), ?_⟩
      rw [← hjoined]
      simp [joined, List.intercalate_cons_cons]
  obtain ⟨back, rfl⟩ := hprefix
  exact opensNoClass_of_allEscaped (allEscaped_of_append h)

/-- **A closing bracket means itself where no class is open**, and so it makes
no difference to escape it. -/
theorem matchPlain_bracket (hwhole : isWhole before = true)
    (hbefore : allEscaped opens before = true) (hbehind : allEscaped opens behind = true)
    (candidate : List Char) :
    matchPlain candidate (before ++ '\\' :: ']' :: behind)
      = matchPlain candidate (before ++ ']' :: behind) := by
  obtain ⟨whole, last, hlast, hclass, hsegments⟩ := exists_last_segment hwhole hbefore
  obtain ⟨part, more, hpart⟩ := List.exists_cons_of_ne_nil (segments_ne_nil behind)
  have hbetween : ∀ chars : List Char, '/' ∉ chars →
      segments (before ++ (chars ++ behind)) = whole ++ (last ++ (chars ++ part)) :: more :=
    fun chars hchars => hsegments (Text.pieces_append_of_not_mem hchars hpart)
  have hbare : segments (before ++ ']' :: behind) = whole ++ (last ++ ']' :: part) :: more :=
    hbetween [']'] (by decide)
  have hescaped : segments (before ++ '\\' :: ']' :: behind)
      = whole ++ (last ++ '\\' :: ']' :: part) :: more :=
    hbetween ['\\', ']'] (by decide)
  refine matchPlain_congr ?_
  rw [hbare, hescaped]
  refine List.rel_append (sameNames_self whole) (.cons ?_ (sameNames_self more))
  have hrest := opensNoClass_first hbehind hpart
  refine sameNames_of_tokens ?_ ?_ ?_ ?_ ?_
  · rw [opensNoClass_append hlast, hclass]
    exact hrest
  · rw [opensNoClass_append hlast, hclass]
    exact hrest
  · rw [tokens_append hlast, tokens_append hlast]
    rfl
  · cases last with
    | nil => rfl
    | cons c last => rfl
  · have hne : ∀ text : List Char, ']' ∈ text → text ≠ globstar := by
      rintro _ hmem rfl
      exact absurd hmem (by decide)
    exact iff_of_false (hne _ (by simp)) (hne _ (by simp))

/-! ## The letters of a sequence -/

/-- A character as a pattern: with a backslash before it if it means
something. -/
def literalText (c : Char) : List Char := if isSpecial c then ['\\', c] else [c]

/-- An item of a sequence of letters as a pattern. An opening bracket and a
backslash are read together with what is behind them; every other character
is meant as it is. -/
def itemText (c : Char) : List Char := if c = '[' ∨ c = '\\' then [c] else literalText c

/-- The characters from one letter towards another one, by steps. -/
def lettersBetween (first last : Char) (step : ℕ) : List Char :=
  (between first.toNat last.toNat step).map fun n => Char.ofNat n.toNat

/-- A pattern with a sequence of letters in it. -/
def sequencePattern (before : List Char) (first last : Char) (step behind : List Char) : String :=
  String.ofList
    (before ++ '{' :: (first :: '.' :: '.' :: last :: '.' :: '.' :: step ++ '}' :: behind))

variable {first last k : Char} {step : ℕ}

/-- Between two letters of either case there are letters and the six
characters between the cases. -/
theorem toNat_of_mem_lettersBetween (hfirst : isLetter first = true)
    (hlast : isLetter last = true) (hk : k ∈ lettersBetween first last step) :
    65 ≤ k.toNat ∧ k.toNat ≤ 122 := by
  obtain ⟨n, hn, rfl⟩ := List.mem_map.mp hk
  have hbounds := mem_between hn
  have hlow := toNat_of_isLetter hfirst
  have hhigh := toNat_of_isLetter hlast
  have hchar : ∀ n : Fin 123, (Char.ofNat n).toNat = n := by decide
  have htoNat : (Char.ofNat n.toNat).toNat = n.toNat := hchar ⟨n.toNat, by omega⟩
  omega

theorem ne_of_mem_lettersBetween (hfirst : isLetter first = true) (hlast : isLetter last = true)
    (hk : k ∈ lettersBetween first last step) {c : Char} (hc : c.toNat < 65 ∨ 122 < c.toNat) :
    k ≠ c := by
  rintro rfl
  have hbounds := toNat_of_mem_lettersBetween hfirst hlast hk
  omega

/-- The only item with a meaning that is not put in bare is the closing
bracket. -/
theorem itemText_cases (hfirst : isLetter first = true) (hlast : isLetter last = true)
    (hk : k ∈ lettersBetween first last step) :
    itemText k = [k] ∨ k = ']' ∧ itemText k = ['\\', ']'] := by
  unfold itemText literalText
  by_cases hbare : k = '[' ∨ k = '\\'
  · exact .inl (if_pos hbare)
  · rw [if_neg hbare]
    by_cases hspecial : isSpecial k = true
    · obtain h | h | h | h | h := isSpecial_iff.mp hspecial
      · exact absurd h (ne_of_mem_lettersBetween hfirst hlast hk (by decide))
      · exact absurd h (ne_of_mem_lettersBetween hfirst hlast hk (by decide))
      · exact absurd (.inl h) hbare
      · exact .inr ⟨h, by rw [if_pos hspecial, h]⟩
      · exact absurd (.inr h) hbare
    · exact .inl (if_neg hspecial)

theorem length_lettersBetween (hfirst : isLetter first = true) (hlast : isLetter last = true)
    (step : ℕ) : (lettersBetween first last step).length ≤ 58 := by
  have hlow := toNat_of_isLetter hfirst
  have hhigh := toNat_of_isLetter hlast
  have hdiv := Nat.div_le_self ((last.toNat : ℤ) - first.toNat).natAbs step
  rw [lettersBetween, List.length_map, length_between, itemCount]
  omega

theorem sequence_letters (hfirst : isLetter first = true) (hlast : isLetter last = true)
    (step : Option Written) :
    sequence (lettersBody first last step)
      = .ok (some ((lettersBetween first last (stepSize step)).map fun k => [k])) := by
  obtain ⟨answer, hanswer, hlimited⟩ := sequence_lettersBody hfirst hlast step
  have hlength := length_lettersBetween hfirst hlast (stepSize step)
  rw [lettersBetween, List.length_map] at hlength
  rw [hanswer, hlimited.1 (by rw [List.length_map]; omega), lettersBetween, List.map_map]
  rfl

/-! ## The sequence in its pattern -/

theorem findGroup_item (hwhole : isWhole before = true) (hbefore : allEscaped opens before = true)
    (hbehind : allEscaped opens behind = true) (hk : k ≠ '{') :
    findGroup (before ++ k :: behind) = .ok none := by
  have hnone : findGroup (k :: behind) = .ok none := by
    by_cases hback : k = '\\'
    · exact hback ▸ findGroup_backslash hbehind
    · rw [findGroup_cons hback hk, findGroup_of_allEscaped hbehind]
      rfl
  rw [settled_of_allEscaped hwhole hbefore, hnone]
  rfl

/-- **A sequence of letters stands for its characters, put in as they
are.** -/
theorem expand_letters (hfirst : isLetter first = true) (hlast : isLetter last = true)
    (step : Option Written) (hwhole : isWhole before = true)
    (hbefore : allEscaped opens before = true) (hbehind : allEscaped opens behind = true) :
    expand (before ++ '{' :: (lettersBody first last step ++ '}' :: behind))
      = .ok ((lettersBetween first last (stepSize step)).map fun k => before ++ k :: behind) := by
  have hbody := inert_lettersBody hfirst hlast step
  have hparts : partsOf (lettersBody first last step)
      = .ok (some ((lettersBetween first last (stepSize step)).map fun k => [k])) := by
    rw [partsOf_uncut hbody.uncut, sequence_letters hfirst hlast]
  have hfound := findGroup_of_parts (settled_of_allEscaped hwhole hbefore) hbody.closed hparts
    behind
  have hlength := length_lettersBetween hfirst hlast (stepSize step)
  have hreplaced : ((lettersBetween first last (stepSize step)).map fun k => [k]).map
        (Group.replacedBy ⟨before, (lettersBetween first last (stepSize step)).map fun k => [k],
          behind⟩)
      = (lettersBetween first last (stepSize step)).map fun k => before ++ k :: behind := by
    rw [List.map_map]
    exact List.map_congr_left fun k _ => List.append_assoc before [k] behind
  rw [expand_of_some hfound, hreplaced, gather_of_alone, List.nil_append]
  · intro p hp
    obtain ⟨k, hk, rfl⟩ := List.mem_map.mp hp
    exact expand_of_none (findGroup_item hwhole hbefore hbehind
      (ne_of_mem_lettersBetween hfirst hlast hk (by decide)))
  · rw [List.length_nil, List.length_map, mostPatterns]
    omega

/-- A step with too many digits cannot be read. -/
theorem expand_longStep (hfirst : isLetter first = true) (hlast : isLetter last = true)
    (negative : Bool) {digits : List Char} (hdigits : ∀ c ∈ digits, Text.isDigit c = true)
    (hlong : mostDigits < digits.length) (hwhole : isWhole before = true)
    (hbefore : allEscaped opens before = true) :
    expand (before ++ '{' :: (first :: '.' :: '.' :: last :: '.' :: '.' ::
        (if negative then '-' :: digits else digits) ++ '}' :: behind))
      = .error (.digits digits.length) := by
  have hne : digits ≠ [] := List.ne_nil_of_length_pos (Nat.zero_lt_of_lt hlong)
  have hsigned : ∀ c ∈ (if negative then '-' :: digits else digits), isPlain c = true := by
    intro c hc
    split at hc
    · obtain rfl | hc := List.mem_cons.mp hc
      · decide
      · exact isPlain_of_isDigit (hdigits c hc)
    · exact isPlain_of_isDigit (hdigits c hc)
  have hbody : Inert (first :: '.' :: '.' :: last :: '.' :: '.' ::
      (if negative then '-' :: digits else digits)) :=
    inert_letters hfirst hlast (List.forall_mem_cons.mpr ⟨by decide,
      List.forall_mem_cons.mpr ⟨by decide, hsigned⟩⟩)
  have hparts : partsOf (first :: '.' :: '.' :: last :: '.' :: '.' ::
      (if negative then '-' :: digits else digits)) = .error (.digits digits.length) := by
    rw [partsOf_uncut hbody.uncut, sequence, readNumbers?_of_isLetter hfirst,
      readLetters?_of_isLetter hfirst hlast, readStep?_digits negative hne hdigits]
    simp [stride, Numeral.value, hlong]
  exact expand_of_error
    (findGroup_of_failure (settled_of_allEscaped hwhole hbefore) hbody.closed hparts behind)

/-! ## Answers -/

/-- What is put between the two texts decides the first character of the
pattern only if there is nothing before it. -/
theorem head?_between {c d : Char} (hbefore : before.head? ≠ some c) (hd : d ≠ c)
    (rest : List Char) : (String.ofList (before ++ d :: rest)).toList.head? ≠ some c := by
  rw [String.toList_ofList]
  cases before with
  | nil => exact fun h => hd (Option.some.inj h)
  | cons b before => exact hbefore

/-- An item in its place matches as the bare character does. -/
theorem isMatch_item (candidate : String) (hfirst : isLetter first = true)
    (hlast : isLetter last = true) (hk : k ∈ lettersBetween first last step)
    (hwhole : isWhole before = true) (hbefore : allEscaped opens before = true)
    (hbehind : allEscaped opens behind = true) (hmark : before.head? ≠ some '!')
    (hcomment : before.head? ≠ some '#') :
    isMatch candidate (String.ofList (before ++ itemText k ++ behind))
      = .ok (matchPlain candidate.toList (before ++ k :: behind)) := by
  have hne : ∀ {c : Char}, c.toNat < 65 ∨ 122 < c.toNat → k ≠ c :=
    ne_of_mem_lettersBetween hfirst hlast hk
  rw [List.append_assoc]
  obtain hitem | ⟨rfl, hitem⟩ := itemText_cases hfirst hlast hk
  · rw [hitem]
    have hplain : expand (String.ofList (before ++ k :: behind)).toList
        = .ok [before ++ k :: behind] := by
      rw [String.toList_ofList]
      exact expand_of_none (findGroup_item hwhole hbefore hbehind (hne (by decide)))
    show isMatch candidate (String.ofList (before ++ k :: behind)) = _
    rw [isMatch_of_expand (head?_between hmark (hne (by decide)) _)
      (head?_between hcomment (hne (by decide)) _) hplain, List.any_cons, List.any_nil,
      Bool.or_false]
  · rw [hitem]
    have hplain : expand (String.ofList (before ++ '\\' :: ']' :: behind)).toList
        = .ok [before ++ '\\' :: ']' :: behind] := by
      rw [String.toList_ofList]
      refine expand_of_none (findGroup_item hwhole hbefore ?_ (by decide))
      rw [allEscaped_cons (by decide), hbehind]
      rfl
    show isMatch candidate (String.ofList (before ++ '\\' :: ']' :: behind)) = _
    rw [isMatch_of_expand (head?_between hmark (by decide) _)
      (head?_between hcomment (by decide) _) hplain, List.any_cons, List.any_nil,
      Bool.or_false, matchPlain_bracket hwhole hbefore hbehind]

/-- **A sequence of letters matches what one of its items matches in its
place.** Let the texts around the sequence have a backslash before each brace
and each opening bracket, and let the one before it not end in the middle of
an escape and not start with an exclamation mark or a number sign. An item is
then meant literally, with two exceptions that only occur between letters of
different cases: an opening bracket and a backslash are put in bare, and so
the bracket can open a class with what is behind it, and the backslash
escapes the next character. A step may be written with as many digits as can
be read; with more of them, the pattern matches nothing. -/
theorem isMatch_letters (candidate : String) (first last : Char) (before behind : List Char)
    (hfirst : isLetter first = true) (hlast : isLetter last = true)
    (hwhole : isWhole before = true) (hbefore : allEscaped opens before = true)
    (hbehind : allEscaped opens behind = true) (hmark : before.head? ≠ some '!')
    (hcomment : before.head? ≠ some '#') :
    (∀ step : Written,
      isMatch candidate (sequencePattern before first last step.text behind) = .ok true
        ↔ ∃ k ∈ lettersBetween first last (stepSize (some step)),
          isMatch candidate (String.ofList (before ++ itemText k ++ behind)) = .ok true)
    ∧ ∀ (negative : Bool) (digits : List Char), (∀ c ∈ digits, Text.isDigit c = true) →
      4300 < digits.length →
      isMatch candidate (sequencePattern before first last
        (if negative then '-' :: digits else digits) behind) = .ok false := by
  have hitem : ∀ {step k}, k ∈ lettersBetween first last step →
      isMatch candidate (String.ofList (before ++ itemText k ++ behind))
        = .ok (matchPlain candidate.toList (before ++ k :: behind)) := fun hk =>
    isMatch_item candidate hfirst hlast hk hwhole hbefore hbehind hmark hcomment
  have hmark : ∀ step, (sequencePattern before first last step behind).toList.head? ≠ some '!' :=
    fun _ => head?_between hmark (by decide) _
  have hcomment : ∀ step, (sequencePattern before first last step behind).toList.head? ≠ some '#' :=
    fun _ => head?_between hcomment (by decide) _
  constructor
  · intro step
    have hplain : expand (sequencePattern before first last step.text behind).toList
        = .ok ((lettersBetween first last (stepSize (some step))).map
          fun k => before ++ k :: behind) := by
      rw [sequencePattern, String.toList_ofList]
      exact expand_letters hfirst hlast (some step) hwhole hbefore hbehind
    rw [isMatch_of_expand (hmark _) (hcomment _) hplain, Except.ok.injEq, List.any_map,
      List.any_eq_true]
    refine exists_congr fun k => and_congr_right fun hk => ?_
    rw [hitem hk, Except.ok.injEq]
    rfl
  · intro negative digits hdigits hlong
    refine isMatch_of_expand_error (hmark _) (hcomment _) (e := .digits digits.length) nofun ?_
    rw [sequencePattern, String.toList_ofList]
    exact expand_longStep hfirst hlast negative hdigits hlong hwhole hbefore

/-- The step that is written as a one. -/
def stepOne : Written := ⟨false, ['1'], by decide, List.all_eq_true.mp rfl, by decide⟩

/-- The bracket between `Z` and `a` opens a class with what is behind it, in
which the escaped brace is a member, and a step of too many zeros is none. -/
theorem isMatch_letters_bare :
    (isLetter 'Z' = true ∧ isLetter 'a' = true ∧ isWhole ['x'] = true
      ∧ allEscaped opens ['x'] = true ∧ allEscaped opens "\\\x7b]".toList = true)
    ∧ isMatch "x\x7b" (sequencePattern ['x'] 'Z' 'a' stepOne.text "\\\x7b]".toList) = .ok true
    ∧ isMatch "xZ\x7b]" (sequencePattern ['x'] 'Z' 'a' (List.replicate 4301 '0')
        "\\\x7b]".toList) = .ok false := by
  have h := fun candidate => isMatch_letters candidate 'Z' 'a' ['x'] "\\\x7b]".toList
    rfl rfl rfl rfl rfl (by decide) (by decide)
  refine ⟨⟨rfl, rfl, rfl, rfl, rfl⟩, ((h _).1 stepOne).mpr ⟨'[', by decide, by decide +kernel⟩, ?_⟩
  refine (h _).2 false (List.replicate 4301 '0') (fun c hc => ?_) ?_
  · rw [List.eq_of_mem_replicate hc]
    rfl
  · rw [List.length_replicate]
    exact Nat.lt_succ_self 4300

/-- An item is not always meant literally: between `Z` and `a` there is a
bracket, and it makes a class of what is behind it. -/
theorem not_isMatch_letters_literal :
    ¬ ∀ (candidate : String) (first last : Char) (before behind : List Char) (step : Written),
      isLetter first = true → isLetter last = true → isWhole before = true →
      allEscaped opens before = true → allEscaped opens behind = true →
      before.head? ≠ some '!' → before.head? ≠ some '#' →
      (isMatch candidate (sequencePattern before first last step.text behind) = .ok true
        ↔ ∃ k ∈ lettersBetween first last (stepSize (some step)),
          isMatch candidate (String.ofList (before ++ literalText k ++ behind)) = .ok true) := by
  intro h
  have hliteral : ∃ k ∈ lettersBetween 'Z' 'a' (stepSize (some stepOne)),
      isMatch "[a]" (String.ofList ([] ++ literalText k ++ "a]".toList)) = .ok true :=
    ⟨'[', by decide, by decide +kernel⟩
  have hclass : isMatch "[a]" (sequencePattern [] 'Z' 'a' stepOne.text "a]".toList)
      = .ok false := by
    decide +kernel
  have hmatch := (h "[a]" 'Z' 'a' [] "a]".toList stepOne rfl rfl rfl rfl rfl (by decide)
    (by decide)).mpr hliteral
  rw [hclass] at hmatch
  cases hmatch

end ImportPolicy.Glob
