import ImportPolicy.Proofs.Glob.Letters

/-!
# Escapes inside classes

A backslash takes away the meaning of the character behind it, and inside the
brackets of a class it should do so too: `[a\*]` should hold the two characters
`a` and `*`. It does not. Escapes are resolved before classes are read, and
what an escape is resolved to is a class of its own, brackets and all
(`resolve_classText`). So the first closing bracket behind an escape ends the
class in the middle, and the rest of it, with the bracket that was meant to
close it, is a row of characters that a name has to go on with
(`matchSegment_cutShort`).

So a class with an escape in it matches no name of a single character, in or
out of the class. A class without escapes holds just its members
(`matchSegment_plain`), and together this is the exact extent to which a class
means what is written in it (`matchSegment_classText_iff`).
-/

namespace ImportPolicy.Glob

variable {members plain more front inside behind rest name : List Char} {c x : Char}

/-! ## Classes as they are written -/

/-- A class with the given members, or with all others, as it is written: a
member that means something in a segment has a backslash before it. -/
def classText (negated : Bool) (members : List Char) : List Char :=
  '[' :: ((if negated then ['^'] else []) ++ (members.flatMap literalText ++ [']']))

example : classText true "a*]".toList = "[^a\\*\\]]".toList := rfl

/-- Whether a character can be a member without a meaning of its own: none that
negates the class, makes a range, or divides or hides names. -/
def isMember (c : Char) : Bool := c ∉ ['!', '^', '-', '.', '/']

/-! ## Resolving -/

/-- What a member is resolved to. -/
def resolvedMember (c : Char) : List Char := if isSpecial c then ['[', c, ']'] else [c]

/-- What stands at the start of a class whose escapes are resolved. -/
def classMark (negated : Bool) : List Char := if negated then ['!'] else []

theorem resolve_cons (hback : c ≠ '\\') (hopen : c ≠ '[') (rest : List Char) :
    resolve (c :: rest) = c :: resolve rest := by
  rw [resolve]
  · exact fun _ _ hc => absurd hc hback
  · exact fun _ hc => absurd hc hopen

theorem resolve_open (h : rest.head? ≠ some '^') :
    resolve ('[' :: rest) = '[' :: resolve rest := by
  rw [resolve]
  · exact fun _ _ hc => absurd hc (by decide)
  · rintro _ - rfl
    exact h rfl

theorem ne_of_not_isSpecial {d : Char} (h : ¬ isSpecial c = true) (hd : isSpecial d = true) :
    c ≠ d :=
  fun hc => h (hc ▸ hd)

theorem resolve_literalText (c : Char) (rest : List Char) :
    resolve (literalText c ++ rest) = resolvedMember c ++ resolve rest := by
  unfold literalText resolvedMember
  by_cases hc : isSpecial c = true
  · rw [if_pos hc, if_pos hc, List.cons_append, List.singleton_append, resolve, if_pos hc]
    rfl
  · rw [if_neg hc, if_neg hc, List.singleton_append,
      resolve_cons (ne_of_not_isSpecial hc rfl) (ne_of_not_isSpecial hc rfl)]
    rfl

theorem resolve_members (members rest : List Char) :
    resolve (members.flatMap literalText ++ rest)
      = members.flatMap resolvedMember ++ resolve rest := by
  induction members with
  | nil => rfl
  | cons c more ih =>
    rw [List.flatMap_cons, List.flatMap_cons, List.append_assoc, resolve_literalText, ih,
      List.append_assoc]

theorem head?_members (h : ∀ m ∈ members, isMember m = true) (rest : List Char)
    (hrest : rest.head? ≠ some '^') : (members.flatMap literalText ++ rest).head? ≠ some '^' := by
  cases members with
  | nil => exact hrest
  | cons c more =>
    rw [List.flatMap_cons, literalText]
    split
    · simp
    · rintro hc
      obtain rfl : c = '^' := Option.some.inj hc
      exact absurd (h _ List.mem_cons_self) (by decide)

/-- **A class keeps its brackets and gets those of its escapes besides.** -/
theorem resolve_classText (negated : Bool) (h : ∀ m ∈ members, isMember m = true) :
    resolve (classText negated members)
      = '[' :: (classMark negated ++ (members.flatMap resolvedMember ++ [']'])) := by
  have hmembers : resolve (members.flatMap literalText ++ [']'])
      = members.flatMap resolvedMember ++ [']'] := resolve_members members [']']
  cases negated with
  | true =>
    show resolve ('[' :: '^' :: (members.flatMap literalText ++ [']'])) = _
    rw [resolve, hmembers]
    rfl
  | false =>
    show resolve ('[' :: (members.flatMap literalText ++ [']'])) = _
    rw [resolve_open (head?_members h _ (by decide)), hmembers]
    rfl

/-! ## Where a class ends -/

theorem untilBracket_append (h : ']' ∉ front) (rest : List Char) :
    untilBracket (front ++ rest)
      = (untilBracket rest).map fun (inside, behind) => (front ++ inside, behind) := by
  induction front with
  | nil =>
    show untilBracket rest = (untilBracket rest).map id
    rw [Option.map_id_apply]
  | cons c more ih =>
    have hc : c ≠ ']' := fun hc => h (hc ▸ List.mem_cons_self)
    rw [List.cons_append, untilBracket, if_neg hc, ih fun hmem => h (List.mem_cons_of_mem _ hmem),
      Option.map_map]
    rfl

/-- A class that does not start with a closing bracket ends at the first one. -/
theorem splitClass_of_head (h : rest.head? ≠ some ']') (negated : Bool)
    (hmark : negated = false → rest.head? ≠ some '!') :
    splitClass (classMark negated ++ rest) = untilBracket (classMark negated ++ rest) := by
  cases negated with
  | true =>
    show splitClass ('!' :: rest) = untilBracket ('!' :: rest)
    unfold splitClass
    split
    · rename_i heq
      cases heq
      exact absurd rfl h
    · rename_i heq
      cases heq
    · rfl
  | false =>
    show splitClass rest = untilBracket rest
    unfold splitClass
    split
    · exact absurd rfl (hmark rfl)
    · exact absurd rfl h
    · rfl

/-- What an escape leaves inside the class that its bracket ends. An escaped
closing bracket ends the class by itself. -/
def insideEscape (c : Char) : List Char := if c = ']' then ['['] else ['[', c]

/-- What an escape leaves behind the class that its bracket ends. -/
def behindEscape (c : Char) : List Char := if c = ']' then [']'] else []

theorem untilBracket_escape (c : Char) (rest : List Char) :
    untilBracket ('[' :: c :: ']' :: rest)
      = some (insideEscape c, behindEscape c ++ rest) := by
  unfold insideEscape behindEscape
  by_cases hc : c = ']'
  · rw [if_pos hc, if_pos hc, hc]
    rfl
  · rw [if_neg hc, if_neg hc]
    simp [untilBracket, hc]

theorem flatMap_resolvedMember (hplain : ∀ m ∈ plain, ¬ isSpecial m = true) :
    plain.flatMap resolvedMember = plain := by
  induction plain with
  | nil => rfl
  | cons c more ih =>
    rw [List.flatMap_cons, ih fun m hm => hplain m (List.mem_cons_of_mem _ hm), resolvedMember,
      if_neg (hplain c List.mem_cons_self)]
    rfl

/-- The first member is no closing bracket and no mark, also when its escape is
resolved. -/
theorem head?_resolvedMembers (hne : members ≠ []) (h : ∀ m ∈ members, isMember m = true)
    (hc : c = ']' ∨ c = '!') : (members.flatMap resolvedMember ++ rest).head? ≠ some c := by
  obtain ⟨m, more, rfl⟩ := List.exists_cons_of_ne_nil hne
  rw [List.flatMap_cons, resolvedMember]
  intro hhead
  split at hhead
  · obtain rfl : '[' = c := Option.some.inj hhead
    exact absurd hc (by decide)
  · rename_i hspecial
    obtain rfl : m = c := Option.some.inj hhead
    obtain rfl | rfl := hc
    · exact hspecial rfl
    · exact absurd (h _ List.mem_cons_self) (by decide)

theorem splitClass_members (negated : Bool) (hne : members ≠ [])
    (h : ∀ m ∈ members, isMember m = true) (rest : List Char) :
    splitClass (classMark negated ++ (members.flatMap resolvedMember ++ rest))
      = untilBracket (classMark negated ++ (members.flatMap resolvedMember ++ rest)) :=
  splitClass_of_head (head?_resolvedMembers hne h (.inl rfl)) negated
    fun _ => head?_resolvedMembers hne h (.inr rfl)

theorem bracket_not_mem (negated : Bool) (hplain : ∀ m ∈ plain, ¬ isSpecial m = true) :
    ']' ∉ classMark negated ++ plain := by
  rw [List.mem_append]
  rintro (hmark | hmem)
  · cases negated with
    | true => exact absurd hmark (by decide)
    | false => exact absurd hmark (by decide)
  · exact hplain _ hmem rfl

/-- A class without escapes ends where it was meant to. -/
theorem splitClass_plain (negated : Bool) (hne : plain ≠ [])
    (hplain : ∀ m ∈ plain, ¬ isSpecial m = true) (h : ∀ m ∈ plain, isMember m = true) :
    splitClass (classMark negated ++ (plain.flatMap resolvedMember ++ [']']))
      = some (classMark negated ++ plain, []) := by
  rw [splitClass_members negated hne h, flatMap_resolvedMember hplain, ← List.append_assoc,
    untilBracket_append (bracket_not_mem negated hplain)]
  show some (classMark negated ++ plain ++ [], []) = _
  rw [List.append_nil]

/-- A class ends at its first escape. -/
theorem splitClass_escape (negated : Bool) (hplain : ∀ m ∈ plain, ¬ isSpecial m = true)
    (hx : isSpecial x = true) (h : ∀ m ∈ plain ++ x :: more, isMember m = true) :
    splitClass (classMark negated ++ ((plain ++ x :: more).flatMap resolvedMember ++ [']']))
      = some (classMark negated ++ (plain ++ insideEscape x),
          behindEscape x ++ (more.flatMap resolvedMember ++ [']'])) := by
  have hresolved : (plain ++ x :: more).flatMap resolvedMember
      = plain ++ '[' :: x :: ']' :: more.flatMap resolvedMember := by
    rw [List.flatMap_append, flatMap_resolvedMember hplain, List.flatMap_cons, resolvedMember,
      if_pos hx]
    rfl
  rw [splitClass_members negated (by simp) h, hresolved, List.append_assoc, ← List.append_assoc,
    untilBracket_append (bracket_not_mem negated hplain), List.cons_append, List.cons_append,
    List.cons_append, untilBracket_escape]
  simp only [Option.map_some, List.append_assoc]

/-! ## Texts that are read as they are -/

/-- A part of a segment that stands for a row of characters. -/
structure ReadsAs (part chars : List Char) : Prop where
  /-- It opens no class. -/
  opensNoClass : opensNoClass part = true
  /-- Each token is one of the characters. -/
  tokens_eq : tokens part = chars.map .literal

theorem readsAs_nil : ReadsAs [] [] := ⟨rfl, rfl⟩

variable {part chars : List Char}

theorem ReadsAs.cons (hc : ¬ isSpecial c = true) (h : ReadsAs part chars) :
    ReadsAs (c :: part) (c :: chars) where
  opensNoClass := by
    rw [opensNoClass_cons (ne_of_not_isSpecial hc rfl), h.opensNoClass, Bool.and_true,
      decide_eq_true_eq]
    exact ne_of_not_isSpecial hc rfl
  tokens_eq := by
    rw [tokens_cons (ne_of_not_isSpecial hc rfl), ofChar_of_not_isSpecial hc, h.tokens_eq,
      List.map_cons]

/-- A closing bracket that closes nothing is a character like any other. -/
theorem ReadsAs.bracket (h : ReadsAs part chars) : ReadsAs (']' :: part) (']' :: chars) where
  opensNoClass := by
    rw [opensNoClass_cons (by decide), h.opensNoClass]
    rfl
  tokens_eq := by
    rw [tokens_cons (by decide), h.tokens_eq]
    rfl

theorem ReadsAs.literalText (c : Char) (h : ReadsAs part chars) :
    ReadsAs (literalText c ++ part) (c :: chars) := by
  unfold Glob.literalText
  by_cases hc : isSpecial c = true
  · rw [if_pos hc]
    exact ⟨h.opensNoClass, congrArg (_ :: ·) h.tokens_eq⟩
  · rw [if_neg hc]
    exact h.cons hc

theorem ReadsAs.literals (members : List Char) (h : ReadsAs part chars) :
    ReadsAs (members.flatMap Glob.literalText ++ part) (members ++ chars) := by
  induction members with
  | nil => exact h
  | cons c more ih =>
    rw [List.flatMap_cons, List.append_assoc]
    exact ih.literalText c

theorem readsAs_behindEscape (x : Char) (more : List Char) :
    ReadsAs (behindEscape x ++ (more.flatMap literalText ++ [']']))
      (behindEscape x ++ (more ++ [']'])) := by
  have hmore := readsAs_nil.bracket.literals more
  unfold behindEscape
  by_cases hx : x = ']'
  · rw [if_pos hx]
    exact hmore.bracket
  · rw [if_neg hx]
    exact hmore

theorem resolve_behindEscape (x : Char) (more : List Char) :
    resolve (behindEscape x ++ (more.flatMap literalText ++ [']']))
      = behindEscape x ++ (more.flatMap resolvedMember ++ [']']) := by
  have hmore : resolve (more.flatMap literalText ++ [']'])
      = more.flatMap resolvedMember ++ [']'] := resolve_members more [']']
  unfold behindEscape
  by_cases hx : x = ']'
  · rw [if_pos hx, List.singleton_append, resolve_cons (by decide) (by decide), hmore]
    rfl
  · rw [if_neg hx, List.nil_append, hmore]
    rfl

/-! ## What a class matches -/

/-- Whether a class with the given members, or with all others, has a
character. -/
def Admits (negated : Bool) (members : List Char) (c : Char) : Prop :=
  if negated then c ∉ members else c ∈ members

theorem contains_ofInside_classMark (negated : Bool) (hhyphen : '-' ∉ inside)
    (hmark : inside.head? ≠ some '!') (c : Char) :
    (CharClass.ofInside (classMark negated ++ inside)).contains c = true
      ↔ Admits negated inside c := by
  cases negated with
  | true => exact CharClass.contains_ofInside_mark hhyphen c
  | false => exact CharClass.contains_ofInside hhyphen hmark c

theorem cut_readsAs (h : ReadsAs part chars) (name : List Char) :
    Cut Piece.Takes name (pieces (resolve part)) ↔ name = chars := by
  have hliterals : Cut Token.Takes name (chars.map .literal) ↔ name = chars.map id :=
    cut_map_iff fun _ _ => Iff.rfl
  rw [← cut_congr (agrees_tokens h.opensNoClass), h.tokens_eq, hliterals, List.map_id]

/-- One character of a class, and then a row of characters. -/
theorem matchPieces_class {k : CharClass} (h : ReadsAs part chars) :
    matchPieces (.oneOf k :: pieces (resolve part)) name = true
      ↔ ∃ c, name = c :: chars ∧ k.contains c = true := by
  rw [matchPieces_iff, cut_cons]
  constructor
  · rintro ⟨block, rest, rfl, ⟨c, rfl, hc⟩, hrest⟩
    rw [(cut_readsAs h rest).mp hrest]
    exact ⟨c, rfl, hc⟩
  · rintro ⟨c, rfl, hc⟩
    exact ⟨[c], chars, rfl, ⟨c, rfl, hc⟩, (cut_readsAs h chars).mpr rfl⟩

/-- A class that ends somewhere holds one character of a name, and what is
behind it in the segment has to be the rest of the name. -/
theorem matchSegment_class {negated : Bool} {k : CharClass}
    (hclass : pieces (resolve (classText negated members)) = .oneOf k :: pieces (resolve part))
    (hpart : ReadsAs part chars) :
    matchSegment name (classText negated members) = true
      ↔ ∃ c, name = c :: chars ∧ k.contains c = true ∧ c ≠ '.' := by
  have hdot : isDotted (classText negated members) = false := rfl
  rw [matchSegment, hdot, Bool.or_false, Bool.and_eq_true, Bool.not_eq_true', hclass,
    matchPieces_class hpart]
  -- a class is no dot, so it takes no name that starts with one
  constructor
  · rintro ⟨hname, c, rfl, hc⟩
    refine ⟨c, rfl, hc, ?_⟩
    rintro rfl
    exact absurd hname (by simp [isDotted])
  · rintro ⟨c, rfl, hc, hne⟩
    exact ⟨by simp [isDotted, hne], c, rfl, hc⟩

theorem ne_of_isMember {d : Char} (hc : isMember c = true) (hd : isMember d = false) : c ≠ d := by
  rintro rfl
  rw [hc] at hd
  cases hd

theorem hyphen_not_mem (h : ∀ m ∈ members, isMember m = true) : '-' ∉ members :=
  fun hmem => ne_of_isMember (h _ hmem) rfl rfl

theorem head?_ne_mark (h : ∀ m ∈ members, isMember m = true) : members.head? ≠ some '!' :=
  fun hhead => ne_of_isMember (h _ (List.mem_of_head? hhead)) rfl rfl

/-- **A class without escapes has its members**, or all other characters. -/
theorem matchSegment_plain (negated : Bool) (hne : plain ≠ [])
    (hplain : ∀ m ∈ plain, ¬ isSpecial m = true) (h : ∀ m ∈ plain, isMember m = true) :
    matchSegment name (classText negated plain) = true
      ↔ ∃ c, name = [c] ∧ Admits negated plain c ∧ c ≠ '.' := by
  have hclass := pieces_class (splitClass_plain negated hne hplain h)
  rw [← resolve_classText negated h] at hclass
  rw [matchSegment_class hclass readsAs_nil]
  simp only [contains_ofInside_classMark negated (hyphen_not_mem h) (head?_ne_mark h)]

theorem isMember_insideEscape (hplain : ∀ m ∈ plain, isMember m = true)
    (hx : isMember x = true) : ∀ m ∈ plain ++ insideEscape x, isMember m = true := by
  rw [List.forall_mem_append]
  refine ⟨hplain, fun m hm => ?_⟩
  unfold insideEscape at hm
  split at hm
  · rw [List.mem_singleton.mp hm]
    rfl
  · obtain rfl | hm := List.mem_cons.mp hm
    · rfl
    · rwa [List.mem_singleton.mp hm]

/-- **A class ends at its first escape**: it has the members before that and
what the escape leaves inside, and the members behind it are literals, as is
the bracket that was meant to close the class. -/
theorem matchSegment_cutShort (negated : Bool) (hplain : ∀ m ∈ plain, ¬ isSpecial m = true)
    (hx : isSpecial x = true) (h : ∀ m ∈ plain ++ x :: more, isMember m = true) :
    matchSegment name (classText negated (plain ++ x :: more)) = true
      ↔ ∃ c, name = c :: (behindEscape x ++ (more ++ [']']))
        ∧ Admits negated (plain ++ insideEscape x) c ∧ c ≠ '.' := by
  have hclass := pieces_class (splitClass_escape negated hplain hx h)
  rw [← resolve_classText negated h, ← resolve_behindEscape] at hclass
  have hinside := isMember_insideEscape (fun m hm => h m (List.mem_append_left _ hm))
    (h x (List.mem_append_right _ List.mem_cons_self))
  rw [matchSegment_class hclass (readsAs_behindEscape x more)]
  simp only [contains_ofInside_classMark negated (hyphen_not_mem hinside) (head?_ne_mark hinside)]

/-- A class with an escape in it matches no single character. -/
theorem matchSegment_singleton (negated : Bool) (hne : members ≠ [])
    (h : ∀ m ∈ members, isMember m = true) :
    matchSegment [c] (classText negated members) = true
      ↔ (∀ m ∈ members, ¬ isSpecial m = true) ∧ Admits negated members c ∧ c ≠ '.' := by
  cases hfirst : members.find? isSpecial with
  | none =>
    have hplain : ∀ m ∈ members, ¬ isSpecial m = true := List.find?_eq_none.mp hfirst
    rw [matchSegment_plain negated hne hplain h]
    constructor
    · rintro ⟨d, hd, hadmits, hdot⟩
      cases hd
      exact ⟨hplain, hadmits, hdot⟩
    · rintro ⟨-, hadmits, hdot⟩
      exact ⟨c, rfl, hadmits, hdot⟩
  | some x =>
    obtain ⟨hx, plain, more, rfl, hbefore⟩ := List.find?_eq_some_iff_append.mp hfirst
    have hplain : ∀ m ∈ plain, ¬ isSpecial m = true := fun m hm => by simpa using hbefore m hm
    rw [matchSegment_cutShort negated hplain hx h]
    -- the bracket that was meant to close the class is one more character
    refine iff_of_false ?_ fun hall => hall.1 x (by simp) hx
    rintro ⟨d, hd, -⟩
    have hlength := congrArg List.length hd
    simp at hlength

/-- **What is written in a class is what it has, if no member is escaped.** A
class is written with a backslash before each member that means something in a
segment, and no member is one of `!`, `^`, `-`, `.` and `/`. Then a name of one
character matches the class just if it is a member and none of the members has
a backslash; and a name of one character other than a dot matches the class of
all others just if it is no member and none of the members has a backslash. -/
theorem matchSegment_classText_iff (members : List Char) (c : Char) (hne : members ≠ [])
    (h : ∀ m ∈ members, isMember m = true) :
    (matchSegment [c] (classText false members) = true
      ↔ c ∈ members ∧ ∀ m ∈ members, ¬ isSpecial m = true)
    ∧ (c ≠ '.' → (matchSegment [c] (classText true members) = true
      ↔ c ∉ members ∧ ∀ m ∈ members, ¬ isSpecial m = true)) := by
  have hholds := fun negated => matchSegment_singleton (c := c) negated hne h
  refine ⟨(hholds false).trans ⟨?_, ?_⟩, fun hdot => (hholds true).trans ⟨?_, ?_⟩⟩
  · rintro ⟨hplain, hmem, -⟩
    exact ⟨hmem, hplain⟩
  · rintro ⟨hmem, hplain⟩
    exact ⟨hplain, hmem, ne_of_isMember (h c hmem) rfl⟩
  · rintro ⟨hplain, hmem, -⟩
    exact ⟨hmem, hplain⟩
  · rintro ⟨hmem, hplain⟩
    exact ⟨hplain, hmem, hdot⟩

/-- A class of a letter and a star has neither, and one of two letters has
both. -/
theorem matchSegment_classText_iff_star :
    ((∀ m ∈ ['a', '*'], isMember m = true) ∧ ∀ m ∈ ['a', 'b'], isMember m = true)
      ∧ matchSegment ['a'] (classText false ['a', '*']) = false
      ∧ matchSegment ['b'] (classText false ['a', 'b']) = true
      ∧ matchSegment ['c'] (classText true ['a', 'b']) = true := by
  have hstar : ∀ m ∈ ['a', '*'], isMember m = true := by simp [isMember]
  have hletters : ∀ m ∈ ['a', 'b'], isMember m = true := by simp [isMember]
  have hplain : ∀ m ∈ ['a', 'b'], ¬ isSpecial m = true := by simp [isSpecial]
  refine ⟨⟨hstar, hletters⟩, ?_, ?_, ?_⟩
  · rw [← Bool.not_eq_true, (matchSegment_classText_iff ['a', '*'] 'a' (by decide) hstar).1]
    exact fun h => h.2 '*' (by decide) rfl
  · exact (matchSegment_classText_iff ['a', 'b'] 'b' (by decide) hletters).1.mpr
      ⟨by decide, hplain⟩
  · exact ((matchSegment_classText_iff ['a', 'b'] 'c' (by decide) hletters).2 (by decide)).mpr
      ⟨by decide, hplain⟩

/-- An escape in a class does not make a member of what is behind the
backslash. -/
theorem not_matchSegment_escapedMember :
    ¬ ∀ (members : List Char) (c : Char), members ≠ [] → (∀ m ∈ members, isMember m = true) →
      (matchSegment [c] (classText false members) = true ↔ c ∈ members) := by
  intro h
  have hstar := (h ['*'] '*' (by decide) (by simp [isMember])).mpr (by decide)
  exact absurd hstar (by decide)

end ImportPolicy.Glob
