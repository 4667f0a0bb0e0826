import ImportPolicy.Source.Imports
import ImportPolicy.Proofs.Text.Lines

/-!
# Occurrences stand where they say

An occurrence of known place is a promise: between its two ends the text is
the specifier. The promise is kept for *every* tree, and so does not depend
on how the parser counts. Each of the three ways to look for a specifier
compares it with the text before it answers, and what is left to see is that
the ends are those of the stretch that was compared.

For an import of modules this could fail at one point only: an empty
specifier would be found anywhere, also behind the text. An offset never
leads there (`Text.Lines.offset_le_length`).
-/

namespace ImportPolicy.Source

variable {text : List Char} {o : Occurrence}

/-- The occurrence stands in the text: its two ends bound a stretch of the
text that is its specifier. -/
def Placed (text : List Char) (o : Occurrence) : Prop :=
  ∃ before behind, text = before ++ (o.specifier.toList ++ behind)
    ∧ o.start = before.length ∧ o.stop = before.length + o.specifier.toList.length

/-- Either nothing is said about the place of an occurrence, or the
occurrence stands there. -/
def Truthful (text : List Char) (o : Occurrence) : Prop :=
  o = .unknown o.specifier ∨ Placed text o

theorem truthful_unknown (text : List Char) (specifier : String) :
    Truthful text (.unknown specifier) :=
  .inl rfl

theorem Truthful.placed (h : Truthful text o) (hknown : o.isKnown = true) : Placed text o := by
  refine h.resolve_left (fun hunknown => ?_)
  rw [hunknown] at hknown
  simp [Occurrence.isKnown, Occurrence.unknown] at hknown

/-! ## The three searches -/

theorem truthful_located (specifier : String) {start : Nat} (hstart : start ≤ text.length) :
    Truthful text (located text specifier start) := by
  unfold located
  dsimp only
  split
  · rename_i hfound
    have hdrop := List.take_append_drop specifier.toList.length (text.drop start)
    rw [hfound] at hdrop
    have hlength : (text.take start).length = start := List.length_take_of_le hstart
    refine .inr ⟨text.take start, (text.drop start).drop specifier.toList.length, ?_, ?_, ?_⟩
    · rw [hdrop, List.take_append_drop]
    · rw [hlength]
    · rw [hlength, Int.natCast_add]
  · exact truthful_unknown text specifier

theorem gapLength_le (text : List Char) : gapLength text ≤ text.length := by
  fun_induction gapLength text with
  | case1 rest ih => simpa using ih
  | case2 rest ih => simpa using ih
  | case3 c rest _ _ hc ih => simpa using ih
  | case4 c rest _ _ hc => exact Nat.zero_le _
  | case5 => exact Nat.zero_le _

theorem truthful_locatedBehindFrom (text : List Char) (specifier : String) (start : Nat) :
    Truthful text (locatedBehindFrom text specifier start) := by
  unfold locatedBehindFrom
  dsimp only
  split
  · exact truthful_unknown text specifier
  · rename_i hgap
    refine truthful_located specifier ?_
    have hpos : gapLength (text.drop (start + "from".length)) ≠ 0 := hgap
    have hle := gapLength_le (text.drop (start + "from".length))
    rw [List.length_drop] at hle
    omega

/-- The place of a literal is not known, or its value stands between two
quotes of one kind and nothing else does. -/
theorem locatedLiteral_cases (text : List Char) (value : String) (start stop : Nat) :
    locatedLiteral text value start stop = .unknown value
      ∨ locatedLiteral text value start stop = ⟨value, (start : Int) + 1, (stop : Int) - 1⟩
        ∧ ∃ quote, (quote = '\'' ∨ quote = '"')
          ∧ (text.drop start).take (stop - start) = quote :: (value.toList ++ [quote]) := by
  unfold locatedLiteral
  split
  · rename_i first second rest hraw
    dsimp only
    split
    · rename_i hquoted
      obtain ⟨hquote, hlast, hvalue⟩ := hquoted
      obtain ⟨front, hinner⟩ := List.getLast?_eq_some_iff.mp hlast
      rw [hinner, List.dropLast_concat] at hvalue
      rw [hinner, hvalue] at hraw
      exact .inr ⟨rfl, first, hquote, hraw⟩
    · exact .inl rfl
  · exact .inl rfl

/-- Between the quotes of a literal stands its value: the literal ends where
it says, as long as that is not behind the text. -/
theorem truthful_locatedLiteral (value : String) (start : Nat) {stop : Nat}
    (hstop : stop ≤ text.length) : Truthful text (locatedLiteral text value start stop) := by
  obtain hunknown | ⟨hplace, quote, -, hraw⟩ := locatedLiteral_cases text value start stop
  · rw [hunknown]
    exact truthful_unknown text value
  · have hdrop := List.take_append_drop (stop - start) (text.drop start)
    rw [hraw] at hdrop
    -- the text does not end before the literal does
    have hlength : value.toList.length + 2 = stop - start := by
      have h := congrArg List.length hraw
      rw [List.length_take_of_le (by rw [List.length_drop]; omega)] at h
      simpa using h.symm
    have hbefore : (text.take start).length = start := List.length_take_of_le (by omega)
    rw [hplace]
    refine .inr ⟨text.take start ++ [quote], quote :: (text.drop start).drop (stop - start),
      ?_, ?_, ?_⟩
    · conv => lhs; rw [← List.take_append_drop start text, ← hdrop]
      simp
    · simp [hbefore]
    · simp [hbefore]
      omega

/-! ## All occurrences of a tree -/

theorem truthful_nodeFound {node : Tree} {found : Found} (h : found ∈ nodeFound text node) :
    Truthful text found.occurrence := by
  unfold nodeFound at h
  split at h
  · obtain ⟨inner, -, hinner⟩ := List.mem_filterMap.mp h
    unfold aliasFound at hinner
    split at hinner
    · cases hinner
      exact truthful_located _ (Text.Lines.offset_le_length _ _ _)
    · cases hinner
  · rw [List.mem_singleton.mp h]
    exact truthful_locatedBehindFrom _ _ _
  · split at h
    · rw [List.mem_singleton.mp h]
      dsimp only
      split
      · exact truthful_locatedLiteral _ _ (Text.Lines.offset_le_length _ _ _)
      · exact truthful_unknown _ _
    · cases h
  · cases h

/-- **The occurrences of a tree stand where they say**, whatever the tree
is. -/
theorem truthful_of_mem_imports {tree : Tree} (h : o ∈ tree.imports text) : Truthful text o := by
  obtain ⟨found, hfound, rfl⟩ := List.mem_map.mp h
  obtain ⟨node, -, hnode⟩ := List.mem_flatMap.mp (List.mem_mergeSort.mp hfound)
  exact truthful_nodeFound hnode

theorem truthful_importsOf [CharacterNames] (h : o ∈ importsOf text) : Truthful text o := by
  unfold importsOf at h
  split at h
  · exact truthful_of_mem_imports h
  · cases h

/-! ## Behind byte order marks -/

theorem Truthful.shift (h : Truthful text o) (c : Char) : Truthful (c :: text) (o.shift 1) := by
  obtain hunknown | ⟨before, behind, htext, hstart, hstop⟩ := h
  · rw [hunknown]
    exact truthful_unknown _ _
  · have hknown : o.isKnown = true := by simp [Occurrence.isKnown, hstart]
    refine .inr ⟨c :: before, behind, ?_, ?_, ?_⟩
    · simp [Occurrence.shift, hknown, htext]
    · simp [Occurrence.shift, hknown, hstart]
    · simp [Occurrence.shift, hknown, hstop]
      omega

/-- **The imports of a text stand where they say.** -/
theorem truthful_imports [CharacterNames] (h : o ∈ imports text) : Truthful text o := by
  fun_induction imports text generalizing o with
  | case1 => exact truthful_importsOf h
  | case2 rest ih =>
    obtain ⟨inner, hinner, rfl⟩ := List.mem_map.mp h
    exact (ih hinner).shift byteOrderMark
  | case3 c rest hc => exact truthful_importsOf h

end ImportPolicy.Source
