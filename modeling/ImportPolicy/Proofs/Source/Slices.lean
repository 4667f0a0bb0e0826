import ImportPolicy.Proofs.Answer
import ImportPolicy.Proofs.Report.Places
import ImportPolicy.Proofs.Source.ImportSites
import ImportPolicy.Proofs.Source.Placement

/-!
# Places slice their specifiers

What an occurrence says of its place is used to cut the text: the characters
from its start to its stop are its specifier, or both ends are the number that
stands for no place (`Sliced`). This is so for every text and every tree, so
it does not matter how the lines of the text end, how wide its characters are
or how a construct is written.

By itself this would allow that no place is ever known. `Stands` says where
each construct has its specifier: at the place of a module, behind the longest
gap that follows `from`, between the quotes of a literal. An occurrence starts
at a number exactly if the specifier of its construct stands there.
-/

namespace ImportPolicy.Source

variable {text : List Char} {o : Occurrence}

/-- Nothing is said about the place of an occurrence, or the two ends are in
the text and cut the specifier out of it. -/
def Sliced (text : List Char) (o : Occurrence) : Prop :=
  o = .unknown o.specifier
    ∨ 0 ≤ o.start ∧ o.start ≤ o.stop ∧ o.stop ≤ text.length
      ∧ Report.slice text o.start o.stop = o.specifier.toList

theorem Truthful.sliced (h : Truthful text o) : Sliced text o := by
  obtain hunknown | ⟨before, behind, rfl, hstart, hstop⟩ := h
  · exact .inl hunknown
  · refine .inr ⟨by omega, by omega, ?_, ?_⟩
    · rw [hstop, List.length_append, List.length_append]
      omega
    · rw [hstart, hstop, ← Int.natCast_add, Report.slice_append]

theorem Truthful.shift_length (h : Truthful text o) (before : List Char) :
    Truthful (before ++ text) (o.shift before.length) := by
  induction before with
  | nil => rwa [List.length_nil, Occurrence.shift_zero]
  | cons c before ih =>
    rw [List.length_cons, ← Occurrence.shift_shift]
    exact ih.shift c

/-! ## Gaps -/

/-- What may stand between `from` and a module: blanks, tabs and form feeds,
and continued lines. -/
inductive Gap : List Char → Prop
  | nil : Gap []
  | blank {c : Char} {rest : List Char} :
    c = ' ' ∨ c = '\t' ∨ c = '\x0c' → Gap rest → Gap (c :: rest)
  | continued {rest : List Char} : Gap rest → Gap ('\\' :: '\n' :: rest)
  | continuedReturn {rest : List Char} : Gap rest → Gap ('\\' :: '\r' :: '\n' :: rest)

/-- The longest gap that a text starts with. -/
structure LongestGap (text gap : List Char) : Prop where
  isGap : Gap gap
  starts : gap <+: text
  longest {other : List Char} : Gap other → other <+: text → other.length ≤ gap.length

theorem gap_take_gapLength (text : List Char) : Gap (text.take (gapLength text)) := by
  fun_induction gapLength text with
  | case1 rest ih => exact .continued ih
  | case2 rest ih => exact .continuedReturn ih
  | case3 c rest _ _ hc ih => exact .blank hc ih
  | case4 c rest _ _ hc => exact .nil
  | case5 => exact .nil

theorem Gap.length_le_gapLength {gap : List Char} (hgap : Gap gap) (behind : List Char) :
    gap.length ≤ gapLength (gap ++ behind) := by
  induction hgap with
  | nil => exact Nat.zero_le _
  | @blank c rest hc _ ih =>
    obtain rfl | rfl | rfl := hc
    · exact Nat.succ_le_succ ih
    · exact Nat.succ_le_succ ih
    · exact Nat.succ_le_succ ih
  | continued _ ih => exact Nat.add_le_add_right ih 2
  | continuedReturn _ ih => exact Nat.add_le_add_right ih 3

theorem longestGap_iff {gap : List Char} :
    LongestGap text gap ↔ gap = text.take (gapLength text) := by
  have hlength : (text.take (gapLength text)).length = gapLength text :=
    List.length_take_of_le (gapLength_le text)
  constructor
  · rintro ⟨hgap, ⟨behind, rfl⟩, hlongest⟩
    have hle := hgap.length_le_gapLength behind
    have hge := hlongest (gap_take_gapLength _) (List.take_prefix _ _)
    rw [hlength] at hge
    rw [← Nat.le_antisymm hle hge, List.take_left]
  · rintro rfl
    refine ⟨gap_take_gapLength text, List.take_prefix _ _, fun hother => ?_⟩
    rintro ⟨behind, rfl⟩
    rw [hlength]
    exact hother.length_le_gapLength behind

/-! ## Where a construct has its specifier -/

open Text.Lines (offset)

/-- A node has the specifier of the given number at an offset of the text. -/
inductive Stands (text : List Char) : Tree → Nat → Nat → Prop
  /-- The name of a module stands where the module starts. -/
  | module {span place : Span} {modules below : List Tree} {number : Nat} {name : String} :
    modules[number]? = some (.node (.alias name) place below) →
    name.toList <+: text.drop (offset text place.line place.column) →
    Stands text (.node .importModules span modules) number (offset text place.line place.column)
  /-- The dots and the name of a module stand behind the gap that follows
  `from`. -/
  | members {module : Option String} {level : Nat} {span : Span} {below : List Tree}
      {gap : List Char} :
    LongestGap (text.drop (offset text span.line span.column + 4)) gap → gap ≠ [] →
    (fromSpecifier module level).toList
      <+: text.drop (offset text span.line span.column + 4 + gap.length) →
    Stands text (.node (.importFrom module level) span below) 0
      (offset text span.line span.column + 4 + gap.length)
  /-- The value of a literal on one line stands between its quotes. -/
  | call {positional : Nat} {span place : Span} {function : Tree} {value : String}
      {below more : List Tree} {quote : Char} :
    Importer function → place.line = place.endLine → quote = '\'' ∨ quote = '"' →
    (text.drop (offset text place.line place.column)).take
        (offset text place.endLine place.endColumn - offset text place.line place.column)
      = quote :: (value.toList ++ [quote]) →
    Stands text (.node (.call (positional + 1)) span
        (function :: .node (.literal (.text value)) place below :: more))
      0 (offset text place.line place.column + 1)

section
variable {span place : Span} {below : List Tree} {n : Nat}

theorem stands_module {modules : List Tree} {number : Nat} {name : String}
    (hitem : modules[number]? = some (.node (.alias name) place below)) :
    Stands text (.node .importModules span modules) number n
      ↔ n = offset text place.line place.column ∧ name.toList <+: text.drop
        (offset text place.line place.column) := by
  constructor
  · intro h
    cases h with
    | module hother hname =>
      rw [hitem] at hother
      cases hother
      exact ⟨rfl, hname⟩
  · rintro ⟨rfl, hname⟩
    exact .module hitem hname

theorem stands_members {module : Option String} {level : Nat} :
    Stands text (.node (.importFrom module level) span below) 0 n
      ↔ ∃ gap, LongestGap (text.drop (offset text span.line span.column + 4)) gap ∧ gap ≠ []
        ∧ n = offset text span.line span.column + 4 + gap.length
        ∧ (fromSpecifier module level).toList
          <+: text.drop (offset text span.line span.column + 4 + gap.length) := by
  constructor
  · intro h
    cases h with
    | members hgap hsome hname => exact ⟨_, hgap, hsome, rfl, hname⟩
  · rintro ⟨gap, hgap, hsome, rfl, hname⟩
    exact .members hgap hsome hname

theorem stands_call {positional : Nat} {function : Tree} {value : String} {more : List Tree}
    (himporter : Importer function) :
    Stands text (.node (.call (positional + 1)) span
        (function :: .node (.literal (.text value)) place below :: more)) 0 n
      ↔ place.line = place.endLine ∧ n = offset text place.line place.column + 1
        ∧ ∃ quote, (quote = '\'' ∨ quote = '"')
          ∧ (text.drop (offset text place.line place.column)).take
              (offset text place.endLine place.endColumn - offset text place.line place.column)
            = quote :: (value.toList ++ [quote]) := by
  constructor
  · intro h
    cases h with
    | call _ hline hquote hraw => exact ⟨hline, rfl, _, hquote, hraw⟩
  · rintro ⟨hline, rfl, quote, hquote, hraw⟩
    exact .call himporter hline hquote hraw

end

/-! ## The three searches are exact -/

theorem start_unknown_ne (specifier : String) (n : Nat) :
    (Occurrence.unknown specifier).start ≠ n := by
  show (-1 : Int) ≠ n
  omega

theorem start_located {specifier : String} {start n : Nat} :
    (located text specifier start).start = n
      ↔ n = start ∧ specifier.toList <+: text.drop start := by
  rw [List.prefix_iff_eq_take, eq_comm (a := specifier.toList)]
  unfold located
  dsimp only
  split
  · rename_i hfound
    rw [and_iff_left hfound, Int.natCast_inj, eq_comm]
  · rename_i hfound
    simp [hfound, start_unknown_ne]

theorem start_locatedBehindFrom {specifier : String} {start n : Nat} :
    (locatedBehindFrom text specifier start).start = n
      ↔ ∃ gap, LongestGap (text.drop (start + 4)) gap ∧ gap ≠ []
        ∧ n = start + 4 + gap.length
        ∧ specifier.toList <+: text.drop (start + 4 + gap.length) := by
  have hlength : ((text.drop (start + 4)).take (gapLength (text.drop (start + 4)))).length
      = gapLength (text.drop (start + 4)) := List.length_take_of_le (gapLength_le _)
  have hfrom : "from".length = 4 := rfl
  simp only [longestGap_iff, exists_eq_left, ← List.length_pos_iff, hlength]
  unfold locatedBehindFrom
  dsimp only
  rw [hfrom]
  split
  · rename_i hgap
    simp [hgap, start_unknown_ne]
  · rename_i hgap
    rw [start_located, and_iff_right (Nat.pos_of_ne_zero hgap)]

theorem start_locatedLiteral {value : String} {start stop n : Nat} :
    (locatedLiteral text value start stop).start = n
      ↔ n = start + 1 ∧ ∃ quote, (quote = '\'' ∨ quote = '"')
        ∧ (text.drop start).take (stop - start) = quote :: (value.toList ++ [quote]) := by
  constructor
  · intro h
    obtain hunknown | ⟨hplace, hquoted⟩ := locatedLiteral_cases text value start stop
    · rw [hunknown] at h
      exact absurd h (start_unknown_ne _ _)
    · rw [hplace] at h
      exact ⟨Int.natCast_inj.mp h.symm, hquoted⟩
  · rintro ⟨rfl, quote, hquote, hraw⟩
    obtain ⟨second, rest, hinner⟩ :=
      List.exists_cons_of_ne_nil (List.concat_ne_nil quote value.toList)
    unfold locatedLiteral
    rw [hraw, hinner]
    dsimp only
    rw [← hinner, if_pos ⟨hquote, List.getLast?_concat, List.dropLast_concat⟩]
    rfl

/-- What a node finds comes from one of its sites, and starts where the
specifier stands. -/
theorem exact_nodeFound {s : Tree} {found : Found} (h : found ∈ nodeFound text s) :
    ∃ number span, ImportsAs s number span found.occurrence.specifier
      ∧ ∀ n : Nat, found.occurrence.start = n ↔ Stands text s number n := by
  unfold nodeFound at h
  split at h
  · rename_i span modules
    obtain ⟨module, hmodule, hfound⟩ := List.mem_filterMap.mp h
    obtain ⟨number, hnumber⟩ := List.mem_iff_getElem?.mp hmodule
    unfold aliasFound at hfound
    split at hfound
    · rename_i name place below
      cases hfound
      refine ⟨number, place, ?_, fun n => start_located.trans (stands_module hnumber).symm⟩
      rw [specifier_located]
      exact .module hnumber
    · cases hfound
  · rename_i module level span below
    cases List.mem_singleton.mp h
    refine ⟨0, span, ?_, fun n => start_locatedBehindFrom.trans stands_members.symm⟩
    rw [specifier_locatedBehindFrom]
    exact .members
  · rename_i positional span function value place below more
    split at h
    · rename_i hfunction
      have himporter := isImporter_iff.mp hfunction
      cases List.mem_singleton.mp h
      refine ⟨0, span, ?_, fun n => ?_⟩
      · dsimp only
        split
        · rw [specifier_locatedLiteral]
          exact .call himporter
        · exact .call himporter
      · rw [stands_call himporter]
        dsimp only
        split
        · rename_i hline
          rw [and_iff_right hline, start_locatedLiteral]
        · rename_i hline
          simp [hline, start_unknown_ne]
    · cases h
  · cases h

/-! ## The occurrences of a text -/

theorem exact_of_mem_imports {tree : Tree} (h : o ∈ tree.imports text) :
    ∃ s ∈ tree.preorder, ∃ number span, ImportsAs s number span o.specifier
      ∧ ∀ n : Nat, o.start = n ↔ Stands text s number n := by
  obtain ⟨found, hfound, rfl⟩ := List.mem_map.mp h
  obtain ⟨s, hs, hnode⟩ := List.mem_flatMap.mp (List.mem_mergeSort.mp hfound)
  exact ⟨s, hs, exact_nodeFound hnode⟩

theorem start_shift (o : Occurrence) (count n : Nat) :
    (o.shift count).start = count + n ↔ o.start = n := by
  unfold Occurrence.shift Occurrence.isKnown
  split
  · show o.start + count = count + n ↔ _
    omega
  · rename_i hunknown
    rw [decide_eq_true_iff] at hunknown
    omega

theorem specifier_shift (o : Occurrence) (count : Nat) :
    (o.shift count).specifier = o.specifier := by
  unfold Occurrence.shift
  split
  · rfl
  · rfl

/-- **Places slice their specifiers.** Every import of a text has no known
place, or two ends inside the text with the specifier between them. Whatever
tree the text behind the byte order marks is read as, this holds of the
imports of the tree, and they start where the specifiers of their constructs
stand: behind the marks, at that offset of the text without marks. -/
theorem imports_sliced [CharacterNames] (text : List Char) (tree : Tree) :
    (∀ o ∈ imports text, Sliced text o)
    ∧ (parse (String.ofList (unmarked text)) = .ok tree →
      imports text = (tree.imports (unmarked text)).map (·.shift (marks text)))
    ∧ ∀ o ∈ (tree.imports (unmarked text)).map (·.shift (marks text)),
      Sliced text o
      ∧ ∃ s ∈ tree.preorder, ∃ number span, ImportsAs s number span o.specifier
        ∧ ∀ n : Nat, o.start = marks text + n ↔ Stands (unmarked text) s number n := by
  refine ⟨fun o ho => (truthful_imports ho).sliced, fun hparse => ?_, fun o ho => ?_⟩
  · rw [imports_eq, importsOf, hparse]
  · obtain ⟨inner, hinner, rfl⟩ := List.mem_map.mp ho
    have hshifted := (truthful_of_mem_imports hinner).shift_length
      (text.takeWhile (· = byteOrderMark))
    rw [unmarked, List.takeWhile_append_dropWhile] at hshifted
    obtain ⟨s, hs, number, span, himports, hstands⟩ := exact_of_mem_imports hinner
    refine ⟨hshifted.sliced, s, hs, number, span, ?_, fun n => ?_⟩
    · rwa [specifier_shift]
    · rw [start_shift, hstands]

/-- Two byte order marks, a wide character, and a module on the next line of
its import; the lines end in two ways. -/
def continued : List Char := "\uFEFF\uFEFF'ü'; from \\\r\n\t.x import y\r".toList

/-- The place of the module counts the marks and each character once. -/
theorem imports_sliced_continued :
    imports continued = [⟨".x", 16, 18⟩]
    ∧ Report.slice continued 16 18 = ".x".toList
    ∧ ∃ tree, parse (String.ofList (unmarked continued)) = .ok tree
      ∧ ∃ s ∈ tree.preorder, ∃ number span, ImportsAs s number span ".x"
        ∧ Stands (unmarked continued) s number 14 := by
  have himports : imports continued = [⟨".x", 16, 18⟩] := by decide +kernel
  have hread : (parse (String.ofList (unmarked continued))).isOk = true := by decide +kernel
  obtain ⟨tree, htree⟩ := isOk_iff.mp hread
  obtain ⟨hsliced, hparsed, hplaced⟩ := imports_sliced continued tree
  rw [← hparsed htree, himports] at hplaced
  obtain ⟨-, s, hs, number, span, himport, hstands⟩ := hplaced _ List.mem_cons_self
  refine ⟨himports, ?_, tree, htree, s, hs, number, span, himport, ?_⟩
  · have hslice := hsliced ⟨".x", 16, 18⟩ (by rw [himports]; exact List.mem_cons_self)
    obtain hunknown | ⟨-, -, -, hslice⟩ := hslice
    · simp [Occurrence.unknown] at hunknown
    · exact hslice
  · have hmarks : marks continued = 2 := by decide +kernel
    refine (hstands 14).mp ?_
    rw [hmarks]
    rfl

end ImportPolicy.Source
