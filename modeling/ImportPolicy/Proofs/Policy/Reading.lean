import ImportPolicy.Proofs.Policy.Shape
import ImportPolicy.Proofs.Rows

/-!
# Reading the parts of a policy table

For each reader of a part of a policy table there are three lemmas: it has an
answer just for what has the right shape, it answers with what is written
there, and otherwise its fault is what is wrong with the part.

The readers go through the items of a row from left to right, and all of them
take what is left out or null for nothing. Both are said once, for rows in
`mapM_eq_ok` and `mapM_eq_error`, and for what may be left out in
`decodeOptional_eq_ok` and `decodeOptional_eq_error`.
-/

namespace ImportPolicy

open Document (Value Entries)

/-! ## Patterns -/

theorem isFilled_iff {text : String} : IsFilled text ↔ Text.isBlankText text = false := by
  simp [IsFilled, Text.isBlankText]

theorem Policy.Rule.isFilled_iff {r : Policy.Rule} :
    r.IsFilled ↔ ∀ text ∈ r.filePattern :: r.allowed, Text.isBlankText text = false := by
  simp only [List.forall_mem_cons, ← ImportPolicy.isFilled_iff]
  exact ⟨fun h => ⟨h.filePattern, h.allowed⟩, fun h => ⟨h.1, h.2⟩⟩

theorem isPattern_iff {value : Value} :
    IsPattern value ↔ ∃ text, value = .text text ∧ IsFilled text := by
  constructor
  · intro h
    cases value with
    | text text => exact ⟨text, rfl, h⟩
    | _ => exact absurd h not_false
  · rintro ⟨text, rfl, h⟩
    exact h

theorem patternText?_eq_some {value : Value} {text : String} :
    patternText? value = some text ↔ value = .text text ∧ IsFilled text := by
  rw [isFilled_iff]
  unfold patternText?
  split
  · rename_i other
    cases hblank : Text.isBlankText other with
    | true =>
      refine iff_of_false (by simp) ?_
      rintro ⟨heq, hfilled⟩
      cases heq
      rw [hblank] at hfilled
      cases hfilled
    | false =>
      constructor
      · intro h
        cases h
        exact ⟨rfl, hblank⟩
      · rintro ⟨heq, -⟩
        cases heq
        rfl
  · rename_i hother
    exact iff_of_false (by simp) fun h => hother _ h.1

theorem patternText?_eq_none {value : Value} : patternText? value = none ↔ ¬ IsPattern value := by
  rw [Option.eq_none_iff_forall_ne_some, isPattern_iff]
  simp only [ne_eq, patternText?_eq_some, not_exists]

/-- One step of reading a list of patterns. -/
def decodePattern (place : String) (item : Value) : Except DecodeFault String :=
  match patternText? item with
  | some text => .ok text
  | none => if item.hasLongNumber then .error .longNumber else .error (.pattern place item)

theorem decodePatterns_eq_mapM (place : String) (items : List Value) :
    decodePatterns place items = items.mapM (decodePattern place) := by
  induction items with
  | nil => rfl
  | cons item more ih =>
    rw [decodePatterns, List.mapM_cons, decodePattern, ih]
    cases patternText? item with
    | some text => rfl
    | none =>
      dsimp only
      split
      · rfl
      · rfl

variable {place : String} {item value : Value} {text : String} {f : DecodeFault}

theorem decodePattern_eq_ok :
    decodePattern place item = .ok text ↔ item = .text text ∧ IsFilled text := by
  rw [← patternText?_eq_some]
  unfold decodePattern
  cases patternText? item with
  | some other => simp
  | none =>
    dsimp only
    split
    · simp
    · simp

theorem exists_decodePattern_eq_ok :
    (∃ text, decodePattern place item = .ok text) ↔ IsPattern item := by
  simp only [decodePattern_eq_ok, isPattern_iff]

theorem decodePattern_eq_error :
    decodePattern place item = .error f ↔ ¬ IsPattern item
      ∧ (item.hasLongNumber = false ∧ f = .pattern place item
        ∨ item.hasLongNumber = true ∧ f = .longNumber) := by
  rw [← patternText?_eq_none]
  unfold decodePattern
  cases patternText? item with
  | some other => simp
  | none =>
    cases hlong : item.hasLongNumber with
    | true => simp [eq_comm]
    | false => simp [eq_comm]

theorem failsFirst_decodePattern {items : List Value} {i : Nat} :
    FailsFirst (decodePattern place) items i f
      ↔ ∃ item, IsFirstOutside IsPattern items i item
        ∧ (item.hasLongNumber = false ∧ f = .pattern place item
          ∨ item.hasLongNumber = true ∧ f = .longNumber) := by
  unfold FailsFirst IsFirstOutside
  simp only [decodePattern_eq_error, exists_decodePattern_eq_ok]
  constructor
  · rintro ⟨⟨item, hitem, hpattern, hfault⟩, hbefore⟩
    exact ⟨item, ⟨hitem, hpattern, hbefore⟩, hfault⟩
  · rintro ⟨item, ⟨hitem, hpattern, hbefore⟩, hfault⟩
    exact ⟨⟨item, hitem, hpattern, hfault⟩, hbefore⟩

/-! ## Lists of patterns -/

theorem decodePatternList_eq_ok {patterns : List String} :
    decodePatternList place value = .ok patterns
      ↔ StandsForPatterns value patterns ∧ ∀ pattern ∈ patterns, IsFilled pattern := by
  unfold decodePatternList StandsForPatterns patternsValue
  split
  · rename_i items
    rw [decodePatterns_eq_mapM, mapM_eq_ok]
    simp only [decodePattern_eq_ok]
    rw [forall₂_and_right, forall₂_eq_map, Value.array.injEq]
  · rename_i hother
    exact iff_of_false (by simp) fun h => hother _ h.1

theorem IsPatternList.exists_array (h : IsPatternList value) : ∃ items, value = .array items := by
  cases value with
  | array items => exact ⟨items, rfl⟩
  | _ => exact absurd h not_false

theorem exists_decodePatternList_eq_ok :
    (∃ patterns, decodePatternList place value = .ok patterns) ↔ IsPatternList value := by
  unfold decodePatternList
  split
  · rename_i items
    rw [decodePatterns_eq_mapM, exists_mapM_eq_ok]
    simp only [exists_decodePattern_eq_ok]
    rfl
  · rename_i hother
    exact iff_of_false (by simp) fun h => h.exists_array.elim hother

theorem decodePatternList_eq_error :
    decodePatternList place value = .error f ↔ PatternListFault place value f := by
  unfold decodePatternList
  split
  · rename_i items
    simp only [decodePatterns_eq_mapM, mapM_eq_error, failsFirst_decodePattern]
    constructor
    · rintro ⟨i, item, hfirst, ⟨hshown, rfl⟩ | ⟨hlong, rfl⟩⟩
      · exact .item hfirst hshown
      · exact .long hfirst hlong
    · rintro (h | ⟨hfirst, hshown⟩ | ⟨hfirst, hlong⟩)
      · exact absurd rfl (h items)
      · exact ⟨_, _, hfirst, .inl ⟨hshown, rfl⟩⟩
      · exact ⟨_, _, hfirst, .inr ⟨hlong, rfl⟩⟩
  · rename_i hother
    constructor
    · intro h
      cases h
      exact .kind hother
    · rintro (h | ⟨hfirst, -⟩ | ⟨hfirst, -⟩)
      · rfl
      · exact absurd rfl (hother _)
      · exact absurd rfl (hother _)

/-! ## The mapping -/

/-- One step of reading the mapping. -/
def decodeEntry (entry : String × Value) : Except DecodeFault Policy.Rule :=
  if Text.isBlankText entry.1 then .error (.importsKey entry.1)
  else do
    let allowed ← decodePatternList ("imports." ++ entry.1) entry.2
    .ok ⟨entry.1, allowed⟩

theorem decodeImports_eq_mapM (entries : Entries) :
    decodeImports entries = entries.mapM decodeEntry := by
  induction entries with
  | nil => rfl
  | cons entry more ih =>
    rw [decodeImports, List.mapM_cons, decodeEntry, ih]
    by_cases hkey : Text.isBlankText entry.1 = true
    · rw [if_pos hkey, if_pos hkey]
      rfl
    · rw [if_neg hkey, if_neg hkey]
      cases decodePatternList ("imports." ++ entry.1) entry.2 with
      | ok allowed => rfl
      | error f => rfl

variable {entry : String × Value} {r : Policy.Rule} {rules : List Policy.Rule} {entries : Entries}

theorem decodeEntry_eq_ok :
    decodeEntry entry = .ok r ↔ entry = r.entry ∧ r.IsFilled := by
  obtain ⟨key, value⟩ := entry
  unfold decodeEntry
  by_cases hkey : IsFilled key
  · have hblank := isFilled_iff.mp hkey
    rw [if_neg (by simp [hblank]), bind_eq_ok]
    simp only [decodePatternList_eq_ok]
    constructor
    · rintro ⟨allowed, ⟨hvalue, hallowed⟩, h⟩
      cases h
      exact ⟨congrArg (key, ·) hvalue, hkey, hallowed⟩
    · rintro ⟨hentry, hfilled⟩
      cases hentry
      exact ⟨r.allowed, ⟨rfl, hfilled.allowed⟩, rfl⟩
  · rw [if_pos (by simpa [isFilled_iff] using hkey)]
    refine iff_of_false (by simp) fun h => hkey ?_
    rw [show key = r.filePattern from congrArg Prod.fst h.1]
    exact h.2.filePattern

theorem exists_decodeEntry_eq_ok :
    (∃ r, decodeEntry entry = .ok r) ↔ IsFilled entry.1 ∧ IsPatternList entry.2 := by
  rw [← @exists_decodePatternList_eq_ok ("imports." ++ entry.1)]
  simp only [decodeEntry_eq_ok, decodePatternList_eq_ok]
  constructor
  · rintro ⟨r, rfl, hfilled⟩
    exact ⟨hfilled.filePattern, r.allowed, rfl, hfilled.allowed⟩
  · rintro ⟨hkey, allowed, hvalue, hallowed⟩
    exact ⟨⟨entry.1, allowed⟩, Prod.ext rfl hvalue, hkey, hallowed⟩

theorem decodeEntry_eq_error : decodeEntry entry = .error f ↔ EntryFault entry f := by
  obtain ⟨key, value⟩ := entry
  unfold decodeEntry
  by_cases hkey : IsFilled key
  · have hblank := isFilled_iff.mp hkey
    rw [if_neg (by simp [hblank]), bind_eq_error]
    simp only [decodePatternList_eq_error]
    constructor
    · rintro (h | ⟨allowed, -, h⟩)
      · exact .patterns hkey h
      · cases h
    · rintro (h | ⟨-, h⟩)
      · exact absurd hkey h
      · exact .inl h
  · rw [if_pos (by simpa [isFilled_iff] using hkey)]
    constructor
    · intro h
      cases h
      exact .key hkey
    · rintro (h | ⟨hfilled, -⟩)
      · rfl
      · exact absurd hfilled hkey

theorem EntryFault.not_shape (h : EntryFault entry f) :
    ¬ (IsFilled entry.1 ∧ IsPatternList entry.2) := by
  rw [← exists_decodeEntry_eq_ok, decodeEntry_eq_error.mpr h]
  simp

/-- Reading a value in the place of the mapping. -/
def decodeMapping : Value → Except DecodeFault (List Policy.Rule)
  | .table entries => decodeImports entries
  | _ => .error .imports

theorem decodeMapping_of_ne_table (h : ∀ entries, value ≠ .table entries) :
    decodeMapping value = .error .imports := by
  unfold decodeMapping
  split
  · exact absurd rfl (h _)
  · rfl

theorem decodeMapping_eq_ok :
    decodeMapping value = .ok rules ↔ StandsForMapped value rules ∧ ∀ r ∈ rules, r.IsFilled := by
  unfold decodeMapping StandsForMapped
  split
  · rename_i entries
    rw [decodeImports_eq_mapM, mapM_eq_ok]
    simp only [decodeEntry_eq_ok]
    rw [forall₂_and_right, forall₂_eq_map, Value.table.injEq]
  · rename_i hother
    exact iff_of_false (by simp) fun h => hother _ h.1

theorem IsMapping.exists_table (h : IsMapping value) : ∃ entries, value = .table entries := by
  cases value with
  | table entries => exact ⟨entries, rfl⟩
  | _ => exact absurd h not_false

theorem exists_decodeMapping_eq_ok :
    (∃ rules, decodeMapping value = .ok rules) ↔ IsMapping value := by
  unfold decodeMapping
  split
  · rename_i entries
    rw [decodeImports_eq_mapM, exists_mapM_eq_ok]
    simp only [exists_decodeEntry_eq_ok]
    rfl
  · rename_i hother
    exact iff_of_false (by simp) fun h => h.exists_table.elim hother

/-! ## What may be left out -/

/-- Reading a value that may be left out or null. -/
def decodeOptional {β : Type} (decode : Value → Except DecodeFault (List β)) :
    Option Value → Except DecodeFault (List β)
  | none => .ok []
  | some .null => .ok []
  | some value => decode value

section Optional

variable {β : Type} {decode : Value → Except DecodeFault (List β)} {answers : List β}
  {given : Value → List β → Prop} {good : β → Prop} {shape : Value → Prop}

theorem decodeOptional_some {found : Value} (h : found ≠ .null) :
    decodeOptional decode (some found) = decode found := by
  rw [decodeOptional]
  exact h

theorem stands_some {found : Value} (h : found ≠ .null) :
    Stands given (some found) answers ↔ given found answers := by
  rw [Stands]
  exact h

theorem isOptional_some {found : Value} (h : found ≠ .null) :
    IsOptional shape (some found) ↔ shape found := by
  rw [IsOptional]
  exact h

theorem nothing_or (value : Option Value) :
    value = none ∨ value = some .null ∨ ∃ found, value = some found ∧ found ≠ .null := by
  cases value with
  | none => exact .inl rfl
  | some found =>
    by_cases h : found = .null
    · exact .inr (.inl (congrArg some h))
    · exact .inr (.inr ⟨found, rfl, h⟩)

theorem decodeOptional_eq_ok
    (h : ∀ value answers, decode value = .ok answers
      ↔ given value answers ∧ ∀ answer ∈ answers, good answer) (value : Option Value) :
    decodeOptional decode value = .ok answers
      ↔ Stands given value answers ∧ ∀ answer ∈ answers, good answer := by
  have hnothing : (Except.ok [] : Except DecodeFault (List β)) = .ok answers
      ↔ answers = [] ∧ ∀ answer ∈ answers, good answer := by
    rw [Except.ok.injEq, eq_comm, iff_self_and]
    rintro rfl
    exact List.forall_mem_nil _
  obtain rfl | rfl | ⟨found, rfl, hfound⟩ := nothing_or value
  · exact hnothing
  · exact hnothing
  · rw [decodeOptional_some hfound, stands_some hfound]
    exact h found answers

theorem exists_decodeOptional_eq_ok
    (h : ∀ value, (∃ answers, decode value = .ok answers) ↔ shape value) (value : Option Value) :
    (∃ answers, decodeOptional decode value = .ok answers) ↔ IsOptional shape value := by
  obtain rfl | rfl | ⟨found, rfl, hfound⟩ := nothing_or value
  · exact iff_of_true ⟨[], rfl⟩ trivial
  · exact iff_of_true ⟨[], rfl⟩ trivial
  · rw [decodeOptional_some hfound, isOptional_some hfound]
    exact h found

theorem decodeOptional_eq_error {value : Option Value} :
    decodeOptional decode value = .error f
      ↔ ∃ found, value = some found ∧ found ≠ .null ∧ decode found = .error f := by
  obtain rfl | rfl | ⟨found, rfl, hfound⟩ := nothing_or value
  · simp [decodeOptional]
  · simp [decodeOptional]
  · rw [decodeOptional_some hfound]
    simp [hfound]

end Optional

/-! ## The list of rules -/

theorem decodeRule_table (index : Nat) (entries : Entries) :
    decodeRule index (.table entries) = (match (fileValue? entries).bind patternText? with
      | none => .error (.filePattern index)
      | some pattern => do
        let allowed ← decodeOptional (decodePatternList ("rules[" ++ toString index ++ "]"))
          (allowedValue? entries)
        .ok ⟨pattern, allowed⟩) := by
  have hfile : firstOf entries filePatternKeys = fileValue? entries := rfl
  have hallowed : firstOf entries allowedKeys = allowedValue? entries := rfl
  rw [decodeRule, hfile, hallowed]
  cases (fileValue? entries).bind patternText? with
  | none => rfl
  | some pattern =>
    obtain h | h | ⟨found, h, hfound⟩ := nothing_or (allowedValue? entries)
    · rw [h]
      rfl
    · rw [h]
      rfl
    · rw [h, decodeOptional_some hfound]
      cases found with
      | null => exact absurd rfl hfound
      | _ => rfl

theorem decodeRule_of_ne_table {index : Nat} (h : ∀ entries, value ≠ .table entries) :
    decodeRule index value = .error (.rule index) := by
  unfold decodeRule
  split
  · exact absurd rfl (h _)
  · rfl

theorem filePattern_eq_some :
    (fileValue? entries).bind patternText? = some text
      ↔ fileValue? entries = some (.text text) ∧ IsFilled text := by
  rw [Option.bind_eq_some_iff]
  simp only [patternText?_eq_some]
  constructor
  · rintro ⟨found, hfound, rfl, hfilled⟩
    exact ⟨hfound, hfilled⟩
  · rintro ⟨hfound, hfilled⟩
    exact ⟨_, hfound, rfl, hfilled⟩

theorem filePattern_eq_none :
    (fileValue? entries).bind patternText? = none
      ↔ ∀ value, fileValue? entries = some value → ¬ IsPattern value := by
  rw [Option.bind_eq_none_iff]
  simp only [patternText?_eq_none]

theorem decodeRule_eq_ok {index : Nat} :
    decodeRule index value = .ok r ↔ StandsForRule value r ∧ r.IsFilled := by
  by_cases htable : ∃ entries, value = .table entries
  · obtain ⟨entries, rfl⟩ := htable
    have hstands : StandsForRule (.table entries) r
        ↔ fileValue? entries = some (.text r.filePattern)
          ∧ Stands StandsForPatterns (allowedValue? entries) r.allowed := by
      simp [StandsForRule]
    rw [decodeRule_table, hstands]
    cases hpattern : (fileValue? entries).bind patternText? with
    | none =>
      refine iff_of_false (by simp) fun h => ?_
      exact filePattern_eq_none.mp hpattern _ h.1.1 h.2.filePattern
    | some pattern =>
      rw [filePattern_eq_some] at hpattern
      dsimp only
      rw [bind_eq_ok]
      simp only [decodeOptional_eq_ok fun _ _ => decodePatternList_eq_ok]
      constructor
      · rintro ⟨allowed, ⟨hallowed, hfilled⟩, h⟩
        cases h
        exact ⟨⟨hpattern.1, hallowed⟩, hpattern.2, hfilled⟩
      · rintro ⟨⟨hfile, hallowed⟩, hfilled⟩
        obtain rfl : pattern = r.filePattern := by simpa [hpattern.1] using hfile
        exact ⟨r.allowed, ⟨hallowed, hfilled.allowed⟩, rfl⟩
  · have hother : ∀ entries, value ≠ .table entries := fun entries h => htable ⟨entries, h⟩
    rw [decodeRule_of_ne_table hother]
    refine iff_of_false (by simp) ?_
    rintro ⟨⟨entries, rfl, -⟩, -⟩
    exact hother entries rfl

theorem IsRule.exists_table (h : IsRule value) : ∃ entries, value = .table entries := by
  cases value with
  | table entries => exact ⟨entries, rfl⟩
  | _ => exact absurd h not_false

theorem exists_decodeRule_eq_ok {index : Nat} :
    (∃ r, decodeRule index value = .ok r) ↔ IsRule value := by
  by_cases htable : ∃ entries, value = .table entries
  · obtain ⟨entries, rfl⟩ := htable
    rw [IsRule, decodeRule_table]
    cases hpattern : (fileValue? entries).bind patternText? with
    | none =>
      refine iff_of_false (by simp) ?_
      rintro ⟨⟨found, hfound, hfilled⟩, -⟩
      exact filePattern_eq_none.mp hpattern found hfound hfilled
    | some pattern =>
      rw [filePattern_eq_some] at hpattern
      dsimp only
      simp only [bind_eq_ok]
      rw [← exists_decodeOptional_eq_ok
        (@exists_decodePatternList_eq_ok ("rules[" ++ toString index ++ "]"))]
      constructor
      · rintro ⟨r, allowed, hallowed, -⟩
        exact ⟨⟨_, hpattern⟩, allowed, hallowed⟩
      · rintro ⟨-, allowed, hallowed⟩
        exact ⟨_, allowed, hallowed, rfl⟩
  · have hother : ∀ entries, value ≠ .table entries := fun entries h => htable ⟨entries, h⟩
    rw [decodeRule_of_ne_table hother]
    exact iff_of_false (by simp) fun h => h.exists_table.elim hother

theorem decodeRule_eq_error {index : Nat} :
    decodeRule index value = .error f ↔ RuleFault index value f := by
  by_cases htable : ∃ entries, value = .table entries
  · obtain ⟨entries, rfl⟩ := htable
    rw [decodeRule_table]
    cases hpattern : (fileValue? entries).bind patternText? with
    | none =>
      rw [filePattern_eq_none] at hpattern
      constructor
      · intro h
        cases h
        exact .filePattern hpattern
      · rintro (h | - | ⟨hfile, hfilled, -⟩)
        · exact absurd rfl (h entries)
        · rfl
        · exact absurd hfilled (hpattern _ hfile)
    | some pattern =>
      rw [filePattern_eq_some] at hpattern
      dsimp only
      rw [bind_eq_error, decodeOptional_eq_error]
      simp only [decodePatternList_eq_error]
      constructor
      · rintro (⟨found, hfound, hnull, h⟩ | ⟨allowed, -, h⟩)
        · exact .allowed hpattern.1 hpattern.2 hfound hnull h
        · cases h
      · rintro (h | h | ⟨-, -, hallowed, hnull, h⟩)
        · exact absurd rfl (h entries)
        · exact absurd hpattern.2 (h _ hpattern.1)
        · exact .inl ⟨_, hallowed, hnull, h⟩
  · have hother : ∀ entries, value ≠ .table entries := fun entries h => htable ⟨entries, h⟩
    rw [decodeRule_of_ne_table hother]
    constructor
    · intro h
      cases h
      exact .table hother
    · rintro (- | h | ⟨-⟩)
      · rfl
      · exact absurd rfl (hother _)
      · exact absurd rfl (hother _)

theorem RuleFault.not_isRule {index : Nat} (h : RuleFault index value f) : ¬ IsRule value := by
  rw [← exists_decodeRule_eq_ok, decodeRule_eq_error.mpr h]
  simp

theorem decodeRules_eq_mapM (index : Nat) (items : List Value) :
    decodeRules index items = (items.zipIdx index).mapM fun item => decodeRule item.2 item.1 := by
  induction items generalizing index with
  | nil => rfl
  | cons item more ih =>
    rw [decodeRules, List.zipIdx_cons, List.mapM_cons, ih]
    rfl

/-- Reading a value in the place of the list of rules. -/
def decodeRuleList : Value → Except DecodeFault (List Policy.Rule)
  | .array items => decodeRules 0 items
  | _ => .error .rules

theorem decodeRuleList_of_ne_array (h : ∀ items, value ≠ .array items) :
    decodeRuleList value = .error .rules := by
  unfold decodeRuleList
  split
  · exact absurd rfl (h _)
  · rfl

theorem decodeRuleList_eq_ok :
    decodeRuleList value = .ok rules ↔ StandsForListed value rules ∧ ∀ r ∈ rules, r.IsFilled := by
  unfold decodeRuleList StandsForListed
  split
  · rename_i items
    rw [decodeRules_eq_mapM, mapM_eq_ok]
    simp only [decodeRule_eq_ok]
    rw [forall₂_and_right, ← List.forall₂_map_left_iff, List.zipIdx_map_fst]
    simp only [Value.array.injEq, exists_eq_left']
  · rename_i hother
    exact iff_of_false (by simp) fun ⟨⟨items, hitems, _⟩, _⟩ => hother items hitems

theorem IsRuleList.exists_array (h : IsRuleList value) : ∃ items, value = .array items := by
  cases value with
  | array items => exact ⟨items, rfl⟩
  | _ => exact absurd h not_false

theorem exists_decodeRuleList_eq_ok :
    (∃ rules, decodeRuleList value = .ok rules) ↔ IsRuleList value := by
  unfold decodeRuleList
  split
  · rename_i items
    rw [decodeRules_eq_mapM, exists_mapM_eq_ok]
    simp only [exists_decodeRule_eq_ok]
    rw [← List.forall_mem_map (f := Prod.fst) (P := IsRule), List.zipIdx_map_fst]
    rfl
  · rename_i hother
    exact iff_of_false (by simp) fun h => h.exists_array.elim hother

/-- The fault of a list of rules is that of the first rule with one. -/
theorem failsFirst_decodeRule {items : List Value} {i : Nat} :
    FailsFirst (fun item => decodeRule item.2 item.1) items.zipIdx i f
      ↔ (∃ item, items[i]? = some item ∧ RuleFault i item f)
        ∧ ∀ j < i, ∀ item, items[j]? = some item → ∀ other, ¬ RuleFault j item other := by
  have hpasses : ∀ j item, (∃ r, decodeRule j item = .ok r)
      ↔ ∀ other, ¬ RuleFault j item other := by
    intro j item
    simp only [← decodeRule_eq_error]
    cases decodeRule j item with
    | ok r => simp
    | error other => simp
  -- the rules are numbered before they are read, and the number is the place
  unfold FailsFirst
  simp only [List.getElem?_zipIdx, Nat.zero_add, Option.map_eq_some_iff, forall_exists_index,
    and_imp, ← hpasses]
  constructor
  · rintro ⟨⟨-, ⟨item, hitem, rfl⟩, h⟩, hbefore⟩
    exact ⟨⟨item, hitem, decodeRule_eq_error.mp h⟩,
      fun j hj item hitem => hbefore j hj _ item hitem rfl⟩
  · rintro ⟨⟨item, hitem, h⟩, hbefore⟩
    refine ⟨⟨_, ⟨item, hitem, rfl⟩, decodeRule_eq_error.mpr h⟩, ?_⟩
    rintro j hj - item hitem rfl
    exact hbefore j hj item hitem

/-! ## The name -/

/-- Reading a value in the place of the name. -/
def decodeText : Value → Except DecodeFault String
  | .text text => .ok text
  | other => .error (.name other.kind)

theorem decodeName_eq (override : Option String) (name : Option Value) :
    decodeName override name = decodeText (effectiveName override name) := by
  have hgiven : decodeName.given name = decodeText ((name.filter Value.isGiven).getD
      (.text "importguard")) := by
    cases name with
    | none => rfl
    | some value =>
      unfold decodeName.given Option.filter
      dsimp only
      cases value.isGiven with
      | false => rfl
      | true => cases value <;> rfl
  unfold decodeName effectiveName
  cases override with
  | none => exact hgiven
  | some text =>
    by_cases htext : text = ""
    · rw [htext]
      exact hgiven
    · have hkept : (some text).filter (· ≠ "") = some text := by simp [Option.filter, htext]
      dsimp only
      rw [if_neg htext, hkept]
      rfl

end ImportPolicy
