import ImportPolicy.Proofs.Policy.Acceptance

/-!
# The spellings of a policy

A policy can be written in many ways. Each of its rules is an entry of the
mapping or the table of a rule in the list; in the table there are two keys
for the file pattern and three for the import patterns, which may be left out
if there are none; and the keys of a table can come in any order. The mapping
comes before the list, so the rules of the one are the first rules of the
policy and those of the other the last ones, and a mapping has no two entries
with the same key. With this, all the ways to write a policy down are read as
the same policy (`decode_spelled`).
-/

namespace ImportPolicy

open Document (Value Entries)

/-! ## Tables with distinct keys -/

namespace Document.Entries

variable {entries others : Entries} {key other : String} {value found : Value}

theorem get?_cons_self : get? ((key, value) :: entries) key = some value := by
  simp [get?]

theorem get?_cons_of_ne (h : key ≠ other) :
    get? ((other, value) :: entries) key = get? entries key := by
  simp [get?, List.lookup_cons, beq_eq_false_iff_ne.mpr h]

/-- The order of distinct keys makes no difference to what is under them. -/
theorem get?_perm (h : entries.Perm others) (hdistinct : (entries.map Prod.fst).Nodup)
    (key : String) : get? entries key = get? others key := by
  induction h with
  | nil => rfl
  | cons entry _ ih =>
    rw [List.map_cons, List.nodup_cons] at hdistinct
    by_cases hkey : key = entry.1
    · rw [hkey, get?_cons_self, get?_cons_self]
    · rw [get?_cons_of_ne hkey, get?_cons_of_ne hkey, ih hdistinct.2]
  | swap entry next rest =>
    -- no key is that of both, so the one that is looked for is found wherever it is
    have hne : entry.1 ≠ next.1 := by
      rw [List.map_cons, List.map_cons, List.nodup_cons] at hdistinct
      exact fun heq => hdistinct.1 (heq ▸ List.mem_cons_self)
    by_cases hkey : key = entry.1
    · rw [hkey, get?_cons_of_ne hne, get?_cons_self, get?_cons_self]
    by_cases hnext : key = next.1
    · rw [hnext, get?_cons_self, get?_cons_of_ne hne.symm, get?_cons_self]
    · rw [get?_cons_of_ne hnext, get?_cons_of_ne hkey, get?_cons_of_ne hkey,
        get?_cons_of_ne hnext]
  | trans hfirst _ ihfirst ihsecond =>
    have hmiddle := (hfirst.map Prod.fst).nodup hdistinct
    rw [ihfirst hdistinct, ihsecond hmiddle]

/-- A new key is put behind the ones that are there. -/
theorem set_of_not_mem (h : key ∉ entries.map Prod.fst) :
    set key value entries = entries ++ [(key, value)] := by
  induction entries with
  | nil => rfl
  | cons entry more ih =>
    rw [List.map_cons, List.mem_cons, not_or] at h
    rw [set, if_neg (Ne.symm h.1), ih h.2, List.cons_append]

end Document.Entries

/-! ## Spellings -/

/-- The mapping of file patterns to import patterns in which rules are set one
after the other. -/
def mappingOf (rules : List Policy.Rule) : Entries :=
  rules.foldl (fun mapping r => Entries.set r.filePattern (patternsValue r.allowed) mapping) []

/-- The tables of a rule: there is a key for the file pattern, and there is one
for the import patterns, or none if the rule has no import patterns. -/
inductive SpellsRule (entries : Entries) (r : Policy.Rule) : Prop
  | full {fileKey allowedKey : String} (hfile : fileKey ∈ ["file_pattern", "filePattern"])
    (hallowed : allowedKey
      ∈ ["allowed_imports", "allowedImportPatterns", "allowed_import_patterns"])
    (h : entries.Perm [(fileKey, .text r.filePattern), (allowedKey, patternsValue r.allowed)]) :
    SpellsRule entries r
  | bare {fileKey : String} (hfile : fileKey ∈ ["file_pattern", "filePattern"])
    (hnone : r.allowed = []) (h : entries = [(fileKey, .text r.filePattern)]) :
    SpellsRule entries r

/-- A table has a name, the mapping of some rules, and a list of the tables of
others. -/
def Spells (table : Entries) (name : String) (mapped listed : List Policy.Rule) : Prop :=
  ∃ tables : List Entries, List.Forall₂ SpellsRule tables listed
    ∧ table.Perm [("name", .text name), ("imports", .table (mappingOf mapped)),
      ("rules", .array (tables.map .table))]

theorem foldl_set_eq {entries : Entries} {rules : List Policy.Rule}
    (h : (entries.map Prod.fst ++ rules.map Policy.Rule.filePattern).Nodup) :
    rules.foldl (fun mapping r => Entries.set r.filePattern (patternsValue r.allowed) mapping)
        entries
      = entries ++ rules.map Policy.Rule.entry := by
  induction rules generalizing entries with
  | nil => rw [List.foldl_nil, List.map_nil, List.append_nil]
  | cons r more ih =>
    have hnew : r.filePattern ∉ entries.map Prod.fst := by
      rw [List.map_cons, List.nodup_append] at h
      exact fun hmem => h.2.2 _ hmem _ List.mem_cons_self rfl
    have hmore : ((entries ++ [r.entry]).map Prod.fst
        ++ more.map Policy.Rule.filePattern).Nodup := by
      rw [List.map_append, List.append_assoc]
      exact h
    rw [List.foldl_cons, Document.Entries.set_of_not_mem hnew]
    show more.foldl _ (entries ++ [r.entry]) = _
    rw [ih hmore, List.append_assoc]
    rfl

/-- Rules with distinct file patterns are the entries of their mapping. -/
theorem mappingOf_eq {rules : List Policy.Rule}
    (h : (rules.map Policy.Rule.filePattern).Nodup) :
    mappingOf rules = rules.map Policy.Rule.entry := by
  show rules.foldl _ [] = [] ++ rules.map Policy.Rule.entry
  exact foldl_set_eq h

theorem fileValue?_perm {entries others : Entries} (h : entries.Perm others)
    (hdistinct : (entries.map Prod.fst).Nodup) : fileValue? entries = fileValue? others := by
  unfold fileValue?
  rw [funext (Document.Entries.get?_perm h hdistinct)]

theorem allowedValue?_perm {entries others : Entries} (h : entries.Perm others)
    (hdistinct : (entries.map Prod.fst).Nodup) :
    allowedValue? entries = allowedValue? others := by
  unfold allowedValue?
  rw [funext (Document.Entries.get?_perm h hdistinct)]

/-- No key for the file pattern is one for the import patterns, and each key is
found. -/
theorem values_of_keys {fileKey allowedKey : String}
    (hfile : fileKey ∈ ["file_pattern", "filePattern"])
    (hallowed : allowedKey
      ∈ ["allowed_imports", "allowedImportPatterns", "allowed_import_patterns"])
    (file allowed : Value) :
    [fileKey, allowedKey].Nodup
      ∧ fileValue? [(fileKey, file), (allowedKey, allowed)] = some file
      ∧ allowedValue? [(fileKey, file), (allowedKey, allowed)] = some allowed := by
  simp only [List.mem_cons, List.not_mem_nil, or_false] at hfile hallowed
  obtain rfl | rfl := hfile
  all_goals
    obtain rfl | rfl | rfl := hallowed
    all_goals exact ⟨by decide, rfl, rfl⟩

theorem values_of_key {fileKey : String} (hfile : fileKey ∈ ["file_pattern", "filePattern"])
    (file : Value) :
    fileValue? [(fileKey, file)] = some file ∧ allowedValue? [(fileKey, file)] = none := by
  simp only [List.mem_cons, List.not_mem_nil, or_false] at hfile
  obtain rfl | rfl := hfile
  all_goals exact ⟨rfl, rfl⟩

/-- Whatever the keys and their order, it is the table of the rule. -/
theorem SpellsRule.standsForRule {entries : Entries} {r : Policy.Rule}
    (h : SpellsRule entries r) : StandsForRule (.table entries) r := by
  cases h with
  | full hfile hallowed hperm =>
    obtain ⟨hkeys, hfileValue, hallowedValue⟩ :=
      values_of_keys hfile hallowed (.text r.filePattern) (patternsValue r.allowed)
    have hdistinct : (entries.map Prod.fst).Nodup := (hperm.map Prod.fst).nodup_iff.mpr hkeys
    refine ⟨entries, rfl, (fileValue?_perm hperm hdistinct).trans hfileValue, ?_⟩
    rw [allowedValue?_perm hperm hdistinct, hallowedValue]
    exact rfl
  | bare hfile hnone h =>
    obtain ⟨hfileValue, hallowedValue⟩ := values_of_key hfile (.text r.filePattern)
    refine ⟨entries, rfl, by rw [h, hfileValue], ?_⟩
    rw [h, hallowedValue]
    exact hnone

/-! ## Reading -/

theorem Spells.get? {table : Entries} {name : String} {mapped listed : List Policy.Rule}
    (h : Spells table name mapped listed) :
    table.get? "name" = some (.text name)
      ∧ table.get? "imports" = some (.table (mappingOf mapped))
      ∧ ∃ value, table.get? "rules" = some value ∧ StandsForListed value listed := by
  obtain ⟨tables, htables, hperm⟩ := h
  have hdistinct : (table.map Prod.fst).Nodup :=
    (hperm.map Prod.fst).nodup_iff.mpr (by simp)
  have hget := Document.Entries.get?_perm hperm hdistinct
  refine ⟨hget "name", hget "imports", _, hget "rules", tables.map .table, rfl, ?_⟩
  rw [List.forall₂_map_left_iff]
  exact htables.imp fun _ _ hspells => hspells.standsForRule

theorem effectiveName_of_given {name : String} (h : name ≠ "") :
    effectiveName none (some (.text name)) = .text name := by
  have hgiven : Value.isGiven (.text name) = true := by simpa [Value.isGiven] using h
  have hkept : (some (Value.text name)).filter Value.isGiven = some (.text name) := by
    rw [Option.filter, if_pos hgiven]
  rw [effectiveName, hkept]
  rfl

theorem Policy.ofTable_entries {p : Policy} {rules : List Policy.Rule} (h : p.rules = rules) :
    Policy.ofTable (rules.map fun r => (r.filePattern, r.allowed)) p.name = p := by
  rw [Policy.ofTable, List.map_map, ← h]
  exact congrArg (Policy.mk · p.name) (List.map_id p.rules)

/-- **All spellings of a policy are read as the policy.** A policy whose
patterns have something in them and whose name is not empty is cut into the
rules of a mapping, whose file patterns are distinct, and those of a list. A
table with the mapping, a list of tables of the other rules, each with any of
the keys, and the name is decoded to the policy. If all rules are in the
mapping, that is the policy of the mapping under this name. -/
theorem decode_spelled (p : Policy) (mapped listed : List Policy.Rule) (table : Entries)
    (hcut : p.rules = mapped ++ listed) (hfilled : ∀ r ∈ p.rules, r.IsFilled)
    (hname : p.name ≠ "") (hdistinct : (mapped.map Policy.Rule.filePattern).Nodup)
    (htable : Spells table p.name mapped listed) :
    Policy.decode table none = .ok p
      ∧ (listed = [] → Policy.decode table none
        = .ok (Policy.ofTable (mapped.map fun r => (r.filePattern, r.allowed)) p.name)) := by
  obtain ⟨hgetName, himports, value, hrules, hlisted⟩ := htable.get?
  have hmapped : StandsForMapped (.table (mappingOf mapped)) mapped :=
    congrArg Value.table (mappingOf_eq hdistinct)
  have hread : p.IsReadFrom table none := by
    refine ⟨⟨mapped, listed, hcut, ?_, ?_⟩, ?_⟩
    · rw [himports]
      exact hmapped
    · obtain ⟨items, rfl, hitems⟩ := hlisted
      rw [hrules]
      exact ⟨items, rfl, hitems⟩
    · rw [hgetName]
      exact effectiveName_of_given hname
  have hdecode : Policy.decode table none = .ok p := decode_eq_ok.mpr ⟨hread, hfilled⟩
  refine ⟨hdecode, fun hnone => ?_⟩
  rw [Policy.ofTable_entries (hcut.trans (by rw [hnone, List.append_nil])), hdecode]

/-- Three rules, the last of which has no import patterns and the file pattern
of the first one. -/
def threeRules : List Policy.Rule :=
  [⟨"src/**", ["os"]⟩, ⟨"ui/**", ["json", "re"]⟩, ⟨"src/**", []⟩]

/-- A table with the first of the three rules in the mapping and the others in
the list. -/
def tableOfThree : Entries :=
  [("rules", .array [.table [("allowedImportPatterns", .array [.text "json", .text "re"]),
        ("filePattern", .text "ui/**")],
      .table [("file_pattern", .text "src/**")]]),
    ("name", .text "layers"), ("imports", .table [("src/**", .array [.text "os"])])]

/-- A table with the first two of the three rules in the mapping. -/
def tableOfTwo : Entries :=
  [("name", .text "layers"), ("imports", .table [("src/**", .array [.text "os"]),
      ("ui/**", .array [.text "json", .text "re"])]), ("rules", .array [])]

theorem decode_spelled_three :
    Policy.decode tableOfThree none = .ok ⟨threeRules, "layers"⟩
      ∧ Policy.decode tableOfTwo none
        = .ok (Policy.ofTable [("src/**", ["os"]), ("ui/**", ["json", "re"])] "layers") := by
  have hfilled : ∀ r ∈ threeRules, r.IsFilled := by
    simp only [Policy.Rule.isFilled_iff]
    decide
  have hsecond : SpellsRule [("allowedImportPatterns", .array [.text "json", .text "re"]),
      ("filePattern", .text "ui/**")] ⟨"ui/**", ["json", "re"]⟩ :=
    .full (by decide) (by decide) (.swap ..)
  have hthird : SpellsRule [("file_pattern", .text "src/**")] ⟨"src/**", []⟩ :=
    .bare (by decide) rfl rfl
  have htable : Spells tableOfThree "layers" (threeRules.take 1) (threeRules.drop 1) :=
    ⟨_, .cons hsecond (.cons hthird .nil), (List.perm_append_singleton ..).symm⟩
  have hmapping : Spells tableOfTwo "layers" (threeRules.take 2) [] := ⟨[], .nil, .refl _⟩
  constructor
  · exact (decode_spelled ⟨threeRules, "layers"⟩ _ _ _ rfl hfilled (by decide) (by decide)
      htable).1
  · exact (decode_spelled ⟨threeRules.take 2, "layers"⟩ _ [] _ rfl
      (fun r hr => hfilled r (List.mem_of_mem_take hr)) (by decide) (by decide) hmapping).2 rfl

end ImportPolicy
