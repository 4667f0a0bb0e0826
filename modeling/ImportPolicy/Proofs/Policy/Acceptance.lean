import ImportPolicy.Policy.Load
import ImportPolicy.Proofs.Policy.Reading

/-!
# Which policy tables are accepted

A policy table is accepted just if it has the right shape, and then the policy
is the one that is written in it, pattern by pattern. Otherwise there is a
fault, and it is that of the first part with one: first the mapping, then its
entries in order, then the list of rules, then the rules in order, and last
the name (`decode_exact`).

A complaint shows the value that it is about. There is one kind of value that
cannot be shown, a whole number of more than 4300 digits. Such a number in the
place of an import pattern is at fault like any other one; but the complaint
fails itself, and the table is not refused (`not_refused_longNumber`).
-/

namespace ImportPolicy

open Document (Value Entries)

variable {entries : Entries} {override : Option String} {p : Policy} {f : DecodeFault}

theorem decode_eq (entries : Entries) (override : Option String) :
    Policy.decode entries override = (do
      let mapped ← decodeOptional decodeMapping (entries.get? "imports")
      let listed ← decodeOptional decodeRuleList (entries.get? "rules")
      let name ← decodeText (effectiveName override (entries.get? "name"))
      .ok { rules := mapped ++ listed, name }) := by
  unfold Policy.decode
  rw [← decodeName_eq]
  generalize entries.get? "imports" = imports
  generalize entries.get? "rules" = rules
  cases imports with
  | none =>
    cases rules with
    | none => rfl
    | some value => cases value <;> rfl
  | some value =>
    cases value
    all_goals
      cases rules with
      | none => rfl
      | some value => cases value <;> rfl

/-! ## Acceptance -/

theorem decodeText_eq_ok {value : Value} {text : String} :
    decodeText value = .ok text ↔ value = .text text := by
  unfold decodeText
  split
  · simp
  · rename_i hother
    exact iff_of_false (by simp) (hother text)

theorem decodeText_eq_error {value : Value} :
    decodeText value = .error f ↔ (∀ text, value ≠ .text text) ∧ f = .name value.kind := by
  unfold decodeText
  split
  · simp
  · rename_i hother
    rw [Except.error.injEq, eq_comm, iff_and_self]
    exact fun _ => hother

/-- **A table is decoded to the policy that is written in it**, if all patterns
in it have something in them. -/
theorem decode_eq_ok :
    Policy.decode entries override = .ok p
      ↔ p.IsReadFrom entries override ∧ ∀ r ∈ p.rules, r.IsFilled := by
  rw [decode_eq, bind_eq_ok]
  simp only [bind_eq_ok, decodeText_eq_ok,
    decodeOptional_eq_ok fun _ _ => decodeMapping_eq_ok,
    decodeOptional_eq_ok fun _ _ => decodeRuleList_eq_ok]
  constructor
  · rintro ⟨mapped, ⟨hmapped, hmappedFilled⟩, listed, ⟨hlisted, hlistedFilled⟩, name, hname, h⟩
    cases h
    exact ⟨⟨⟨mapped, listed, rfl, hmapped, hlisted⟩, hname⟩,
      List.forall_mem_append.mpr ⟨hmappedFilled, hlistedFilled⟩⟩
  · rintro ⟨⟨⟨mapped, listed, hrules, hmapped, hlisted⟩, hname⟩, hfilled⟩
    rw [hrules, List.forall_mem_append] at hfilled
    refine ⟨mapped, ⟨hmapped, hfilled.1⟩, listed, ⟨hlisted, hfilled.2⟩, p.name, hname, ?_⟩
    rw [← hrules]

theorem exists_decode_eq_ok :
    (∃ p, Policy.decode entries override = .ok p) ↔ IsPolicyTable entries override := by
  rw [decode_eq]
  simp only [bind_eq_ok]
  constructor
  · rintro ⟨p, mapped, hmapped, listed, hlisted, name, hname, -⟩
    exact ⟨(exists_decodeOptional_eq_ok (fun _ => exists_decodeMapping_eq_ok) _).mp ⟨_, hmapped⟩,
      (exists_decodeOptional_eq_ok (fun _ => exists_decodeRuleList_eq_ok) _).mp ⟨_, hlisted⟩,
      name, decodeText_eq_ok.mp hname⟩
  · rintro ⟨himports, hrules, name, hname⟩
    obtain ⟨mapped, hmapped⟩ :=
      (exists_decodeOptional_eq_ok (fun _ => exists_decodeMapping_eq_ok) _).mpr himports
    obtain ⟨listed, hlisted⟩ :=
      (exists_decodeOptional_eq_ok (fun _ => exists_decodeRuleList_eq_ok) _).mpr hrules
    exact ⟨_, mapped, hmapped, listed, hlisted, name, decodeText_eq_ok.mpr hname, rfl⟩

/-! ## The order of the parts -/

namespace Policy.Part

variable {p q : Policy.Part}

theorem eq_of_stage (hstage : p.stage = q.stage) (hindex : p.index = q.index) : p = q := by
  cases p <;> cases q <;> simp_all [stage, index]

theorem before_trichotomy (p q : Policy.Part) : p.Before q ∨ p = q ∨ q.Before p := by
  unfold Before
  obtain h | h | h := Nat.lt_trichotomy p.stage q.stage
  · exact .inl (.inl h)
  · obtain hindex | hindex | hindex := Nat.lt_trichotomy p.index q.index
    · exact .inl (.inr ⟨h, hindex⟩)
    · exact .inr (.inl (eq_of_stage h hindex))
    · exact .inr (.inr (.inr ⟨h.symm, hindex⟩))
  · exact .inr (.inr (.inl h))

end Policy.Part

/-! ## The first fault -/

/-- A table has no two first faults. -/
theorem OffendsFirst.part_eq {part other : Policy.Part} {g : DecodeFault}
    (h : OffendsFirst entries override part f) (hother : OffendsFirst entries override other g) :
    part = other := by
  obtain hbefore | heq | hbefore := part.before_trichotomy other
  · exact absurd h.1 (hother.2 part hbefore f)
  · exact heq
  · exact absurd hother.1 (h.2 other hbefore g)

/-- A part has one fault at most. -/
theorem Offends.fault_eq {part : Policy.Part} {g : DecodeFault}
    (h : Offends entries override part f) (hother : Offends entries override part g) : f = g := by
  cases h with
  | imports => cases hother; rfl
  | entry hget hentry h =>
    cases hother with
    | entry hgetToo hentryToo hother =>
      cases hget.symm.trans hgetToo
      cases hentry.symm.trans hentryToo
      exact Except.error.inj
        ((decodeEntry_eq_error.mpr h).symm.trans (decodeEntry_eq_error.mpr hother))
  | rules => cases hother; rfl
  | rule hget hitem h =>
    cases hother with
    | rule hgetToo hitemToo hother =>
      cases hget.symm.trans hgetToo
      cases hitem.symm.trans hitemToo
      exact Except.error.inj
        ((decodeRule_eq_error.mpr h).symm.trans (decodeRule_eq_error.mpr hother))
  | name => cases hother; rfl

theorem not_offends_of_isMapping {part : Policy.Part}
    (h : IsOptional IsMapping (entries.get? "imports")) (hstage : part.stage ≤ 1) :
    ¬ Offends entries override part f := by
  rintro (⟨hget, hnull, hother⟩ | ⟨hget, hentry, hfault⟩ | - | - | -)
  · rw [hget, isOptional_some hnull] at h
    exact h.exists_table.elim hother
  · rw [hget] at h
    exact hfault.not_shape (h _ (List.mem_of_getElem? hentry))
  · exact absurd hstage (by decide)
  · exact absurd hstage (by simp [Policy.Part.stage])
  · exact absurd hstage (by decide)

theorem not_offends_of_isRuleList {part : Policy.Part}
    (h : IsOptional IsRuleList (entries.get? "rules")) (hlow : 2 ≤ part.stage)
    (hhigh : part.stage ≤ 3) : ¬ Offends entries override part f := by
  rintro (- | - | ⟨hget, hnull, hother⟩ | ⟨hget, hitem, hfault⟩ | -)
  · exact absurd hlow (by decide)
  · exact absurd hlow (by simp [Policy.Part.stage])
  · rw [hget, isOptional_some hnull] at h
    exact h.exists_array.elim hother
  · rw [hget] at h
    exact hfault.not_isRule (h _ (List.mem_of_getElem? hitem))
  · exact absurd hhigh (by decide)

theorem IsPolicyTable.not_offends {part : Policy.Part} (h : IsPolicyTable entries override) :
    ¬ Offends entries override part f := by
  intro hpart
  by_cases hlow : part.stage ≤ 1
  · exact not_offends_of_isMapping h.imports hlow hpart
  by_cases hhigh : part.stage ≤ 3
  · exact not_offends_of_isRuleList h.rules (by omega) hhigh hpart
  · cases hpart with
    | name hother =>
      obtain ⟨text, htext⟩ := h.name
      exact hother text htext
    | _ => exact hhigh (by simp [Policy.Part.stage])

/-- What fails in the mapping is its first fault. -/
theorem exists_offendsFirst_of_mapping
    (h : decodeOptional decodeMapping (entries.get? "imports") = .error f) :
    ∃ part, OffendsFirst entries override part f := by
  obtain ⟨value, hget, hnull, hvalue⟩ := decodeOptional_eq_error.mp h
  by_cases htable : ∃ table, value = .table table
  · obtain ⟨table, rfl⟩ := htable
    obtain ⟨i, ⟨entry, hentry, hfault⟩, hbefore⟩ :=
      mapM_eq_error.mp ((decodeImports_eq_mapM table).symm.trans hvalue)
    refine ⟨.entry i, .entry hget hentry (decodeEntry_eq_error.mp hfault), ?_⟩
    -- the mapping is a table, the entries before this one are decoded, and the
    -- other parts are not checked before the entries
    rintro earlier hearlier other (⟨hgetToo, -, hother⟩ | ⟨hgetToo, hentryToo, hfaultToo⟩ | - | - | -)
    · exact hother table (Option.some.inj (hgetToo.symm.trans hget))
    · cases hget.symm.trans hgetToo
      obtain hstage | ⟨-, hindex⟩ := hearlier
      · exact absurd hstage (Nat.lt_irrefl _)
      · exact hfaultToo.not_shape (exists_decodeEntry_eq_ok.mp (hbefore _ hindex _ hentryToo))
    all_goals
      obtain hstage | ⟨hstage, -⟩ := hearlier
      · exact absurd hstage (by simp [Policy.Part.stage])
      · exact absurd hstage (by simp [Policy.Part.stage])
  · have hother : ∀ table, value ≠ .table table := fun table heq => htable ⟨table, heq⟩
    obtain rfl : .imports = f :=
      Except.error.inj ((decodeMapping_of_ne_table hother).symm.trans hvalue)
    refine ⟨.imports, .imports hget hnull hother, ?_⟩
    rintro earlier (hstage | ⟨-, hindex⟩)
    · exact absurd hstage (Nat.not_lt_zero _)
    · exact absurd hindex (Nat.not_lt_zero _)

/-- What fails in the list of rules is the first fault of the table, if the
mapping has none. -/
theorem exists_offendsFirst_of_rules (himports : IsOptional IsMapping (entries.get? "imports"))
    (h : decodeOptional decodeRuleList (entries.get? "rules") = .error f) :
    ∃ part, OffendsFirst entries override part f := by
  obtain ⟨value, hget, hnull, hvalue⟩ := decodeOptional_eq_error.mp h
  by_cases harray : ∃ items, value = .array items
  · obtain ⟨items, rfl⟩ := harray
    obtain ⟨i, hfirst⟩ := mapM_eq_error.mp ((decodeRules_eq_mapM 0 items).symm.trans hvalue)
    obtain ⟨⟨item, hitem, hfault⟩, hbefore⟩ := failsFirst_decodeRule.mp hfirst
    -- here the mapping and its entries come first as well, and they are fine
    refine ⟨.rule i, .rule hget hitem hfault, fun earlier hearlier other hoffends => ?_⟩
    by_cases hlow : earlier.stage ≤ 1
    · exact not_offends_of_isMapping himports hlow hoffends
    cases hoffends with
    | rules hgetToo _ hother => exact hother items (Option.some.inj (hgetToo.symm.trans hget))
    | rule hgetToo hitemToo hfaultToo =>
      cases hget.symm.trans hgetToo
      obtain hstage | ⟨-, hindex⟩ := hearlier
      · exact absurd hstage (Nat.lt_irrefl _)
      · exact hbefore _ hindex _ hitemToo _ hfaultToo
    | name =>
      obtain hstage | ⟨hstage, -⟩ := hearlier
      · exact absurd hstage (by simp [Policy.Part.stage])
      · exact absurd hstage (by simp [Policy.Part.stage])
    | _ => exact hlow (by simp [Policy.Part.stage])
  · have hother : ∀ items, value ≠ .array items := fun items heq => harray ⟨items, heq⟩
    obtain rfl : .rules = f :=
      Except.error.inj ((decodeRuleList_of_ne_array hother).symm.trans hvalue)
    refine ⟨.rules, .rules hget hnull hother, ?_⟩
    rintro earlier (hstage | ⟨-, hindex⟩) other
    · exact not_offends_of_isMapping himports (Nat.le_of_lt_succ hstage)
    · exact absurd hindex (Nat.not_lt_zero _)

/-- What fails in the name is the first fault of the table, if nothing else
does. -/
theorem offendsFirst_of_name (himports : IsOptional IsMapping (entries.get? "imports"))
    (hrules : IsOptional IsRuleList (entries.get? "rules"))
    (h : decodeText (effectiveName override (entries.get? "name")) = .error f) :
    OffendsFirst entries override .name f := by
  obtain ⟨hother, rfl⟩ := decodeText_eq_error.mp h
  refine ⟨.name hother, ?_⟩
  rintro earlier (hstage | ⟨-, hindex⟩) other
  · have hstage : earlier.stage < 4 := hstage
    by_cases hlow : earlier.stage ≤ 1
    · exact not_offends_of_isMapping himports hlow
    · exact not_offends_of_isRuleList hrules (by omega) (by omega)
  · exact absurd hindex (Nat.not_lt_zero _)

/-- **The fault is that of the first part with one.** -/
theorem decode_eq_error :
    Policy.decode entries override = .error f ↔ ∃ part, OffendsFirst entries override part f := by
  have hfirst : ∀ g, Policy.decode entries override = .error g →
      ∃ part, OffendsFirst entries override part g := by
    intro g hg
    rw [decode_eq] at hg
    obtain himports | ⟨mapped, hmapped, hg⟩ := bind_eq_error.mp hg
    · exact exists_offendsFirst_of_mapping himports
    have himports := (exists_decodeOptional_eq_ok (fun _ => exists_decodeMapping_eq_ok) _).mp
      ⟨mapped, hmapped⟩
    obtain hrules | ⟨listed, hlisted, hg⟩ := bind_eq_error.mp hg
    · exact exists_offendsFirst_of_rules himports hrules
    have hrules := (exists_decodeOptional_eq_ok (fun _ => exists_decodeRuleList_eq_ok) _).mp
      ⟨listed, hlisted⟩
    obtain hname | ⟨name, -, hg⟩ := bind_eq_error.mp hg
    · exact ⟨.name, offendsFirst_of_name himports hrules hname⟩
    · cases hg
  refine ⟨hfirst f, ?_⟩
  -- the fault of a table is its only first one, and an accepted one has none
  rintro ⟨part, hpart⟩
  cases hdecode : Policy.decode entries override with
  | ok p =>
    exact absurd hpart.1 (exists_decode_eq_ok.mp ⟨p, hdecode⟩).not_offends
  | error g =>
    obtain ⟨other, hother⟩ := hfirst g hdecode
    obtain rfl := hpart.part_eq hother
    rw [hpart.1.fault_eq hother.1]

/-! ## What is said -/

/-- How a part of a policy table is called in complaints. -/
def Policy.Part.label : Policy.Part → String
  | .imports | .entry _ => "imports"
  | .rules => "rules"
  | .rule index => "rules[" ++ toString index ++ "]"
  | .name => "name"

theorem PatternListFault.exists_message {place : String} {value : Value}
    (h : PatternListFault place value f) (hshown : f ≠ .longNumber) :
    ∃ rest, f.message = place ++ rest := by
  cases h with
  | kind => exact ⟨_, String.append_assoc ..⟩
  | item => exact ⟨_, String.append_assoc ..⟩
  | long => exact absurd rfl hshown

/-- A complaint starts with the part that it is about. -/
theorem Offends.exists_message {part : Policy.Part} (h : Offends entries override part f)
    (hshown : f ≠ .longNumber) : ∃ rest, f.message = part.label ++ rest := by
  -- a literal start can be cut, and what is behind it hangs on
  have hcut : ∀ {whole start first rest : String}, whole = start ++ first →
      whole ++ rest = start ++ (first ++ rest) := by
    rintro _ start first rest rfl
    exact String.append_assoc
  have hpaste : ∀ {whole start first rest : String}, whole = first ++ rest →
      start ++ whole = start ++ first ++ rest := by
    rintro _ start first rest rfl
    exact String.append_assoc.symm
  cases h with
  | imports => exact ⟨": expected a table mapping file globs to lists", rfl⟩
  | entry _ _ h =>
    cases h with
    | key => exact ⟨": file patterns must be non-empty strings, got " ++ _, hcut rfl⟩
    | patterns _ h =>
      obtain ⟨rest, hrest⟩ := h.exists_message hshown
      exact ⟨"." ++ _ ++ rest, hrest.trans (hcut (hcut rfl))⟩
  | rules => exact ⟨": expected a list of rule tables", rfl⟩
  | rule _ _ h =>
    cases h with
    | table => exact ⟨": expected a table", hpaste rfl⟩
    | filePattern => exact ⟨": file_pattern must be a non-empty string", hpaste rfl⟩
    | allowed _ _ _ _ h => exact h.exists_message hshown
  | name => exact ⟨": expected a string, got " ++ _, hcut rfl⟩

/-- **A policy table is accepted just if it has the right shape.** The policy
of an accepted table has the rules of the mapping, in order, and then those of
the list, in order, each with the patterns that are written there, and none of
them is blank. A table that is not accepted has a fault, which is that of the
first part with one: the mapping and its entries, the list and its rules, the
name. A complaint starts with the part that it is about, and the only fault
without one is a whole number of too many digits in the place of an import
pattern. -/
theorem decode_exact (entries : Entries) (override : Option String) :
    ((∃ p, Policy.decode entries override = .ok p) ↔ IsPolicyTable entries override)
    ∧ (∀ p, Policy.decode entries override = .ok p
      ↔ p.IsReadFrom entries override ∧ ∀ r ∈ p.rules, r.IsFilled)
    ∧ (∀ f, Policy.decode entries override = .error f
      ↔ ∃ part, OffendsFirst entries override part f)
    ∧ ∀ part f, OffendsFirst entries override part f → f ≠ .longNumber →
      ∃ rest, f.message = part.label ++ rest :=
  ⟨exists_decode_eq_ok, fun _ => decode_eq_ok, fun _ => decode_eq_error,
    fun _ _ h => h.1.exists_message⟩

/-- A table whose second rule has a list of patterns with a blank one in it,
under the second of the keys for it. The name is at fault as well. -/
def tableOfBlank : Entries :=
  [("name", .bool true),
    ("rules", .array [.table [("filePattern", .text "src/**")],
      .table [("filePattern", .null), ("file_pattern", .text "ui/**"),
        ("allowedImportPatterns", .array [.text "json", .text " "])]])]

theorem decode_exact_blank :
    Policy.decode tableOfBlank none = .error (.pattern "rules[1]" (.text " "))
      ∧ ¬ IsPolicyTable tableOfBlank none
      ∧ ∃ part, OffendsFirst tableOfBlank none part (.pattern "rules[1]" (.text " "))
        ∧ ∃ rest, DecodeFault.message (.pattern "rules[1]" (.text " ")) = part.label ++ rest := by
  obtain ⟨haccepted, -, hfault, hmessage⟩ := decode_exact tableOfBlank none
  have hdecode : Policy.decode tableOfBlank none = .error (.pattern "rules[1]" (.text " ")) := rfl
  obtain ⟨part, hpart⟩ := (hfault _).mp hdecode
  refine ⟨hdecode, fun h => ?_, part, hpart, hmessage part _ hpart nofun⟩
  obtain ⟨p, hp⟩ := haccepted.mpr h
  rw [hdecode] at hp
  cases hp

/-- A table with a number in the place of an import pattern that is too long to
be shown. -/
def tableOfLongNumber : Entries :=
  [("imports", .table [("src/**", .array [.int Value.leastLong])])]

theorem offendsFirst_longNumber (override : Option String) :
    OffendsFirst tableOfLongNumber override (.entry 0) .longNumber := by
  have hlong : Value.hasLongNumber (.int Value.leastLong) = true := by
    rw [Value.hasLongNumber, Int.natAbs_natCast]
    exact decide_eq_true (Nat.le_refl _)
  have hkey : IsFilled "src/**" := isFilled_iff.mpr rfl
  have hnumber : IsFirstOutside IsPattern [.int Value.leastLong] 0 (.int Value.leastLong) :=
    ⟨rfl, id, fun j hj => absurd hj (Nat.not_lt_zero j)⟩
  refine ⟨.entry rfl rfl (.patterns hkey (.long hnumber hlong)), ?_⟩
  rintro earlier (hstage | ⟨-, hindex⟩) other hoffends
  · cases hoffends with
    | imports hget _ hother => exact hother _ (Option.some.inj hget).symm
    | _ => exact absurd hstage (by simp [Policy.Part.stage])
  · exact absurd hindex (Nat.not_lt_zero _)

/-- **A number that cannot be shown is not refused.** A table with such a
number in the place of an import pattern has not the right shape, but decoding
it ends the run. -/
theorem not_refused_longNumber :
    ¬ ∀ (entries : Entries) (env : Environment) (root path : Path),
      ¬ IsPolicyTable entries (env.given? "IMPORTGUARD_SOURCE") →
      ∃ f, Policy.fromFound env root (some (path, entries)) = .error (.refused f) := by
  intro h
  have hfirst := offendsFirst_longNumber (Environment.given? [] "IMPORTGUARD_SOURCE")
  obtain ⟨f, hf⟩ := h tableOfLongNumber [] ⟨.absolute, []⟩ ⟨.absolute, []⟩
    fun hshape => hshape.not_offends hfirst.1
  rw [Policy.fromFound, decode_eq_error.mpr ⟨_, hfirst⟩] at hf
  cases hf

end ImportPolicy
