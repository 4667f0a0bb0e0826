import ImportPolicy.Policy.Decode
import Mathlib.Data.List.Forall2

/-!
# The shape of a policy table

A policy table has a mapping, a list and a name, each of which may be left
out. This module says, without a word on how a table is read, what shape they
must have (`IsPolicyTable`), which policy is written in them
(`Policy.IsReadFrom`), and what may be wrong with each of their parts
(`Offends`).
-/

namespace ImportPolicy

open Document (Value Entries)

/-! ## Shapes -/

/-- A text with something in it that is not blank. -/
def IsFilled (text : String) : Prop := ∃ c ∈ text.toList, Text.isBlank c = false

/-- A value that is a pattern. -/
def IsPattern : Value → Prop
  | .text s => IsFilled s
  | _ => False

/-- A value that is a list of patterns. -/
def IsPatternList : Value → Prop
  | .array items => ∀ item ∈ items, IsPattern item
  | _ => False

/-- A value that is left out or null, or has a shape. -/
def IsOptional (shape : Value → Prop) : Option Value → Prop
  | none => True
  | some .null => True
  | some value => shape value

/-- A mapping of file patterns to lists of import patterns. -/
def IsMapping : Value → Prop
  | .table entries => ∀ entry ∈ entries, IsFilled entry.1 ∧ IsPatternList entry.2
  | _ => False

/-- The file pattern in the table of a rule: what is under the first of the
keys for it that is there. -/
def fileValue? (entries : Entries) : Option Value :=
  ["file_pattern", "filePattern"].findSome? entries.get?

/-- The import patterns in the table of a rule. -/
def allowedValue? (entries : Entries) : Option Value :=
  ["allowed_imports", "allowedImportPatterns", "allowed_import_patterns"].findSome? entries.get?

/-- The table of a rule. -/
def IsRule : Value → Prop
  | .table entries =>
    (∃ value, fileValue? entries = some value ∧ IsPattern value)
    ∧ IsOptional IsPatternList (allowedValue? entries)
  | _ => False

/-- A list of the tables of rules. -/
def IsRuleList : Value → Prop
  | .array items => ∀ item ∈ items, IsRule item
  | _ => False

/-- The name of a policy: the override if it is not empty, or else the name in
the table if that is given, or else the default one. -/
def effectiveName (override : Option String) (name : Option Value) : Value :=
  (((override.filter (· ≠ "")).map Value.text).or (name.filter Value.isGiven)).getD
    (.text "importguard")

/-- A table that a policy can be read from. -/
structure IsPolicyTable (entries : Entries) (override : Option String) : Prop where
  /-- The mapping. -/
  imports : IsOptional IsMapping (entries.get? "imports")
  /-- The list of rules. -/
  rules : IsOptional IsRuleList (entries.get? "rules")
  /-- The name is a text. -/
  name : ∃ text, effectiveName override (entries.get? "name") = .text text

/-! ## What is read -/

/-- Patterns as a value. -/
def patternsValue (patterns : List String) : Value := .array (patterns.map .text)

/-- A rule as an entry of the mapping. -/
def Policy.Rule.entry (r : Policy.Rule) : String × Value := (r.filePattern, patternsValue r.allowed)

/-- All patterns of a rule have something in them. -/
structure Policy.Rule.IsFilled (r : Policy.Rule) : Prop where
  /-- The file pattern. -/
  filePattern : ImportPolicy.IsFilled r.filePattern
  /-- The import patterns. -/
  allowed : ∀ pattern ∈ r.allowed, ImportPolicy.IsFilled pattern

/-- A value that is left out or null stands for nothing, every other value for
what is given. -/
def Stands {β : Type} (given : Value → List β → Prop) : Option Value → List β → Prop
  | none, answers => answers = []
  | some .null, answers => answers = []
  | some value, answers => given value answers

/-- A value is a list of just these patterns. -/
def StandsForPatterns (value : Value) (patterns : List String) : Prop :=
  value = patternsValue patterns

/-- A value is a mapping with just these rules, in order. -/
def StandsForMapped (value : Value) (rules : List Policy.Rule) : Prop :=
  value = .table (rules.map Policy.Rule.entry)

/-- A value is the table of a rule. -/
def StandsForRule (value : Value) (r : Policy.Rule) : Prop :=
  ∃ entries, value = .table entries ∧ fileValue? entries = some (.text r.filePattern)
    ∧ Stands StandsForPatterns (allowedValue? entries) r.allowed

/-- A value is a list of the tables of just these rules, in order. -/
def StandsForListed (value : Value) (rules : List Policy.Rule) : Prop :=
  ∃ items, value = .array items ∧ List.Forall₂ StandsForRule items rules

/-- A policy has the rules of a table, those of the mapping first, and its
name. -/
structure Policy.IsReadFrom (p : Policy) (entries : Entries) (override : Option String) :
    Prop where
  /-- The rules. -/
  rules : ∃ mapped listed, p.rules = mapped ++ listed
    ∧ Stands StandsForMapped (entries.get? "imports") mapped
    ∧ Stands StandsForListed (entries.get? "rules") listed
  /-- The name. -/
  name : effectiveName override (entries.get? "name") = .text p.name

/-! ## Faults -/

/-- The first item of a row that is not fine. -/
def IsFirstOutside {α : Type} (fine : α → Prop) (row : List α) (i : Nat) (item : α) : Prop :=
  row[i]? = some item ∧ ¬ fine item ∧ ∀ j < i, ∀ other, row[j]? = some other → fine other

/-- What is wrong with a value in the place of a list of patterns: it is no
list, or its first item that is no pattern. A number that is too long cannot
be shown in a complaint. -/
inductive PatternListFault (place : String) : Value → DecodeFault → Prop
  | kind {value} (h : ∀ items, value ≠ .array items) :
    PatternListFault place value (.patternList place value.kind)
  | item {items i item} (h : IsFirstOutside IsPattern items i item)
    (hshown : item.hasLongNumber = false) :
    PatternListFault place (.array items) (.pattern place item)
  | long {items i item} (h : IsFirstOutside IsPattern items i item)
    (hlong : item.hasLongNumber = true) :
    PatternListFault place (.array items) .longNumber

/-- What is wrong with an entry of the mapping. -/
inductive EntryFault : String × Value → DecodeFault → Prop
  | key {key value} (h : ¬ IsFilled key) : EntryFault (key, value) (.importsKey key)
  | patterns {key value f} (hkey : IsFilled key)
    (h : PatternListFault ("imports." ++ key) value f) : EntryFault (key, value) f

/-- What is wrong with a value in the place of the table of a rule. -/
inductive RuleFault (index : Nat) : Value → DecodeFault → Prop
  | table {value} (h : ∀ entries, value ≠ .table entries) : RuleFault index value (.rule index)
  | filePattern {entries} (h : ∀ value, fileValue? entries = some value → ¬ IsPattern value) :
    RuleFault index (.table entries) (.filePattern index)
  | allowed {entries pattern value f} (hfile : fileValue? entries = some pattern)
    (hpattern : IsPattern pattern) (hallowed : allowedValue? entries = some value)
    (hnull : value ≠ .null)
    (h : PatternListFault ("rules[" ++ toString index ++ "]") value f) :
    RuleFault index (.table entries) f

/-! ## The first fault -/

/-- A part of a policy table that can be at fault. -/
inductive Policy.Part where
  /-- The mapping as a whole. -/
  | imports
  /-- An entry of the mapping, by its index. -/
  | entry (index : Nat)
  /-- The list of rules as a whole. -/
  | rules
  /-- A rule of the list, by its index. -/
  | rule (index : Nat)
  /-- The name. -/
  | name
  deriving DecidableEq

/-- Which of the five kinds a part is of, in the order of checking. -/
def Policy.Part.stage : Policy.Part → Nat
  | .imports => 0
  | .entry _ => 1
  | .rules => 2
  | .rule _ => 3
  | .name => 4

/-- The index of a part among those of its kind. -/
def Policy.Part.index : Policy.Part → Nat
  | .entry index => index
  | .rule index => index
  | _ => 0

/-- A part is checked before another one. -/
def Policy.Part.Before (p q : Policy.Part) : Prop :=
  p.stage < q.stage ∨ p.stage = q.stage ∧ p.index < q.index

/-- What is wrong with a part of a policy table. -/
inductive Offends (entries : Entries) (override : Option String) :
    Policy.Part → DecodeFault → Prop
  | imports {value} (hget : entries.get? "imports" = some value) (hnull : value ≠ .null)
    (h : ∀ table, value ≠ .table table) : Offends entries override .imports .imports
  | entry {table index entry f} (hget : entries.get? "imports" = some (.table table))
    (hentry : table[index]? = some entry) (h : EntryFault entry f) :
    Offends entries override (.entry index) f
  | rules {value} (hget : entries.get? "rules" = some value) (hnull : value ≠ .null)
    (h : ∀ items, value ≠ .array items) : Offends entries override .rules .rules
  | rule {items index item f} (hget : entries.get? "rules" = some (.array items))
    (hitem : items[index]? = some item) (h : RuleFault index item f) :
    Offends entries override (.rule index) f
  | name (h : ∀ text, effectiveName override (entries.get? "name") ≠ .text text) :
    Offends entries override .name (.name (effectiveName override (entries.get? "name")).kind)

/-- The first part of a policy table that is at fault, and its fault. -/
def OffendsFirst (entries : Entries) (override : Option String) (part : Policy.Part)
    (f : DecodeFault) : Prop :=
  Offends entries override part f
    ∧ ∀ earlier : Policy.Part, earlier.Before part → ∀ other, ¬ Offends entries override earlier other

end ImportPolicy
