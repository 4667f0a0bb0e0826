import ImportPolicy.Policy.Basic
import ImportPolicy.Document.Value
import ImportPolicy.Text.Blank

/-!
# Policies from document tables

A policy is written as a table. Its rules come from the mapping `imports`,
from file patterns to lists of import patterns, and then from the list
`rules`, whose items are tables with the same two things under names of which
several spellings are known. Every pattern has to be a text that is not
blank. The name of the policy can be given, and can be overridden.

Places are checked in that order, and the first one that does not have the
right shape is reported.
-/

namespace ImportPolicy

open Document (Value Entries)

/-- What is wrong with a policy table, and where. -/
inductive DecodeFault where
  | imports
  | importsKey (key : String)
  | patternList (place : String) (kind : String)
  | pattern (place : String) (item : Value)
  | rules
  | rule (index : Nat)
  | filePattern (index : Nat)
  | name (kind : String)
  /-- A number in the place of a pattern that cannot even be shown. -/
  | longNumber
  deriving Repr

/-- The wording of a fault. -/
def DecodeFault.message : DecodeFault → String
  | .imports => "imports: expected a table mapping file globs to lists"
  | .importsKey key =>
    "imports: file patterns must be non-empty strings, got " ++ Text.quoted key
  | .patternList place kind => place ++ ": expected a list of glob strings, got " ++ kind
  | .pattern place item =>
    place ++ ": import patterns must be non-empty strings, got " ++ item.toText
  | .rules => "rules: expected a list of rule tables"
  | .rule index => "rules[" ++ toString index ++ "]: expected a table"
  | .filePattern index =>
    "rules[" ++ toString index ++ "]: file_pattern must be a non-empty string"
  | .name kind => "name: expected a string, got " ++ kind
  | .longNumber =>
    "Exceeds the limit (4300 digits) for integer string conversion; "
      ++ "use sys.set_int_max_str_digits() to increase the limit"

/-- The text of a value, if it is a text that is not blank. -/
def patternText? : Value → Option String
  | .text s => if Text.isBlankText s then none else some s
  | _ => none

/-- Decodes the items of a list of import patterns. -/
def decodePatterns (place : String) : List Value → Except DecodeFault (List String)
  | [] => .ok []
  | item :: more => match patternText? item with
    | some s => do
      let later ← decodePatterns place more
      .ok (s :: later)
    | none => if item.hasLongNumber then .error .longNumber else .error (.pattern place item)

/-- Decodes a list of import patterns. -/
def decodePatternList (place : String) : Value → Except DecodeFault (List String)
  | .array items => decodePatterns place items
  | other => .error (.patternList place other.kind)

/-- Decodes the mapping of file patterns to import patterns. -/
def decodeImports : Entries → Except DecodeFault (List Policy.Rule)
  | [] => .ok []
  | (pattern, value) :: more => do
    if Text.isBlankText pattern then .error (.importsKey pattern)
    else
      let allowed ← decodePatternList ("imports." ++ pattern) value
      let later ← decodeImports more
      .ok (⟨pattern, allowed⟩ :: later)

/-- The keys under which the file pattern of a rule is looked for. -/
def filePatternKeys : List String := ["file_pattern", "filePattern"]

/-- The keys under which the import patterns of a rule are looked for. -/
def allowedKeys : List String :=
  ["allowed_imports", "allowedImportPatterns", "allowed_import_patterns"]

/-- The value of the first of some keys that is there. -/
def firstOf (entries : Entries) (keys : List String) : Option Value :=
  keys.findSome? entries.get?

/-- Decodes one rule. -/
def decodeRule (index : Nat) : Value → Except DecodeFault Policy.Rule
  | .table entries =>
    match (firstOf entries filePatternKeys).bind patternText? with
    | none => .error (.filePattern index)
    | some pattern => do
      let allowed ← match firstOf entries allowedKeys with
        | none | some .null => .ok []
        | some value => decodePatternList ("rules[" ++ toString index ++ "]") value
      .ok ⟨pattern, allowed⟩
  | _ => .error (.rule index)

/-- Decodes the rules of a list, numbered from `index`. -/
def decodeRules (index : Nat) : List Value → Except DecodeFault (List Policy.Rule)
  | [] => .ok []
  | item :: more => do
    let rule ← decodeRule index item
    let later ← decodeRules (index + 1) more
    .ok (rule :: later)

/-- Decodes the name of a policy. An override that is not empty comes first,
then a name that counts as given. -/
def decodeName (override : Option String) (name : Option Value) : Except DecodeFault String :=
  match override with
  | some text => if text = "" then given name else .ok text
  | none => given name
where
  /-- The name in the table, or the default one. -/
  given : Option Value → Except DecodeFault String
    | none => .ok Policy.defaultName
    | some value =>
      if !value.isGiven then .ok Policy.defaultName
      else match value with
        | .text s => .ok s
        | other => .error (.name other.kind)

/-- Decodes a policy table. -/
def Policy.decode (entries : Entries) (override : Option String) : Except DecodeFault Policy := do
  let mapped ← match entries.get? "imports" with
    | none | some .null => .ok []
    | some (.table table) => decodeImports table
    | some _ => .error .imports
  let listed ← match entries.get? "rules" with
    | none | some .null => .ok []
    | some (.array items) => decodeRules 0 items
    | some _ => .error .rules
  let name ← decodeName override (entries.get? "name")
  .ok { rules := mapped ++ listed, name }

end ImportPolicy
