import ImportPolicy.Occurrence

/-!
# Policies

A policy is a table of rules. A rule says of the files that match its
pattern which imports they may use, again by patterns. All rules that match
a file count together, so their order changes no verdict; it only fixes the
order in which patterns are listed in messages.
-/

namespace ImportPolicy

/-- What the files that match a pattern may import. -/
structure Policy.Rule where
  /-- Which files the rule is about. -/
  filePattern : String
  /-- What these files may import. -/
  allowed : List String
  deriving DecidableEq, Repr

/-- The name that a policy has unless it is given another one. -/
def Policy.defaultName : String := "importguard"

/-- A table of rules. The name marks the diagnostics that come from it. -/
structure Policy where
  /-- The rules, in order. -/
  rules : List Policy.Rule := []
  /-- The name of the policy. -/
  name : String := Policy.defaultName
  deriving DecidableEq, Repr

/-- The policy of a table that maps file patterns to import patterns. -/
def Policy.ofTable (table : List (String × List String)) (name : String) : Policy where
  rules := table.map fun (pattern, allowed) => ⟨pattern, allowed⟩
  name := name

/-- Why an import is a violation. -/
inductive Violation.Code where
  /-- Nothing is configured for the file. -/
  | unconfigured
  /-- The import is not among the allowed ones. -/
  | disallowed
  deriving DecidableEq, Repr

/-- The number that a code is reported by. -/
def Violation.Code.number : Violation.Code → Nat
  | .unconfigured => 1
  | .disallowed => 2

/-- An import that a policy does not allow. -/
structure Violation where
  /-- The file with the import. -/
  file : String
  /-- The first character of the specifier. -/
  start : Int
  /-- The character behind the specifier. -/
  stop : Int
  /-- What is reported. -/
  message : String
  /-- Why it is reported. -/
  code : Violation.Code
  /-- The name of the policy. -/
  source : String
  deriving DecidableEq, Repr

/-- How many characters the specifier has. -/
def Violation.length (v : Violation) : Int := v.stop - v.start

end ImportPolicy
