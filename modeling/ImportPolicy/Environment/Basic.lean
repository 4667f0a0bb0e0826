import ImportPolicy.Text.Blank

/-!
# The environment

The variables of the environment and their values. A variable that is set to
the empty text is set: it keeps a file of assignments from setting it, though
a reader who asks for its value finds nothing.
-/

namespace ImportPolicy

/-- The variables of the environment. -/
abbrev Environment := List (String × String)

namespace Environment

/-- Whether a variable is set. -/
def has (env : Environment) (name : String) : Bool := env.any (·.1 = name)

/-- The value of a variable without the blanks around it, if something is
left. -/
def given? (env : Environment) (name : String) : Option String :=
  match Text.trim ((env.lookup name).getD "").toList with
  | [] => none
  | chars => some (String.ofList chars)

/-- Why a variable cannot be set. -/
inductive Fault where
  /-- Its name or its value holds a NUL character. -/
  | nul
  /-- Its name holds an equals sign. -/
  | name
  deriving DecidableEq, Repr

/-- The wording of a fault. -/
def Fault.message : Fault → String
  | .nul => "embedded null byte"
  | .name => "illegal environment variable name"

/-- Whether a text holds a NUL character. -/
def hasNul (text : String) : Bool := text.toList.contains (Char.ofNat 0)

/-- Sets a variable that is not set. -/
def add (env : Environment) (name value : String) : Except Fault Environment :=
  if hasNul name || hasNul value then .error .nul
  else if name.toList.contains '=' then .error .name
  else .ok (env ++ [(name, value)])

end Environment

end ImportPolicy
