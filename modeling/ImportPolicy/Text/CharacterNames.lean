/-!
# Names of characters

A string literal can name a character instead of holding it. Which names
there are, and which character each of them stands for, is laid down in a
table that is no part of the program. `CharacterNames` is such a table, and
whatever reads source texts takes one.

What is known of the table is how its names are spelled. A name that is
spelled otherwise is in no table, and so the literal that uses it is refused.
-/

namespace ImportPolicy

/-- Whether a character can stand in the name of a character: a Latin letter
of either case, a digit, a blank or a hyphen. -/
def isNameCharacter (c : Char) : Bool := c.isAlphanum || c == ' ' || c == '-'

/-- A table of the names of characters. -/
class CharacterNames where
  /-- The character that a name stands for, if the name is known. -/
  named? : List Char → Option Char
  /-- Names are made of letters, digits, blanks and hyphens. -/
  all_isNameCharacter : ∀ {name : List Char} {c : Char}, named? name = some c →
    name.all isNameCharacter = true

/-- The table by which the program runs where no other one is given: it knows
every name that is spelled as names are, and takes each for the replacement
character. -/
instance (priority := low) : CharacterNames where
  named? name := if name.all isNameCharacter then some '\ufffd' else none
  all_isNameCharacter h := by
    split at h
    · assumption
    · contradiction

end ImportPolicy
