/-!
# Import occurrences

An import found in a source text, with the stretch of the text that names
what is imported. The stretch is given in characters, from `start` up to but
without `stop`; a negative `start` says that the place is not known.
-/

namespace ImportPolicy

/-- An import and where its specifier stands in the text. -/
structure Occurrence where
  /-- What is imported, as it is written. -/
  specifier : String
  /-- The first character of the specifier, or a negative number. -/
  start : Int
  /-- The character behind the specifier. -/
  stop : Int
  deriving DecidableEq, Repr, Inhabited

namespace Occurrence

/-- Whether the place of the specifier is known. -/
def isKnown (o : Occurrence) : Bool := 0 ≤ o.start

/-- An occurrence whose place is not known. -/
def unknown (specifier : String) : Occurrence := ⟨specifier, -1, -1⟩

/-- The same occurrence in a text with more characters before it. -/
def shift (o : Occurrence) (count : Nat) : Occurrence :=
  if o.isKnown then { o with start := o.start + count, stop := o.stop + count } else o

end Occurrence

end ImportPolicy
