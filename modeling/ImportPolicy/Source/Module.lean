import ImportPolicy.Source.Grammar.Statement

/-!
# Parsing a source text

`parse` reads a whole text: a tree, or the fault for which the text is
refused. Rules of the grammar refer to each other at most a fixed number of
times before a token is taken, so the length of the text bounds how deep
they can go; `depthFor` is generous.

A text is read with some table of the names of characters, which only string
literals look at.
-/

namespace ImportPolicy.Source

/-- A bound on how deep the rules can refer to each other in a text. -/
def depthFor (length : Nat) : Nat := 64 * (length + 16)

/-- Parses a source text. -/
def parse [names : CharacterNames] (text : String) : Except Fault Tree :=
  if text.toList.contains (Char.ofNat 0) then
    .error { cause := .nulByte, line := 0, column := 0 }
  else
    let chars := unifyLines text.toList
    Grammar.parseWith (Grammar.run (depthFor chars.length) .file) chars 1
      { names, scan := Scan.read chars 1, margin := none, diagnosing := false }

end ImportPolicy.Source
