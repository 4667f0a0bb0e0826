import ImportPolicy.Host.Project
import ImportPolicy.Proofs.Source.ByteOrderMark

/-!
# The two views of a file

A project says two things about a file: which imports it has and what is
wrong with its text. Each of the two parses the text for itself, after the
byte order marks have been taken off in its own way. The search for imports
leaves all of them out, the diagnostics leave one out.

For a text with at most one mark that is the same text, and the views agree:
either it is accepted, or there is a diagnostic and there are no imports. From
two marks on they part. The diagnostics still see a mark, which no text may
start with, and report a syntax error; the imports are those of the text
behind the marks. So a file without a diagnostic is always a file whose
imports could be read, but not the other way round.
-/

namespace ImportPolicy.Project

open Source (byteOrderMark unmarked marks parse importsOf)

variable {p : Project} {name : String} {text : List Char}

/-- Whether a text starts with more than one byte order mark. -/
def MarkedTwice (text : List Char) : Prop :=
  ∃ rest, text = byteOrderMark :: byteOrderMark :: rest

/-- Up to one byte order mark, both views parse the same text. -/
theorem parsedText_eq_unmarked (h : ¬ MarkedTwice text) : parsedText text = unmarked text := by
  cases text with
  | nil => rfl
  | cons c rest =>
    by_cases hmark : c = byteOrderMark
    · subst hmark
      have hrest : unmarked rest = rest := by
        cases rest with
        | nil => rfl
        | cons d rest =>
          refine List.dropWhile_cons_of_neg ?_
          simpa using fun hd : d = byteOrderMark => h ⟨rest, by rw [hd]⟩
      rw [parsedText, if_pos rfl, unmarked, List.dropWhile_cons_of_pos (by simp)]
      exact hrest.symm
    · rw [parsedText, if_neg hmark, unmarked, List.dropWhile_cons_of_neg (by simpa using hmark)]

/-- From two byte order marks on, the diagnostics see a text that no parser
accepts. -/
theorem rejected_of_markedTwice [CharacterNames] (h : MarkedTwice text) :
    ∃ fault, parse (String.ofList (parsedText text)) = .error fault := by
  obtain ⟨rest, rfl⟩ := h
  rw [parsedText, if_pos rfl]
  exact Source.parse_mark rest

/-- There is a diagnostic exactly if the parser refuses the text without its
first byte order mark. -/
theorem syntaxDiagnostics_ne_nil [CharacterNames] (h : p.text? name = some text) :
    p.syntaxDiagnostics name ≠ []
      ↔ ∃ fault, parse (String.ofList (parsedText text)) = .error fault := by
  unfold syntaxDiagnostics
  rw [h]
  dsimp only
  cases parse (String.ofList (parsedText text)) with
  | ok tree => simp
  | error fault => simp

/-- There is a diagnostic exactly if the text starts with more than one byte
order mark or is refused without its marks. -/
theorem syntaxDiagnostics_ne_nil_iff [CharacterNames] (h : p.text? name = some text) :
    p.syntaxDiagnostics name ≠ []
      ↔ MarkedTwice text ∨ ∃ fault, parse (String.ofList (unmarked text)) = .error fault := by
  rw [syntaxDiagnostics_ne_nil h]
  by_cases htwice : MarkedTwice text
  · simp [htwice, rejected_of_markedTwice htwice]
  · simp [htwice, parsedText_eq_unmarked htwice]

/-- **When the two views of a file agree.** For every file whose text can be
read: its imports are those that the parser's tree of the text without all
its byte order marks has, moved behind the marks. If nothing is reported, the
parser accepted that text. If something is reported, either the parser
refused it, or the text starts with more than one mark; and a file with a
diagnostic has no imports exactly unless it starts with more than one mark
and the text behind them has imports. -/
theorem views_agree_iff [CharacterNames] (h : p.text? name = some text) :
    ∃ file, p.sourceFile name = some file
      ∧ file.imports = (importsOf (unmarked text)).map (·.shift (marks text))
      ∧ (p.syntaxDiagnostics name = []
          → ∃ tree, parse (String.ofList (unmarked text)) = .ok tree)
      ∧ (p.syntaxDiagnostics name ≠ []
          ↔ MarkedTwice text ∨ ∃ fault, parse (String.ofList (unmarked text)) = .error fault)
      ∧ ((p.syntaxDiagnostics name ≠ [] → file.imports = [])
          ↔ ¬ (MarkedTwice text ∧ importsOf (unmarked text) ≠ [])) := by
  have hreported := syntaxDiagnostics_ne_nil_iff h
  refine ⟨_, by rw [sourceFile, h]; rfl, Source.imports_eq text, ?_, hreported, ?_⟩
  · intro hnil
    have haccepted := mt hreported.mpr (not_not_intro hnil)
    cases hparse : parse (String.ofList (unmarked text)) with
    | ok tree => exact ⟨tree, rfl⟩
    | error fault => exact absurd (.inr ⟨fault, hparse⟩) haccepted
  · dsimp only
    rw [Source.imports_eq text, List.map_eq_nil_iff]
    constructor
    · rintro hempty ⟨htwice, hsome⟩
      exact hsome (hempty (hreported.mpr (.inl htwice)))
    · intro hagree hne
      obtain htwice | ⟨fault, hfault⟩ := hreported.mp hne
      · exact Classical.not_not.mp fun hsome => hagree ⟨htwice, hsome⟩
      · exact Source.importsOf_of_error hfault

/-- The project whose only file has the given bytes. -/
def single (bytes : List UInt8) : Project :=
  ⟨⟨.folder [("lib", .folder [("a.py", .file bytes)])], []⟩, ⟨.absolute, ["lib"]⟩⟩

/-- Two marks before a text that does not parse: the decoder takes one off,
and both views leave out the other. -/
theorem views_agree_iff_broken :
    (single (Text.Utf8.mark ++ Text.Utf8.mark ++ "def f(:\n".toUTF8.toList)).text? "a.py"
        = some (byteOrderMark :: "def f(:\n".toList)
    ∧ ∃ file, (single (Text.Utf8.mark ++ Text.Utf8.mark ++ "def f(:\n".toUTF8.toList)).sourceFile
        "a.py" = some file ∧ file.imports = [] := by
  have hread : (single (Text.Utf8.mark ++ Text.Utf8.mark ++ "def f(:\n".toUTF8.toList)).text?
      "a.py" = some (byteOrderMark :: "def f(:\n".toList) := by decide +kernel
  have hnone : importsOf (unmarked (byteOrderMark :: "def f(:\n".toList)) = [] := by
    decide +kernel
  obtain ⟨file, hfile, himports, -⟩ := views_agree_iff hread
  refine ⟨hread, file, hfile, ?_⟩
  rw [himports, hnone]
  rfl

/-- **Three marks before an import**: the syntax of the file is reported to be
wrong, and the import is found all the same. -/
theorem views_disagree :
    ∃ file, (single (Text.Utf8.mark ++ Text.Utf8.mark ++ Text.Utf8.mark
          ++ "import os\n".toUTF8.toList)).sourceFile "a.py" = some file
      ∧ file.imports = [⟨"os", 9, 11⟩]
      ∧ (single (Text.Utf8.mark ++ Text.Utf8.mark ++ Text.Utf8.mark
          ++ "import os\n".toUTF8.toList)).syntaxDiagnostics "a.py" ≠ [] := by
  have hread : (single (Text.Utf8.mark ++ Text.Utf8.mark ++ Text.Utf8.mark
      ++ "import os\n".toUTF8.toList)).text? "a.py"
      = some (byteOrderMark :: byteOrderMark :: "import os\n".toList) := by decide +kernel
  refine ⟨_, by rw [sourceFile, hread]; rfl, by decide +kernel, ?_⟩
  exact (syntaxDiagnostics_ne_nil_iff hread).mpr (.inl ⟨_, rfl⟩)

end ImportPolicy.Project
