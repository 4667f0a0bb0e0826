import ImportPolicy.Command.Run
import ImportPolicy.Proofs.Document.Json
import ImportPolicy.Proofs.Document.Toml

/-!
# What a bad configuration can do

A configuration that cannot be used is refused, and the command then says so
and ends with the code for requests that cannot be met. What is refused is
whatever is wrong with a document and with the table in it. What is not
refused, and ends the run instead, is of two kinds.

The one kind is met before there is a document: a root that cannot be
resolved, a path that cannot be asked for, and bytes that are not UTF-8.
`Policy.configText` finds the file that decides and reads it so far, and
where it stops, loading stops as well. The other kind is a number that is too
long to be read or to be shown in a complaint. A text without long rows of
digits has none, in either format.
-/

namespace ImportPolicy

open Document (Value Entries Short)

/-! ## Tables -/

section Decode

variable {place : String}

/-- A fault that can be shown. -/
def DecodeFault.IsShown (f : DecodeFault) : Prop := f ≠ .longNumber

theorem decodePatterns_ends {items : List Value} (h : Value.anyLongNumber items = false) :
    Ends DecodeFault.IsShown (fun _ => True) (decodePatterns place items) := by
  induction items with
  | nil => trivial
  | cons item more ih =>
    rw [Value.anyLongNumber, Bool.or_eq_false_iff] at h
    unfold decodePatterns
    split
    · exact (ih h.2).bind fun _ _ => trivial
    · rw [if_neg (by simp [h.1])]
      exact DecodeFault.noConfusion

theorem decodePatternList_ends {value : Value} (h : value.hasLongNumber = false) :
    Ends DecodeFault.IsShown (fun _ => True) (decodePatternList place value) := by
  unfold decodePatternList
  split
  · exact decodePatterns_ends h
  · exact DecodeFault.noConfusion

theorem decodeImports_ends {entries : Entries} (h : Value.entriesLongNumber entries = false) :
    Ends DecodeFault.IsShown (fun _ => True) (decodeImports entries) := by
  induction entries with
  | nil => trivial
  | cons entry more ih =>
    rw [Value.entriesLongNumber, Bool.or_eq_false_iff] at h
    unfold decodeImports
    split
    · exact DecodeFault.noConfusion
    · exact (decodePatternList_ends h.1).bind fun _ _ => (ih h.2).bind fun _ _ => trivial

theorem hasLongNumber_firstOf {entries : Entries} {keys : List String} {value : Value}
    (h : Value.entriesLongNumber entries = false) (hvalue : firstOf entries keys = some value) :
    value.hasLongNumber = false := by
  obtain ⟨key, -, hkey⟩ := List.exists_of_findSome?_eq_some hvalue
  exact Document.Entries.hasLongNumber_get? h hkey

theorem decodeRule_ends {index : Nat} {value : Value} (h : value.hasLongNumber = false) :
    Ends DecodeFault.IsShown (fun _ => True) (decodeRule index value) := by
  unfold decodeRule
  split
  · rename_i entries
    split
    · exact DecodeFault.noConfusion
    · dsimp only
      split
      · trivial
      · trivial
      · rename_i hallowed
        exact (decodePatternList_ends (hasLongNumber_firstOf h hallowed)).bind fun _ _ => trivial
  · exact DecodeFault.noConfusion

theorem decodeRules_ends {index : Nat} {items : List Value}
    (h : Value.anyLongNumber items = false) :
    Ends DecodeFault.IsShown (fun _ => True) (decodeRules index items) := by
  induction items generalizing index with
  | nil => trivial
  | cons item more ih =>
    rw [Value.anyLongNumber, Bool.or_eq_false_iff] at h
    unfold decodeRules
    exact (decodeRule_ends h.1).bind fun _ _ => (ih h.2).bind fun _ _ => trivial

theorem decodeName_ends (override : Option String) (name : Option Value) :
    Ends DecodeFault.IsShown (fun _ => True) (decodeName override name) := by
  have hgiven : Ends DecodeFault.IsShown (fun _ => True) (decodeName.given name) := by
    unfold decodeName.given
    split
    · trivial
    · split
      · trivial
      · split
        · trivial
        · exact DecodeFault.noConfusion
  unfold decodeName
  split
  · split
    · exact hgiven
    · trivial
  · exact hgiven

/-- The rest of decoding, behind the rules of the mapping. -/
def decodeBehind (entries : Entries) (override : Option String) (mapped : List Policy.Rule) :
    Except DecodeFault Policy := do
  let listed ← match entries.get? "rules" with
    | none | some .null => .ok []
    | some (.array items) => decodeRules 0 items
    | some _ => .error .rules
  let name ← decodeName override (entries.get? "name")
  .ok { rules := mapped ++ listed, name }

theorem decodeBehind_ends {entries : Entries} (h : Value.entriesLongNumber entries = false)
    (override : Option String) (mapped : List Policy.Rule) :
    Ends DecodeFault.IsShown (fun _ => True) (decodeBehind entries override mapped) := by
  have hname : ∀ rules : List Policy.Rule, Ends DecodeFault.IsShown (fun _ => True)
      (decodeName override (entries.get? "name") >>= fun name =>
        .ok ({ rules, name } : Policy)) :=
    fun _ => (decodeName_ends override _).bind fun _ _ => trivial
  unfold decodeBehind
  dsimp only
  split
  · exact hname _
  · exact hname _
  · rename_i hget
    exact (decodeRules_ends (Document.Entries.hasLongNumber_get? h hget)).bind fun _ _ => hname _
  · exact DecodeFault.noConfusion

/-- **A table without long numbers is decoded, or has a fault that can be
shown.** -/
theorem decode_ends {entries : Entries} (h : Value.entriesLongNumber entries = false)
    (override : Option String) :
    Ends DecodeFault.IsShown (fun _ => True) (Policy.decode entries override) := by
  have hbehind := decodeBehind_ends h override
  unfold Policy.decode
  dsimp only
  split
  · exact hbehind []
  · exact hbehind []
  · rename_i hget
    exact (decodeImports_ends (Document.Entries.hasLongNumber_get? h hget)).bind
      fun mapped _ => hbehind mapped
  · exact DecodeFault.noConfusion

end Decode

namespace Policy

variable {w : Workspace} {env : Environment} {root path : Path} {config : Option Path}

/-! ## The file that decides -/

/-- The path of the file that the policy is looked for in, if there is one. -/
def selected? (w : Workspace) (env : Environment) (root : Path) (config : Option Path) :
    Option Path :=
  match requested env config with
  | some path => some (if !path.isAbsolute && !w.exists? path then root.join path else path)
  | none =>
    if w.exists? (root.child policyFile) then some (root.child policyFile)
    else if w.exists? (root.child projectFile) then some (root.child projectFile)
    else none

/-- The text of a file with a configuration, if the file can be read. -/
def textAt (w : Workspace) (path : Path) : Except Interruption (Option (List Char)) :=
  if path.hasNul then .error (.path .nulOpened)
  else match w.readBytes path with
    | .error _ => .ok none
    | .ok bytes => match Text.Utf8.decode bytes with
      | .error f => .error (.encoding f)
      | .ok chars => .ok (some (Text.Lines.unify chars))

/-- The text of the configuration that decides, if there is one that can be
read. -/
def configText (w : Workspace) (env : Environment) (root : Path) (config : Option Path) :
    Except Interruption (Option (List Char)) :=
  match w.resolve root with
  | .error t => .error (.path t)
  | .ok root => match selected? w env root config with
    | none => .ok none
    | some path => textAt w path

/-! ## Reading and finding the table -/

/-- A fault that refuses a configuration. -/
def IsRefusal : LoadFault → Prop
  | .refused _ => True
  | .interrupted _ => False

theorem jsonTable_ends {text : List Char} (h : Short text) :
    Ends IsRefusal (fun entries => Value.entriesLongNumber entries = false)
      (jsonTable path text) := by
  have hread := Document.Json.read_ends h
  unfold jsonTable
  split
  · rename_i entries heq
    rw [heq] at hread
    exact hread
  · trivial
  · rename_i f heq
    rw [heq] at hread
    split
    · rename_i count hproblem
      exact absurd hproblem (hread count)
    · trivial

theorem tomlTable_ends {text : List Char} (h : Short text) :
    Ends IsRefusal (fun entries => Value.entriesLongNumber entries = false)
      (tomlTable path text) := by
  have hread := Document.Toml.read_ends h
  unfold tomlTable
  split
  · rename_i entries heq
    rw [heq] at hread
    exact hread
  · rename_i f heq
    rw [heq] at hread
    split
    · rename_i count hproblem
      exact absurd hproblem (hread count)
    · trivial

theorem readTable_interrupted {i : Interruption} (h : textAt w path = .error i) :
    readTable w path = .error (.interrupted i) := by
  unfold textAt at h
  unfold readTable
  cases hnul : path.hasNul with
  | true =>
    rw [hnul] at h
    cases h
    rfl
  | false =>
    rw [hnul] at h
    cases hbytes : w.readBytes path with
    | error e => simp [hbytes] at h
    | ok bytes => cases hdecode : Text.Utf8.decode bytes with
      | error f =>
        obtain rfl : Interruption.encoding f = i := by simpa [hbytes, hdecode] using h
        rw [if_neg Bool.false_ne_true]
        dsimp only
        rw [hdecode]
      | ok chars => simp [hbytes, hdecode] at h

theorem readTable_ends {text : Option (List Char)} (h : textAt w path = .ok text)
    (hshort : ∀ t ∈ text, Short t) :
    Ends IsRefusal (fun entries => Value.entriesLongNumber entries = false)
      (readTable w path) := by
  unfold textAt at h
  unfold readTable
  cases hnul : path.hasNul with
  | true => simp [hnul] at h
  | false =>
    rw [hnul] at h
    cases hbytes : w.readBytes path with
    | error e => trivial
    | ok bytes => cases hdecode : Text.Utf8.decode bytes with
      | error f => simp [hbytes, hdecode] at h
      | ok chars =>
        obtain rfl : some (Text.Lines.unify chars) = text := by simpa [hbytes, hdecode] using h
        rw [if_neg Bool.false_ne_true]
        dsimp only
        rw [hdecode]
        dsimp only
        split
        · exact jsonTable_ends (hshort _ rfl)
        · exact tomlTable_ends (hshort _ rfl)

theorem toolPart_ends {entries : Entries} (h : Value.entriesLongNumber entries = false) :
    Ends IsRefusal (fun part => ∀ inner ∈ part, Value.entriesLongNumber inner = false)
      (toolPart path entries) := by
  unfold toolPart
  split
  · rename_i tools htools
    have htools := Document.Entries.hasLongNumber_get? h htools
    split
    · simp
    · rename_i inner hinner
      have hinner := Document.Entries.hasLongNumber_get? htools hinner
      rintro _ ⟨⟩
      exact hinner
    · trivial
  · simp

theorem findTable_interrupted {i : Interruption} (hpath : selected? w env root config = some path)
    (h : textAt w path = .error i) : findTable w env root config = .error (.interrupted i) := by
  have hread := readTable_interrupted h
  unfold selected? at hpath
  unfold findTable
  cases hrequested : requested env config with
  | some named =>
    rw [hrequested] at hpath
    unfold requestedTable readToolPart
    dsimp only
    rw [Option.some.inj hpath, hread]
    split
    · rfl
    · rfl
  | none =>
    rw [hrequested] at hpath
    dsimp only at hpath ⊢
    by_cases hown : w.exists? (root.child policyFile) = true
    · rw [if_pos hown] at hpath ⊢
      cases hpath
      rw [hread]
      rfl
    rw [if_neg hown] at hpath ⊢
    by_cases hshared : w.exists? (root.child projectFile) = true
    · rw [if_pos hshared] at hpath ⊢
      cases hpath
      rw [readToolPart, hread]
      rfl
    · rw [if_neg hshared] at hpath
      cases hpath

theorem readToolPart_ends
    (hread : Ends IsRefusal (fun entries => Value.entriesLongNumber entries = false)
      (readTable w path)) :
    Ends IsRefusal (fun part => ∀ inner ∈ part, Value.entriesLongNumber inner = false)
      (readToolPart w path) :=
  hread.bind fun _ => toolPart_ends

theorem requestedTable_ends {named : Path}
    (hpath : (if !named.isAbsolute && !w.exists? named then root.join named else named) = path)
    (hread : Ends IsRefusal (fun entries => Value.entriesLongNumber entries = false)
      (readTable w path)) :
    Ends IsRefusal (fun found => Value.entriesLongNumber found.2 = false)
      (requestedTable w root named) := by
  unfold requestedTable
  dsimp only
  rw [hpath]
  split
  · refine (readToolPart_ends hread).bind fun part hpart => ?_
    split
    · exact hpart _ rfl
    · trivial
  · exact hread.bind fun _ hentries => hentries

theorem findTable_ends (hpath : selected? w env root config = some path)
    (hread : Ends IsRefusal (fun entries => Value.entriesLongNumber entries = false)
      (readTable w path)) :
    Ends IsRefusal (fun found => ∀ pair ∈ found, Value.entriesLongNumber pair.2 = false)
      (findTable w env root config) := by
  unfold selected? at hpath
  unfold findTable
  cases hrequested : requested env config with
  | some named =>
    rw [hrequested] at hpath
    refine (requestedTable_ends (Option.some.inj hpath) hread).bind fun found hfound => ?_
    rintro _ ⟨⟩
    exact hfound
  | none =>
    rw [hrequested] at hpath
    dsimp only at hpath ⊢
    by_cases hown : w.exists? (root.child policyFile) = true
    · rw [if_pos hown] at hpath ⊢
      cases hpath
      refine hread.bind fun entries hentries => ?_
      rintro _ ⟨⟩
      exact hentries
    rw [if_neg hown] at hpath ⊢
    by_cases hshared : w.exists? (root.child projectFile) = true
    · rw [if_pos hshared] at hpath ⊢
      cases hpath
      refine (readToolPart_ends hread).bind fun part hpart pair hpair => ?_
      obtain ⟨inner, hinner, rfl⟩ := Option.map_eq_some_iff.mp hpair
      exact hpart inner hinner
    · rw [if_neg hshared] at hpath
      cases hpath

theorem findTable_none (h : selected? w env root config = none) :
    findTable w env root config = .ok none := by
  unfold selected? at h
  unfold findTable
  cases hrequested : requested env config with
  | some named =>
    rw [hrequested] at h
    cases h
  | none =>
    rw [hrequested] at h
    dsimp only at h ⊢
    by_cases hown : w.exists? (root.child policyFile) = true
    · rw [if_pos hown] at h
      cases h
    rw [if_neg hown] at h ⊢
    by_cases hshared : w.exists? (root.child projectFile) = true
    · rw [if_pos hshared] at h
      cases h
    · rw [if_neg hshared]

/-! ## Loading -/

theorem fromFound_ends {found : Option (Path × Entries)}
    (h : ∀ pair ∈ found, Value.entriesLongNumber pair.2 = false) :
    Ends IsRefusal (fun _ => True) (fromFound env root found) := by
  unfold fromFound
  split
  · trivial
  · rename_i path entries
    have hdecode := decode_ends (h _ rfl) (env.given? "IMPORTGUARD_SOURCE")
    split
    · trivial
    · rename_i heq
      rw [heq] at hdecode
      exact hdecode rfl
    · trivial

/-- Where the configuration cannot even be read as a text, loading ends. -/
theorem load_interrupted {i : Interruption} (h : configText w env root config = .error i) :
    load w env root config = .error (.interrupted i) := by
  unfold configText at h
  unfold load rootOf
  cases hroot : w.resolve root with
  | error t =>
    rw [hroot] at h
    cases h
    rfl
  | ok real =>
    rw [hroot] at h
    dsimp only at h ⊢
    cases hpath : selected? w env real config with
    | none => simp [hpath] at h
    | some path =>
      rw [hpath] at h
      rw [ok_bind, findTable_interrupted hpath h]
      rfl

/-- Whatever else is wrong with a configuration is refused. -/
theorem load_ends {text : Option (List Char)} (h : configText w env root config = .ok text)
    (hshort : ∀ t ∈ text, Short t) :
    Ends IsRefusal (fun _ => True) (load w env root config) := by
  unfold configText at h
  unfold load rootOf
  cases hroot : w.resolve root with
  | error t => simp [hroot] at h
  | ok real =>
    rw [hroot] at h
    dsimp only at h ⊢
    rw [ok_bind]
    cases hpath : selected? w env real config with
    | none =>
      rw [findTable_none hpath, ok_bind]
      exact fromFound_ends fun _ hnone => by cases hnone
    | some path =>
      rw [hpath] at h
      exact (findTable_ends hpath (readTable_ends h hshort)).bind fun _ => fromFound_ends

/-- A command whose configuration is refused says so, or that there is
something wrong with the root. -/
theorem answer_of_refused [CharacterNames] {r : Command.Request} {p : Project} {f : ConfigFault}
    (hname : r.name ≠ .help) (hp : Project.atPath w (.ofString r.settings.path) = .ok p)
    (hload : load w env p.root (r.settings.config.map Path.ofString) = .error (.refused f)) :
    ∃ message, Command.answer w env r = .ok (.refusal message) := by
  have hpolicy : ∀ go, ∃ message,
      Command.withPolicy w env r.settings go = .ok (.refusal message) := by
    intro go
    unfold Command.withPolicy
    rw [hp]
    dsimp only
    split
    · exact ⟨_, rfl⟩
    · rw [hload]
      exact ⟨_, rfl⟩
  unfold Command.answer
  split
  · rename_i hhelp
    exact absurd hhelp hname
  · exact hpolicy _
  · exact hpolicy _

/-- A tree with nothing but a configuration. -/
def configTree (bytes : List UInt8) : Node := .folder [(policyFile, .file bytes)]

end Policy

end ImportPolicy
