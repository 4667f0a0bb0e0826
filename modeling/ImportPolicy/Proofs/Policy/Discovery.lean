import ImportPolicy.Proofs.Policy.Containment

/-!
# The first source decides

Four sources are looked through for a policy. The statement that the first
one that is there decides is about two runs: whatever else differs between
two file trees, working folders and environments, the outcome is the same if
the same file is selected and the same is read there. Outcomes are compared
whole, a fault like a policy, and so a faulty source is never passed over in
favour of a later one.

The reason is that a file tree enters the outcome in three places only. It
says where the root is; it says which path is selected, by answers to whether
something exists; and it is read at that path (`readTable_congr`). Everything
behind that is a function of what was read. The first place is the one that
does not depend on the source: a root that cannot be resolved ends the run
also where the file that is asked for needs no root, so it is assumed that
the root can be resolved.
-/

namespace ImportPolicy.Policy

open Document (Value Entries)

variable {w w' : Workspace} {env env' : Environment} {root root' path path' real real' : Path}
  {config config' : Option Path}

/-! ## Which file is asked for -/

/-- The file that a path selects: as it is written if the path is absolute or
leads somewhere from the working folder, and otherwise under the root. -/
def chosen (w : Workspace) (root path : Path) : Path :=
  if path.isAbsolute || w.exists? path then path else root.join path

/-- The table in a file that was selected by its path. Of a project's own
file it is the part for this tool, which has to be there. -/
def chosenTable (w : Workspace) (path : Path) : Except LoadFault (Path × Entries) := do
  if path.name = projectFile then
    match ← readToolPart w path with
    | some entries => .ok (path, entries)
    | none => .error (.refused (.toolMissing path))
  else
    let entries ← readTable w path
    .ok (path, entries)

theorem requestedTable_eq (w : Workspace) (root path : Path) :
    requestedTable w root path = chosenTable w (chosen w root path) := by
  have hchosen : chosen w root path
      = if !path.isAbsolute && !w.exists? path then root.join path else path := by
    unfold chosen
    cases path.isAbsolute with
    | true => rfl
    | false => cases w.exists? path with
      | true => rfl
      | false => rfl
  rw [hchosen]
  rfl

theorem findTable_requested (h : requested env config = some path) :
    findTable w env root config
      = chosenTable w (chosen w root path) >>= fun found => .ok (some found) := by
  rw [findTable, h, ← requestedTable_eq]

theorem findTable_own (h : requested env config = none)
    (hown : w.exists? (root.child policyFile) = true) :
    findTable w env root config
      = readTable w (root.child policyFile) >>= fun entries =>
        .ok (some (root.child policyFile, entries)) := by
  rw [findTable, h]
  dsimp only
  rw [if_pos hown]

theorem load_eq (hroot : w.resolve root = .ok real) :
    load w env root config = findTable w env real config >>= fromFound env real := by
  rw [load, rootOf, hroot]
  rfl

/-! ## What is read there -/

/-- A tree enters a table only through what is read at its path. -/
theorem readTable_congr (h : w.readBytes path = w'.readBytes path) :
    readTable w path = readTable w' path := by
  unfold readTable
  rw [h]

theorem chosenTable_congr (h : w.readBytes path = w'.readBytes path) :
    chosenTable w path = chosenTable w' path := by
  unfold chosenTable readToolPart
  rw [readTable_congr h]

/-- Of the environment only the name of the policy enters what is made of a
table, and the root does not. -/
theorem fromFound_congr
    (hname : env.given? "IMPORTGUARD_SOURCE" = env'.given? "IMPORTGUARD_SOURCE")
    (real real' : Path) (found : Path × Entries) :
    fromFound env real (some found) = fromFound env' real' (some found) := by
  unfold fromFound
  rw [hname]

/-- The outcome for a file that is asked for, from that file and the name
that the environment gives. -/
theorem load_requested_congr (hroot : w.resolve root = .ok real)
    (hroot' : w'.resolve root' = .ok real')
    (hname : env.given? "IMPORTGUARD_SOURCE" = env'.given? "IMPORTGUARD_SOURCE")
    (hpath : requested env config = some path) (hpath' : requested env' config' = some path')
    (hsame : chosen w real path = chosen w' real' path')
    (hread : w.readBytes (chosen w real path) = w'.readBytes (chosen w real path)) :
    load w env root config = load w' env' root' config' := by
  rw [load_eq hroot, load_eq hroot', findTable_requested hpath, findTable_requested hpath', ← hsame,
    chosenTable_congr hread]
  cases chosenTable w' (chosen w real path) with
  | error fault => rfl
  | ok found => exact fromFound_congr hname real real' found

/-- The outcome for the file of its own in the root, likewise. -/
theorem load_own_congr (hroot : w.resolve root = .ok real) (hroot' : w'.resolve root' = .ok real)
    (hname : env.given? "IMPORTGUARD_SOURCE" = env'.given? "IMPORTGUARD_SOURCE")
    (hnone : requested env config = none) (hnone' : requested env' config' = none)
    (hown : w.exists? (real.child policyFile) = true)
    (hown' : w'.exists? (real.child policyFile) = true)
    (hread : w.readBytes (real.child policyFile) = w'.readBytes (real.child policyFile)) :
    load w env root config = load w' env' root' config' := by
  rw [load_eq hroot, load_eq hroot', findTable_own hnone hown, findTable_own hnone' hown',
    readTable_congr hread]
  cases readTable w' (real.child policyFile) with
  | error fault => rfl
  | ok entries => exact fromFound_congr hname real real (real.child policyFile, entries)

/-! ## Faults are not passed over -/

/-- A source that is selected and cannot be read as a table decides, whatever
the later sources hold. -/
theorem findTable_fault {fault : LoadFault} (hpath : selected? w env root config = some path)
    (h : readTable w path = .error fault) : findTable w env root config = .error fault := by
  unfold selected? at hpath
  cases hrequested : requested env config with
  | some named =>
    rw [hrequested] at hpath
    rw [findTable, hrequested]
    dsimp only
    unfold requestedTable readToolPart
    dsimp only
    rw [Option.some.inj hpath, h]
    split
    · rfl
    · rfl
  | none =>
    rw [hrequested] at hpath
    dsimp only at hpath
    by_cases hown : w.exists? (root.child policyFile) = true
    · rw [if_pos hown] at hpath
      cases hpath
      rw [findTable_own hrequested hown, h]
      rfl
    rw [if_neg hown] at hpath
    by_cases hshared : w.exists? (root.child projectFile) = true
    · rw [if_pos hshared] at hpath
      cases hpath
      rw [findTable, hrequested]
      dsimp only
      rw [if_neg hown, if_pos hshared, readToolPart, h]
      rfl
    · rw [if_neg hshared] at hpath
      cases hpath

theorem load_fault {fault : LoadFault} (hroot : w.resolve root = .ok real)
    (hpath : selected? w env real config = some path) (h : readTable w path = .error fault) :
    load w env root config = .error fault := by
  rw [load_eq hroot, findTable_fault hpath h]
  rfl

/-! ## Nothing is configured -/

/-- The policy without rules, with the remark that nothing is configured. -/
def unconfigured (env : Environment) (root : Path) : Policy × Log.Record :=
  ({ name := (env.given? "IMPORTGUARD_SOURCE").getD defaultName },
    { severity := .warning, logger := Log.fullName "config",
      message := "importguard: no policy configured under " ++ root.toString
        ++ "; every import will be reported" })

/-- A document has no part for this tool. -/
def HasNoTool (entries : Entries) : Prop :=
  ∀ tools, entries.get? "tool" = some (.table tools) → Entries.get? tools "importguard" = none

theorem toolPart_eq_none {entries : Entries} :
    toolPart path entries = .ok none ↔ HasNoTool entries := by
  unfold toolPart HasNoTool
  split
  · rename_i tools htools
    constructor
    · intro h other hother
      cases htools.symm.trans hother
      split at h
      · assumption
      · cases h
      · cases h
    · intro h
      rw [h tools htools]
  · rename_i hnot
    exact ⟨fun _ tools htools => absurd htools (hnot tools), fun _ => rfl⟩

theorem readToolPart_eq_none :
    readToolPart w path = .ok none
      ↔ ∃ entries, readTable w path = .ok entries ∧ HasNoTool entries := by
  rw [readToolPart, bind_eq_ok]
  exact exists_congr fun entries => and_congr_right fun _ => toolPart_eq_none

/-- No source has a table: no file is asked for, there is none for policies
alone, and the project's own file is missing or a document without a part for
this tool. -/
structure NothingConfigured (w : Workspace) (env : Environment) (root : Path)
    (config : Option Path) : Prop where
  requested : requested env config = none
  own : w.exists? (root.child policyFile) = false
  shared : w.exists? (root.child projectFile) = false
    ∨ ∃ entries, readTable w (root.child projectFile) = .ok entries ∧ HasNoTool entries

theorem findTable_eq_none :
    findTable w env root config = .ok none ↔ NothingConfigured w env root config := by
  cases hrequested : Policy.requested env config with
  | some path =>
    refine ⟨fun h => ?_, fun h => absurd (hrequested.symm.trans h.requested) (by simp)⟩
    rw [findTable_requested hrequested, bind_eq_ok] at h
    obtain ⟨found, -, h⟩ := h
    cases h
  | none =>
    cases hown : w.exists? (root.child policyFile) with
    | true =>
      refine ⟨fun h => ?_, fun h => absurd (hown.symm.trans h.own) (by simp)⟩
      rw [findTable_own hrequested hown, bind_eq_ok] at h
      obtain ⟨entries, -, h⟩ := h
      cases h
    | false =>
      have hfind : findTable w env root config
          = if w.exists? (root.child projectFile) then
              readToolPart w (root.child projectFile) >>= fun entries =>
                .ok (entries.map (root.child projectFile, ·))
            else .ok none := by
        rw [findTable, hrequested]
        dsimp only
        rw [hown, if_neg Bool.false_ne_true]
      rw [hfind]
      cases hshared : w.exists? (root.child projectFile) with
      | false => exact ⟨fun _ => ⟨hrequested, hown, .inl hshared⟩, fun _ => rfl⟩
      | true =>
        have hpart : (readToolPart w (root.child projectFile) >>= fun entries =>
            .ok (entries.map (root.child projectFile, ·))) = .ok none
            ↔ readToolPart w (root.child projectFile) = .ok none := by
          rw [bind_eq_ok]
          constructor
          · rintro ⟨part, hpart, hnone⟩
            rwa [Option.map_eq_none_iff.mp (Except.ok.inj hnone)] at hpart
          · exact fun hpart => ⟨none, hpart, rfl⟩
        rw [if_pos rfl, hpart, readToolPart_eq_none]
        exact ⟨fun h => ⟨hrequested, hown, .inr h⟩,
          fun h => h.shared.resolve_left (by simp [hshared])⟩

/-- What is made of a table that was found does not come with the remark that
nothing is configured. -/
theorem fromFound_eq_unconfigured {found : Option (Path × Entries)} :
    fromFound env root found = .ok (unconfigured env root) ↔ found = none := by
  constructor
  · intro h
    cases found with
    | none => rfl
    | some pair =>
      unfold fromFound at h
      dsimp only at h
      split at h
      · cases congrArg (·.2.severity) (Except.ok.inj h)
      · cases h
      · cases h
  · rintro rfl
    rfl

theorem load_eq_unconfigured (hroot : w.resolve root = .ok real) :
    load w env root config = .ok (unconfigured env real)
      ↔ NothingConfigured w env real config := by
  rw [load_eq hroot, bind_eq_ok, ← findTable_eq_none]
  constructor
  · rintro ⟨found, hfound, h⟩
    rwa [fromFound_eq_unconfigured.mp h] at hfound
  · exact fun h => ⟨none, h, rfl⟩

/-! ## The law of discovery -/

/-- A root with a configuration to be asked for, next to some other
entries. -/
def projectTree (others : List (String × Node)) : Node :=
  .folder [("p", .folder (("c.toml", .file "name = 'layers'".toUTF8.toList) :: others))]

/-- The files for policies alone and for the project, of which the first is
no document and the second configures something else. -/
def rivals : List (String × Node) :=
  [(policyFile, .file "= 1".toUTF8.toList),
    (projectFile, .file "[tool.importguard]\nname = 'other'".toUTF8.toList)]

/-- A configuration next to the root of a project. -/
def besideTree (root : Node) : Node :=
  .folder [("c.toml", .file "name = 'layers'".toUTF8.toList), ("p", root)]

end ImportPolicy.Policy
