import ImportPolicy.Proofs.Files.Settling

/-!
# The name of a file leads to the file

A file that is asked for under some name is read through the name by which it
is known. Whether both lead to the same text is a question about two ways of
treating a path. Reading walks it, name by name, through the tree.
`Project.identity` first takes the double dots out of it as it is written,
and where that does not lead below the root it resolves the folder, and in
doing so takes what is not there as it is written.

The two part in three cases. A double dot that is taken out with the name
before it is a mistake where that name is a link, which leads elsewhere, or
leads nowhere. A double dot behind something that is not there takes it back
when a folder is resolved. And resolving a folder counts no links, while
reading gives up after forty. `Steady` says that none of this happens, and
then the text is the same (`sourceFile_identity`).
-/

namespace ImportPolicy

/-- What a path leads to, where that is anything, is told by the walk along
its names. -/
theorem Workspace.toOption_find {w : Workspace} {path : Path} (h : path.isAbsolute = true) :
    (w.find path).toOption = (w.files.walk [] path.parts).toOption.bind w.files.at? := by
  unfold find origin
  rw [if_pos h]
  cases w.files.walk [] path.parts with
  | error e => rfl
  | ok place =>
    rw [ok_bind]
    show _ = w.files.at? place
    cases w.files.at? place with
    | none => rfl
    | some node => rfl

theorem Workspace.walk_ne_linkLoop {w : Workspace} {path : Path} (h : path.isAbsolute = true)
    (hfind : w.find path ≠ .error .linkLoop) :
    w.files.walk [] path.parts ≠ .error .linkLoop := by
  intro hwalk
  unfold find origin at hfind
  rw [if_pos h, hwalk] at hfind
  exact hfind rfl

theorem Workspace.walk_of_exists {w : Workspace} {path : Path} (h : path.isAbsolute = true)
    (hexists : w.exists? path = true) : ∃ place, w.files.walk [] path.parts = .ok place := by
  unfold exists? at hexists
  cases hfind : w.find path with
  | error e => simp [hfind] at hexists
  | ok node =>
    rw [find, bind_eq_ok, origin, if_pos h] at hfind
    obtain ⟨place, hplace, -⟩ := hfind
    exact ⟨place, hplace⟩

theorem Path.hasNul_eq_false {path : Path} :
    path.hasNul = false ↔ ∀ part ∈ path.parts, Char.ofNat 0 ∉ part.toList := by
  unfold hasNul
  simp

namespace Project

variable {p : Project} {name : String}

/-- Every double dot of a row stands behind a folder that is reached without
links. -/
def Level (files : Node) (row : List String) : Prop :=
  ∀ k < row.length, row[k]? = some ".." →
    files.isFolderAt (Path.lexical [] (row.take k)) = true

instance (files : Node) (row : List String) : Decidable (Level files row) :=
  inferInstanceAs (Decidable (∀ k < row.length, row[k]? = some ".." →
    files.isFolderAt (Path.lexical [] (row.take k)) = true))

theorem Level.isFolderAt {files : Node} {row front back : List String} (h : Level files row)
    (hrow : row = front ++ ".." :: back) : files.isFolderAt (Path.lexical [] front) = true := by
  have hfolder := h front.length (by simp [hrow]) (by simp [hrow])
  rwa [hrow, List.take_left] at hfolder

/-- The names under which a reader and `Project.identity` look for a file in
the same way. -/
structure Steady (p : Project) (name : String) : Prop where
  /-- A path that is below the root as it is written goes up from folders. -/
  written : (p.locate name).normal.relativeTo? p.root ≠ none →
    Level p.work.files (p.locate name).parts
  /-- A path that is below the root once its folder is resolved has no more
  links than can be followed, and its folder is there or nothing leads up. -/
  resolved : (p.locate name).normal.relativeTo? p.root = none →
    (p.throughFolder (p.locate name)).relativeTo? p.root ≠ none →
    p.work.find (p.locate name) ≠ .error .linkLoop
    ∧ (p.work.exists? (p.locate name).parent = true
      ∨ ".." ∉ (p.locate name).parent.parts ∧ p.work.files.Straight)

/-- Two names have the same text if they lead to the same place. -/
theorem text?_congr {base : List String} (hroot : p.root = ⟨.absolute, base⟩) {a b : String}
    (hnul : (p.locate a).hasNul = (p.locate b).hasNul)
    (hwalk : (p.work.files.walk [] (p.locate a).parts).toOption
      = (p.work.files.walk [] (p.locate b).parts).toOption) :
    p.text? a = p.text? b := by
  have hfind : (p.work.find (p.locate a)).toOption = (p.work.find (p.locate b)).toOption := by
    rw [Workspace.toOption_find (isAbsolute_locate hroot a),
      Workspace.toOption_find (isAbsolute_locate hroot b), hwalk]
  unfold text? trouble? Workspace.readBytes
  rw [hnul]
  cases ha : p.work.find (p.locate a) with
  | error e => cases hb : p.work.find (p.locate b) with
    | error e' => rfl
    | ok node => simp [ha, hb, Except.toOption] at hfind
  | ok node =>
    rw [ha] at hfind
    rw [toOption_eq_some.mp hfind.symm]

/-- A NUL character on the path of a file comes from the root, unless it is
in the name. -/
theorem hasNul_root {base : List String} (hroot : p.root = ⟨.absolute, base⟩)
    (hname : Char.ofNat 0 ∉ name.toList) (h : (p.locate name).hasNul = true) :
    ∃ part ∈ base, Char.ofNat 0 ∈ part.toList := by
  have hclean : ∀ part ∈ (Path.ofString name).parts, Char.ofNat 0 ∉ part.toList :=
    fun part hpart => (Node.isClean_of_mem_names hname (List.mem_filter.mp hpart).1).2
  by_contra hbase
  push Not at hbase
  have hnone : (p.locate name).hasNul = false := by
    refine Path.hasNul_eq_false.mpr fun part hpart => ?_
    unfold locate Path.join at hpart
    split at hpart
    · exact hclean part hpart
    · rw [hroot] at hpart
      exact (List.mem_append.mp hpart).elim (hbase part) (hclean part)
  rw [hnone] at h
  cases h

theorem text?_of_hasNul (h : (p.locate name).hasNul = true) : p.text? name = none := by
  unfold text? trouble?
  rw [if_pos h]
  rfl

/-- A file is not read from below a root with a NUL character, whatever its
name. -/
theorem text?_identity_of_hasNul {base : List String} (hroot : p.root = ⟨.absolute, base⟩)
    (hbase : Path.Plain base) (hname : Char.ofNat 0 ∉ name.toList)
    (h : (p.locate name).hasNul = true) : p.text? (p.identity name) = none := by
  refine text?_of_hasNul ?_
  obtain ⟨inner, hidentity, hinner⟩ | hidentity := identity_cases hroot hbase name
  · have hparts : ∀ part ∈ inner, Path.isName part = true :=
      hinner.elim Path.Plain.isName And.left
    obtain ⟨part, hpart, hnul⟩ := hasNul_root hroot hname h
    rw [hidentity, locate_relative hroot hparts]
    refine List.any_eq_true.mpr ⟨part, List.mem_append_left _ hpart, ?_⟩
    simpa using hnul
  · rw [hidentity, locate_toString_locate hroot hbase, h]

/-- Taking out double dots does not change the file, where they stand behind
folders. -/
theorem text?_written {base : List String} (hroot : p.root = ⟨.absolute, base⟩)
    (hbase : Path.Plain base) (hnul : (p.locate name).hasNul = false) {inner : Path}
    (hinner : (p.locate name).normal.relativeTo? p.root = some inner)
    (hlevel : Level p.work.files (p.locate name).parts) :
    p.text? inner.toString = p.text? name := by
  have hparts : ∀ part ∈ (p.locate name).parts, Path.isName part = true :=
    fun _ hpart => isName_of_mem_locate hroot hbase hpart
  obtain ⟨-, hbelow, hrelative⟩ := Path.relativeTo?_eq_some hinner
  rw [hroot] at hbelow
  obtain ⟨_, rest⟩ := inner
  cases hrelative
  change Path.lexical [] (p.locate name).parts = base ++ rest at hbelow
  have hplain : Path.Plain (base ++ rest) := hbelow ▸ Path.plain_lexical hparts
  have hlocate := locate_relative (p := p) hroot fun part hpart =>
    hplain.isName part (List.mem_append_right base hpart)
  refine text?_congr hroot ?_ ?_
  · rw [hlocate, hnul, Path.hasNul_eq_false, ← hbelow]
    intro part hpart
    obtain hnil | ⟨hmem, -⟩ := Path.mem_lexical hpart
    · exact absurd hnil List.not_mem_nil
    · exact Path.hasNul_eq_false.mp hnul part hmem
  · rw [hlocate, ← hbelow]
    have hwalk := Node.walkWithin_lexical (fun _ h => absurd h List.not_mem_nil) hparts
      hlevel.isFolderAt Node.mostLinks
    exact congrArg Except.toOption hwalk.symm

/-- A path leads to the same place after its folder is resolved, and still
holds no NUL character. -/
theorem walk_throughFolder (hlinks : p.work.files.WellLinked) {path : Path}
    (habsolute : path.isAbsolute = true) (hparts : ∀ part ∈ path.parts, Path.isName part = true)
    (hnul : path.hasNul = false) (hloop : p.work.find path ≠ .error .linkLoop)
    (hfolder : p.work.exists? path.parent = true
      ∨ ".." ∉ path.parent.parts ∧ p.work.files.Straight) :
    (∀ part ∈ (p.throughFolder path).parts, Char.ofNat 0 ∉ part.toList)
    ∧ (p.work.files.walk [] (p.throughFolder path).parts).toOption
      = (p.work.files.walk [] path.parts).toOption := by
  have hparent : path.parent.isAbsolute = true := habsolute
  have hloop := Workspace.walk_ne_linkLoop habsolute hloop
  have hfolder : (∃ place, p.work.files.walk [] path.parts.dropLast = .ok place)
      ∨ ".." ∉ path.parts.dropLast ∧ p.work.files.Straight :=
    hfolder.imp_left (Workspace.walk_of_exists hparent)
  have hsettled : p.work.settled path.parent = p.work.files.settle [] path.parts.dropLast := by
    unfold Workspace.settled Workspace.origin
    rw [if_pos hparent]
    rfl
  have hclean := Path.hasNul_eq_false.mp hnul
  rw [parts_throughFolder, hsettled]
  obtain hnil | ⟨front, last, hconcat⟩ := path.parts.eq_nil_or_concat
  · rw [hnil]
    exact ⟨fun part hpart => absurd hpart List.not_mem_nil, rfl⟩
  · rw [List.concat_eq_append] at hconcat
    rw [hconcat, List.dropLast_concat] at hfolder ⊢
    rw [hconcat] at hloop hclean hparts
    have hfront : ∀ part ∈ front, Node.IsClean part := fun part hpart =>
      ⟨(Path.isName_iff.mp (hparts part (List.mem_append_left _ hpart))).2.2,
        hclean part (List.mem_append_left _ hpart)⟩
    obtain ⟨hclear, hwalk⟩ := Node.toOption_walk_settle hlinks hfront hloop hfolder
    rw [List.getLast?_concat, Option.toList_some]
    refine ⟨fun part hpart => ?_, hwalk⟩
    obtain hpart | hpart := List.mem_append.mp hpart
    · exact (hclear.entry part hpart).1.2
    · exact hclean part (List.mem_append_right _ hpart)

/-- Resolving the folder of a file does not change the file, where the folder
is found or nothing leads up. -/
theorem text?_resolved {base : List String} (hroot : p.root = ⟨.absolute, base⟩)
    (hbase : Path.Plain base) (hlinks : p.work.files.WellLinked)
    (hnul : (p.locate name).hasNul = false) {inner : Path}
    (hinner : (p.throughFolder (p.locate name)).relativeTo? p.root = some inner)
    (hloop : p.work.find (p.locate name) ≠ .error .linkLoop)
    (hfolder : p.work.exists? (p.locate name).parent = true
      ∨ ".." ∉ (p.locate name).parent.parts ∧ p.work.files.Straight) :
    p.text? inner.toString = p.text? name := by
  have hparts : ∀ part ∈ (p.locate name).parts, Path.isName part = true :=
    fun _ hpart => isName_of_mem_locate hroot hbase hpart
  obtain ⟨-, hbelow, hrelative⟩ := Path.relativeTo?_eq_some hinner
  rw [hroot] at hbelow
  obtain ⟨_, rest⟩ := inner
  cases hrelative
  change (p.throughFolder (p.locate name)).parts = base ++ rest at hbelow
  obtain ⟨hclean, hwalk⟩ :=
    walk_throughFolder hlinks (isAbsolute_locate hroot name) hparts hnul hloop hfolder
  have hlocate := locate_relative (p := p) hroot
    ((plain_or_up_of_throughFolder hbase hparts hbelow).elim Path.Plain.isName And.left)
  refine text?_congr hroot ?_ ?_
  · rw [hlocate, hnul, Path.hasNul_eq_false, ← hbelow]
    exact hclean
  · rw [hlocate, ← hbelow]
    exact hwalk

/-- **The name of a file leads to the file.** For every file tree and every
root in it, and for every steady name without a NUL character: there is no
file to read, neither under that name nor under the one by which it is known,
or there is one under both, with the same text. -/
theorem sourceFile_identity [CharacterNames] {w : Workspace} {path : Path}
    (hp : atPath w path = .ok p) (hlinks : p.work.files.WellLinked)
    (hname : Char.ofNat 0 ∉ name.toList) (hsteady : Steady p name) :
    (p.sourceFile (p.identity name)).map (·.text) = (p.sourceFile name).map (·.text) := by
  obtain ⟨base, hroot, hbase⟩ := root_of_atPath hp
  have htext : p.text? (p.identity name) = p.text? name := by
    -- a NUL character on the path is in the root, and keeps both from being read
    cases hnul : (p.locate name).hasNul with
    | true => rw [text?_identity_of_hasNul hroot hbase hname hnul, text?_of_hasNul hnul]
    | false =>
      unfold identity
      dsimp only
      split
      · rename_i inner hinner
        exact text?_written hroot hbase hnul hinner (hsteady.written (by simp [hinner]))
      rename_i hnormal
      split
      · rename_i inner hinner
        obtain ⟨hloop, hfolder⟩ := hsteady.resolved hnormal (by simp [hinner])
        exact text?_resolved hroot hbase hlinks hnul hinner hloop hfolder
      · refine text?_congr hroot ?_ ?_
        · rw [locate_toString_locate hroot hbase]
        · rw [locate_toString_locate hroot hbase]
  unfold sourceFile
  rw [htext, Option.map_map, Option.map_map]
  rfl

/-- A project in a folder `p`, with another way to it from outside. -/
def aliasTree : Node := .folder
  [("p", .folder [("a.py", .file "import os\n".toUTF8.toList), ("sub", .folder [])]),
   ("l", .link "p")]

/-- The project in that tree. -/
def aliasProject : Project := ⟨⟨aliasTree, []⟩, ⟨.absolute, ["p"]⟩⟩

theorem wellLinked_aliasTree : aliasTree.WellLinked := by
  intro place target hat
  obtain rfl : place = ["l"] := List.mem_singleton.mp (Node.mem_linkPlaces aliasTree hat)
  cases hat
  decide

/-- The file in the project is read under a path that goes up from a folder
of the project, and under a path that leads into the project through a
link. -/
theorem sourceFile_identity_alias :
    aliasProject.identity "sub/../a.py" = "a.py" ∧ aliasProject.identity "/l/a.py" = "a.py"
    ∧ ∀ name ∈ ["sub/../a.py", "/l/a.py"],
      (aliasProject.sourceFile (aliasProject.identity name)).map (·.text)
        = (aliasProject.sourceFile name).map (·.text) := by
  have hp : atPath ⟨aliasTree, []⟩ (.ofString "/p") = .ok aliasProject := rfl
  have hupwards : Steady aliasProject "sub/../a.py" := by
    refine ⟨fun _ => by decide +kernel, fun hnone => ?_⟩
    exact absurd hnone (by decide +kernel)
  have hthrough : Steady aliasProject "/l/a.py" := by
    refine ⟨fun hsome => absurd (by decide +kernel) hsome, fun _ _ => ⟨fun hloop => ?_, ?_⟩⟩
    · have hexists : aliasProject.work.exists? (aliasProject.locate "/l/a.py") = true := by
        decide +kernel
      simp [Workspace.exists?, hloop] at hexists
    · exact .inl (by decide +kernel)
  refine ⟨by decide +kernel, by decide +kernel, ?_⟩
  intro name hname
  obtain rfl | rfl : name = "sub/../a.py" ∨ name = "/l/a.py" := by simpa using hname
  · exact sourceFile_identity hp wellLinked_aliasTree (by decide +kernel) hupwards
  · exact sourceFile_identity hp wellLinked_aliasTree (by decide +kernel) hthrough

/-- Two folders with a file each, and a link from one into the other. -/
def crossedTree : Node := .folder
  [("p", .folder [("a.py", .file "import os\n".toUTF8.toList), ("l", .link "../q/d")]),
   ("q", .folder [("a.py", .file "import json\n".toUTF8.toList), ("d", .folder [])])]

/-- The project in the first of the two. -/
def crossedProject : Project := ⟨⟨crossedTree, []⟩, ⟨.absolute, ["p"]⟩⟩

/-- **A double dot behind a link is taken for the link**: the file that is
asked for lies outside, and the name by which it is known is that of another
file in the project. -/
theorem sourceFile_identity_crossed :
    atPath ⟨crossedTree, []⟩ (.ofString "/p") = .ok crossedProject
    ∧ crossedTree.WellLinked
    ∧ crossedProject.identityTrouble? "l/../a.py" = none
    ∧ (crossedProject.sourceFile "l/../a.py").map (·.text) = some "import json\n"
    ∧ (crossedProject.sourceFile (crossedProject.identity "l/../a.py")).map (·.text)
      = some "import os\n" := by
  refine ⟨rfl, fun {place target} hat => ?_, by decide +kernel, by decide +kernel,
    by decide +kernel⟩
  obtain rfl : place = ["p", "l"] := List.mem_singleton.mp (Node.mem_linkPlaces crossedTree hat)
  cases hat
  decide

end Project

end ImportPolicy
