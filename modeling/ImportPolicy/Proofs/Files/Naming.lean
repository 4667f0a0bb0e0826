import ImportPolicy.Proofs.Files.SameFile

/-!
# The name of a file is its own name

The name by which a file is known can be used in place of any other name of
the file, and is then found to be its name once more (`identity_idempotent`).
For a file that can be read this is known already, because a path that ends in
a double dot leads to a folder; here nothing is asked of the file, and it need
not exist. What has to be kept out instead is a name that itself ends in a
double dot.

Whatever was asked, the answer is written in one of two ways (`IsKnownName`):
as a path from the root that needs no looking up, since there are no double
dots on it, or as an absolute path, as it was given.

To find a name at all its folder has to be resolved, even where the path is
below the root as it is written. This fails at links that lead in a circle,
and there alone: a folder that is settled to the end lies at a place without
links on the way to it, and such a place can be looked at (`resolve_settled`).
-/

namespace ImportPolicy

namespace Node

variable {root : Node} {here place : Place}

/-- No link leads in a circle: whatever a link leads to is settled in the
end. -/
def LoopFree (root : Node) : Prop :=
  ∀ {here name target}, root.at? (here ++ [name]) = some (link target) →
    ∃ place n, Settles root (linkStart here target) (Path.names target) place n

/-- Without circles every row of names is settled in the end. -/
theorem LoopFree.settles (h : LoopFree root) (here : Place) (names : List String) :
    ∃ place n, Settles root here names place n := by
  induction names generalizing here with
  | nil => exact ⟨here, 0, .done here⟩
  | cons name rest ih =>
    cases honward : root.onward here name with
    | nowhere => exact absurd honward onward_ne_nowhere
    | leads next =>
      obtain ⟨place, n, hplace⟩ := ih next
      exact ⟨place, n, .go honward hplace⟩
    | through target =>
      obtain ⟨mid, m, hmid⟩ := h (onward_eq_through honward).2
      obtain ⟨place, n, hplace⟩ := ih mid
      exact ⟨place, m + n + 1, .follow honward hmid hplace⟩

/-- No links are followed on the way to a clear place, so they do not run
out. -/
theorem Clear.walkWithin_ne_linkLoop (h : Clear root (here ++ place)) (bound : Nat) :
    walkWithin root true bound here place ≠ .error .linkLoop := by
  induction place generalizing here with
  | nil =>
    rw [walkWithin_nil]
    simp
  | cons name rest ih =>
    obtain ⟨hdot, hup⟩ := (h.entry name (by simp)).2
    rw [walkWithin_eq, walkWith, if_neg hdot, if_neg hup]
    dsimp only
    split
    · simp
    split
    · simp
    · rename_i target hat
      exact absurd hat (h.unlinked ⟨rest, by simp⟩ (by simp) target)
    · rw [← walkWithin_eq]
      exact ih (by rwa [← List.append_cons])

/-- Without circles, clean names are settled to a clear place. -/
theorem LoopFree.clear_settle (hloops : LoopFree root) (hlinks : WellLinked root)
    {names : List String} (hnames : ∀ part ∈ names, IsClean part) :
    Clear root (root.settle [] names) := by
  obtain ⟨place, n, hplace⟩ := hloops.settles [] names
  have hclear : Clear root place :=
    clear_settleWithin hlinks (.nil root) hnames hplace.settleWithin_eq
  rwa [settle_eq hclear.plain hplace.settleWithin_eq]

end Node

theorem Workspace.settled_of_isAbsolute {w : Workspace} {path : Path}
    (h : path.isAbsolute = true) : w.settled path = w.files.settle [] path.parts := by
  unfold settled origin
  rw [if_pos h]

/-- **Without circles of links every path is resolved.** -/
theorem Workspace.resolve_settled {w : Workspace} (hlinks : w.files.WellLinked)
    (hloops : w.files.LoopFree) {path : Path} (habsolute : path.isAbsolute = true)
    (hparts : ∀ part ∈ path.parts, Node.IsClean part) :
    w.resolve path = .ok (.ofParts (w.settled path)) := by
  have hnul : path.hasNul = false :=
    Path.hasNul_eq_false.mpr fun part hpart => (hparts part hpart).2
  have hclear := hloops.clear_settle hlinks hparts
  have hwalk : w.files.walk [] (w.files.settle [] path.parts) ≠ .error .linkLoop :=
    @Node.Clear.walkWithin_ne_linkLoop w.files [] _ hclear Node.mostLinks
  rw [resolve, if_neg (by simp [hnul]), settled_of_isAbsolute habsolute]
  dsimp only
  split
  · rename_i hloop
    exact absurd hloop hwalk
  · rfl

namespace Project

variable {p : Project} {name : String} {base : List String}

/-- A project in which every path can be resolved: its links are as file
systems have them and do not lead in circles, and its root can be asked
for. -/
structure Resolvable (p : Project) : Prop where
  links : p.work.files.WellLinked
  loops : p.work.files.LoopFree
  root : p.root.hasNul = false

/-- The two ways in which files are known: by a path from the root without
double dots, which stands for an entry below the root, or by an absolute
path. -/
def IsKnownName (p : Project) (name : String) : Prop :=
  (∃ inner, Path.Plain inner ∧ name = Path.toString ⟨.relative, inner⟩
    ∧ p.locate name = p.root.join ⟨.relative, inner⟩)
  ∨ ∃ path : Path, path.isAbsolute = true ∧ name = path.toString ∧ p.locate name = path

/-- A path ends in a double dot only if the name does. -/
theorem getLast?_locate_ne (hroot : p.root = ⟨.absolute, base⟩) (hbase : Path.Plain base)
    (hlast : (Path.ofString name).name ≠ "..") : (p.locate name).parts.getLast? ≠ some ".." := by
  have hname : (Path.ofString name).parts.getLast? ≠ some ".." := by
    intro hup
    rw [Path.name, hup] at hlast
    exact hlast rfl
  unfold locate Path.join
  split
  · exact hname
  · rw [hroot]
    dsimp only
    intro hup
    rw [List.getLast?_append] at hup
    cases hparts : (Path.ofString name).parts.getLast? with
    | some part =>
      rw [hparts] at hup hname
      exact hname hup
    | none =>
      rw [hparts, Option.none_or] at hup
      exact (hbase _ (List.mem_of_getLast? hup)).2 rfl

/-- How a file gets its name, if that does not end in a double dot. -/
theorem identity_plain_or_absolute (hroot : p.root = ⟨.absolute, base⟩) (hbase : Path.Plain base)
    (hlast : (Path.ofString name).name ≠ "..") :
    (∃ inner, Path.Plain inner ∧ p.identity name = Path.toString ⟨.relative, inner⟩)
    ∨ p.identity name = (p.locate name).toString := by
  obtain ⟨inner, hname, hplain | ⟨-, -, hup⟩⟩ | hname := identity_cases hroot hbase name
  · exact .inl ⟨inner, hplain, hname⟩
  · exact absurd hup (getLast?_locate_ne hroot hbase hlast)
  · exact .inr hname

theorem isKnownName_identity (hroot : p.root = ⟨.absolute, base⟩) (hbase : Path.Plain base)
    (hlast : (Path.ofString name).name ≠ "..") : IsKnownName p (p.identity name) := by
  obtain ⟨inner, hplain, hname⟩ | hname := identity_plain_or_absolute hroot hbase hlast
  · refine .inl ⟨inner, hplain, hname, ?_⟩
    rw [hname, locate_relative hroot hplain.isName, hroot]
    rfl
  · refine .inr ⟨p.locate name, isAbsolute_locate hroot name, hname, ?_⟩
    rw [hname, locate_toString_locate hroot hbase]

theorem identity_identity_of_name (hroot : p.root = ⟨.absolute, base⟩) (hbase : Path.Plain base)
    (hlast : (Path.ofString name).name ≠ "..") :
    p.identity (p.identity name) = p.identity name := by
  obtain ⟨inner, hplain, hname⟩ | hname := identity_plain_or_absolute hroot hbase hlast
  · rw [hname]
    exact identity_relative hroot hbase hplain
  · refine identity_congr ?_
    rw [hname]
    exact locate_toString_locate hroot hbase name

/-! ## No trouble -/

theorem hasNul_locate (hroot : p.root = ⟨.absolute, base⟩) (hnul : p.root.hasNul = false)
    (hname : Char.ofNat 0 ∉ name.toList) : (p.locate name).hasNul = false := by
  rw [Bool.eq_false_iff]
  intro h
  obtain ⟨part, hpart, hmem⟩ := hasNul_root hroot hname h
  rw [hroot] at hnul
  exact Path.hasNul_eq_false.mp hnul part hpart hmem

theorem isClean_parent (hroot : p.root = ⟨.absolute, base⟩) (hbase : Path.Plain base)
    (hnul : (p.locate name).hasNul = false) :
    ∀ part ∈ (p.locate name).parent.parts, Node.IsClean part := by
  intro part hpart
  have hmem : part ∈ (p.locate name).parts := List.dropLast_subset _ hpart
  exact ⟨(Path.isName_iff.mp (isName_of_mem_locate hroot hbase hmem)).2.2,
    Path.hasNul_eq_false.mp hnul part hmem⟩

/-- A name below the root brings no NUL character with it if the place that it
stands for has none. -/
theorem hasNul_locate_relative (hroot : p.root = ⟨.absolute, base⟩) {inner : Path}
    (hrelative : inner.anchor = .relative) (hnames : ∀ part ∈ inner.parts, Path.isName part = true)
    (hfree : ∀ part ∈ base ++ inner.parts, Char.ofNat 0 ∉ part.toList) :
    (p.locate inner.toString).hasNul = false := by
  obtain ⟨_, rest⟩ := inner
  cases hrelative
  rw [locate_relative hroot hnames]
  exact Path.hasNul_eq_false.mpr hfree

/-- A file in a folder that was resolved is at a place without NUL
characters. -/
theorem nul_not_mem_throughFolder (h : Resolvable p) (hroot : p.root = ⟨.absolute, base⟩)
    (hbase : Path.Plain base) (hnul : (p.locate name).hasNul = false) :
    ∀ part ∈ (p.throughFolder (p.locate name)).parts, Char.ofNat 0 ∉ part.toList := by
  intro part hpart
  have hparent : (p.locate name).parent.isAbsolute = true := isAbsolute_locate hroot name
  rw [parts_throughFolder, Workspace.settled_of_isAbsolute hparent] at hpart
  obtain hpart | hpart := List.mem_append.mp hpart
  · have hloops : p.work.files.LoopFree := h.loops
    have hclear := hloops.clear_settle h.links (isClean_parent hroot hbase hnul)
    exact (hclear.entry part hpart).1.2
  · have hmem : part ∈ (p.locate name).parts := List.mem_of_getLast? (Option.mem_toList.mp hpart)
    exact Path.hasNul_eq_false.mp hnul part hmem

/-- The name of a file brings no NUL character with it. -/
theorem hasNul_locate_identity (h : Resolvable p) (hroot : p.root = ⟨.absolute, base⟩)
    (hbase : Path.Plain base) (hnul : (p.locate name).hasNul = false) :
    (p.locate (p.identity name)).hasNul = false := by
  have hparts : ∀ part ∈ (p.locate name).parts, Path.isName part = true :=
    fun _ hpart => isName_of_mem_locate hroot hbase hpart
  unfold identity
  dsimp only
  split
  · rename_i inner hinner
    obtain ⟨-, heq, hrelative⟩ := Path.relativeTo?_eq_some hinner
    rw [hroot] at heq
    have hplain : Path.Plain (p.locate name).normal.parts := Path.plain_lexical hparts
    refine hasNul_locate_relative hroot hrelative
      (fun part hpart => hplain.isName part (heq ▸ List.mem_append_right base hpart)) ?_
    intro part hpart
    obtain hnil | ⟨hmem, -⟩ := Path.mem_lexical (heq ▸ hpart)
    · exact absurd hnil List.not_mem_nil
    · exact Path.hasNul_eq_false.mp hnul part hmem
  split
  · rename_i inner hinner
    obtain ⟨-, heq, hrelative⟩ := Path.relativeTo?_eq_some hinner
    rw [hroot] at heq
    have hnames := (plain_or_up_of_throughFolder hbase hparts heq).elim Path.Plain.isName And.left
    exact hasNul_locate_relative hroot hrelative hnames
      (heq ▸ nul_not_mem_throughFolder h hroot hbase hnul)
  · rw [locate_toString_locate hroot hbase]
    exact hnul

/-- The name of a file is found wherever its folder can be resolved. -/
theorem identityTrouble?_eq_none (h : Resolvable p) (hroot : p.root = ⟨.absolute, base⟩)
    (hbase : Path.Plain base) (hnul : (p.locate name).hasNul = false) :
    p.identityTrouble? name = none := by
  have hparent : (p.locate name).parent.isAbsolute = true := isAbsolute_locate hroot name
  unfold identityTrouble?
  rw [Workspace.resolve_settled h.links h.loops hparent (isClean_parent hroot hbase hnul)]

/-- **The name of a file is its own name.** For every file tree, every root in
it and every name that does not end in a double dot: the name by which the file
is known is the one by which it is known under that name, and it is a path from
the root without double dots or an absolute path. Both are found without
trouble where no links lead in a circle and the name holds no NUL character. -/
theorem identity_idempotent {w : Workspace} {path : Path} (hp : atPath w path = .ok p)
    (hlast : (Path.ofString name).name ≠ "..") :
    p.identity (p.identity name) = p.identity name
    ∧ IsKnownName p (p.identity name)
    ∧ (Resolvable p → Char.ofNat 0 ∉ name.toList →
      p.identityTrouble? name = none ∧ p.identityTrouble? (p.identity name) = none) := by
  obtain ⟨base, hroot, hbase⟩ := root_of_atPath hp
  refine ⟨identity_identity_of_name hroot hbase hlast, isKnownName_identity hroot hbase hlast,
    fun hresolvable hname => ?_⟩
  have hnul := hasNul_locate hroot hresolvable.root hname
  exact ⟨identityTrouble?_eq_none hresolvable hroot hbase hnul,
    identityTrouble?_eq_none hresolvable hroot hbase
      (hasNul_locate_identity hresolvable hroot hbase hnul)⟩

/-- The one link of the example leads to a folder that is there. -/
theorem resolvable_aliasProject : Resolvable aliasProject where
  links := wellLinked_aliasTree
  loops := by
    intro here name target hat
    have hplace : here ++ [name] = ["l"] := List.mem_singleton.mp (Node.mem_linkPlaces aliasTree hat)
    obtain rfl : here = [] := by simpa using congrArg List.dropLast hplace
    rw [hplace] at hat
    cases hat
    have hnames : Path.names "p" = ["p"] := by decide +kernel
    have honward : aliasTree.onward [] "p" = .leads ["p"] := rfl
    rw [hnames]
    exact ⟨["p"], 0, .go honward (.done ["p"])⟩
  root := rfl

/-- A file that is not there is named through a link from outside, and another
one with double dots that lead out of the project. -/
theorem identity_idempotent_alias :
    aliasProject.identity "//l/sub/..//./new.py" = "new.py"
    ∧ aliasProject.identity "../q.py" = "/p/../q.py"
    ∧ ∀ name ∈ ["//l/sub/..//./new.py", "../q.py"],
      aliasProject.identity (aliasProject.identity name) = aliasProject.identity name
      ∧ IsKnownName aliasProject (aliasProject.identity name)
      ∧ aliasProject.identityTrouble? name = none
      ∧ aliasProject.identityTrouble? (aliasProject.identity name) = none := by
  have hp : atPath ⟨aliasTree, []⟩ (.ofString "/p") = .ok aliasProject := rfl
  refine ⟨by decide +kernel, by decide +kernel, ?_⟩
  intro name hname
  have hlast : (Path.ofString name).name ≠ ".." ∧ Char.ofNat 0 ∉ name.toList := by
    revert name
    decide +kernel
  obtain ⟨hsame, hknown, hfound⟩ := identity_idempotent hp hlast.1
  exact ⟨hsame, hknown, hfound resolvable_aliasProject hlast.2⟩

end Project

end ImportPolicy
