import ImportPolicy.Host.Project
import ImportPolicy.Proofs.Answer
import ImportPolicy.Proofs.Text.Lines

/-!
# The name by which a file is known names the file

A file is asked for under the name by which it is known, and is then given a
name once more. That the two names are the same is not plain from
`Project.identity`, which looks at the path as it is written, then at the
folder as it is resolved, and else leaves the path alone.

It rests on three facts. A path whose names are names is read back from the
way it is written (`Path.ofString_toString`). The root of a project has no
double dots on it, and neither has what is found below it, so that such a
name is found again without looking at the tree. The one exception is a path
that *ends* in a double dot, behind a folder that had to be resolved: it
leads to a folder, and a folder cannot be read.
-/

namespace ImportPolicy

namespace Path

/-! ## Written paths -/

theorem isName_iff {name : String} :
    isName name = true ↔ name ≠ "" ∧ name ≠ "." ∧ '/' ∉ name.toList := by
  simp [isName]

theorem isName_of_mem_ofString {text name : String} (h : name ∈ (ofString text).parts) :
    isName name = true :=
  (List.mem_filter.mp h).2

theorem names_slash (text : String) : names ("/" ++ text) = "" :: names text := by
  unfold names
  rw [String.toList_append, show "/".toList = ['/'] from rfl, List.singleton_append,
    Text.pieces_cons_self]
  rfl

/-- Names with slashes between them are read back one by one. -/
theorem names_intercalate {parts : List String} (hparts : ∀ part ∈ parts, isName part = true)
    (hne : parts ≠ []) : names (String.intercalate "/" parts) = parts := by
  have hslash : ∀ chars ∈ parts.map String.toList, '/' ∉ chars := by
    intro chars hchars
    obtain ⟨part, hpart, rfl⟩ := List.mem_map.mp hchars
    exact (isName_iff.mp (hparts part hpart)).2.2
  unfold names
  rw [String.toList_intercalate, Text.pieces_eq_splitOn, show "/".toList = ['/'] from rfl,
    List.splitOn_intercalate _ hslash (by simpa using hne), List.map_map]
  exact (List.map_congr_left (fun part _ => String.ofList_toList)).trans (List.map_id _)

theorem filter_names_intercalate {parts : List String}
    (hparts : ∀ part ∈ parts, isName part = true) :
    (names (String.intercalate "/" parts)).filter isName = parts := by
  by_cases hne : parts = []
  · rw [hne]
    rfl
  · rw [names_intercalate hparts hne]
    exact List.filter_eq_self.mpr hparts

theorem head?_intercalate_ne {parts : List String}
    (hparts : ∀ part ∈ parts, isName part = true) :
    (String.intercalate "/" parts).toList.head? ≠ some '/' := by
  rw [String.toList_intercalate]
  cases parts with
  | nil => simp
  | cons first more =>
    obtain ⟨hempty, -, hslash⟩ := isName_iff.mp (hparts first List.mem_cons_self)
    cases hfirst : first.toList with
    | nil => exact absurd (String.toList_eq_nil_iff.mp hfirst) hempty
    | cons c rest =>
      have hc : c ≠ '/' := fun h => hslash (hfirst ▸ h ▸ List.mem_cons_self)
      rw [List.map_cons, hfirst]
      cases more with
      | nil => simpa using hc
      | cons second more => simpa using hc

/-- The slashes that a path starts with. -/
def Anchor.slashes : Anchor → String
  | .relative => ""
  | .absolute => "/"
  | .doubled => "//"

/-- The slashes at the start tell where a path starts, as long as a name
follows them. -/
theorem anchor_ofString (anchor : Anchor) {row : String} (h : row.toList.head? ≠ some '/') :
    (ofString (anchor.slashes ++ row)).anchor = anchor := by
  unfold ofString
  rw [String.toList_append]
  cases hrow : row.toList with
  | nil => cases anchor with
    | relative => rfl
    | absolute => rfl
    | doubled => rfl
  | cons c rest =>
    have hc : c ≠ '/' := by simpa [hrow] using h
    cases anchor with
    | relative => simp [Anchor.slashes, hc]
    | absolute => simp [Anchor.slashes, hc]
    | doubled => simp [Anchor.slashes, hc]

/-- The slashes at the start add no names. -/
theorem parts_ofString (anchor : Anchor) (row : String) :
    (ofString (anchor.slashes ++ row)).parts = (names row).filter isName := by
  have hslash : ∀ text, (names ("/" ++ text)).filter isName = (names text).filter isName := by
    intro text
    rw [names_slash, List.filter_cons_of_neg (by decide)]
  cases anchor with
  | relative =>
    show (names ("" ++ row)).filter isName = _
    rw [String.empty_append]
  | absolute => exact hslash row
  | doubled =>
    show (names ("//" ++ row)).filter isName = _
    rw [show "//" ++ row = "/" ++ ("/" ++ row) by rw [← String.append_assoc]; rfl, hslash, hslash]

/-- **A path is read back from the way it is written.** -/
theorem ofString_toString {p : Path} (hparts : ∀ part ∈ p.parts, isName part = true) :
    ofString p.toString = p := by
  obtain ⟨anchor, parts⟩ := p
  -- the row behind the slashes is read back
  have hrow : ofString (anchor.slashes ++ String.intercalate "/" parts) = ⟨anchor, parts⟩ := by
    rw [Path.mk.injEq]
    exact ⟨anchor_ofString anchor (head?_intercalate_ne hparts),
      (parts_ofString anchor _).trans (filter_names_intercalate hparts)⟩
  cases anchor with
  | relative =>
    by_cases hempty : parts = []
    · rw [hempty]
      rfl
    · rw [toString, if_neg (by simpa using hempty)]
      simpa [Anchor.slashes] using hrow
  | absolute => exact hrow
  | doubled => exact hrow

/-! ## Rows without double dots -/

/-- A row of names without double dots. -/
def Plain (parts : List String) : Prop := ∀ part ∈ parts, isName part = true ∧ part ≠ ".."

theorem Plain.isName {parts : List String} (h : Plain parts) :
    ∀ part ∈ parts, Path.isName part = true :=
  fun part hpart => (h part hpart).1

theorem Plain.append {front back : List String} (hfront : Plain front) (hback : Plain back) :
    Plain (front ++ back) := by
  intro part hpart
  exact (List.mem_append.mp hpart).elim (hfront part) (hback part)

theorem mem_lexical {done row : List String} {part : String} (h : part ∈ lexical done row) :
    part ∈ done ∨ part ∈ row ∧ part ≠ ".." := by
  fun_induction lexical done row with
  | case1 done => exact .inl h
  | case2 done more ih =>
    obtain hdone | ⟨hmore, hne⟩ := ih h
    · exact .inl (List.dropLast_subset _ hdone)
    · exact .inr ⟨List.mem_cons_of_mem _ hmore, hne⟩
  | case3 done first more hfirst ih =>
    obtain hdone | ⟨hmore, hne⟩ := ih h
    · obtain hdone | hpart := List.mem_append.mp hdone
      · exact .inl hdone
      · rw [List.mem_singleton.mp hpart]
        exact .inr ⟨List.mem_cons_self, hfirst⟩
    · exact .inr ⟨List.mem_cons_of_mem _ hmore, hne⟩

theorem plain_lexical {row : List String} (h : ∀ part ∈ row, Path.isName part = true) :
    Plain (lexical [] row) := by
  intro part hpart
  obtain hdone | ⟨hrow, hne⟩ := mem_lexical hpart
  · exact absurd hdone List.not_mem_nil
  · exact ⟨h part hrow, hne⟩

theorem lexical_of_plain {done row : List String} (h : Plain row) :
    lexical done row = done ++ row := by
  induction row generalizing done with
  | nil => exact (List.append_nil done).symm
  | cons part more ih =>
    rw [lexical, if_neg (h part List.mem_cons_self).2,
      ih (fun name hname => h name (List.mem_cons_of_mem _ hname)), List.append_assoc]
    rfl

/-- What a path is from a base of the same kind is what stands behind the
base on it. -/
theorem relativeTo?_eq_some {p base inner : Path} (h : p.relativeTo? base = some inner) :
    p.anchor = base.anchor ∧ p.parts = base.parts ++ inner.parts ∧ inner.anchor = .relative := by
  unfold relativeTo? at h
  split at h
  · rename_i hbase
    obtain ⟨tail, htail⟩ := List.isPrefixOf_iff_prefix.mp hbase.2
    cases h
    exact ⟨hbase.1, by rw [← htail, List.drop_left], rfl⟩
  · cases h

theorem relativeTo?_append (anchor : Anchor) (front back : List String) :
    relativeTo? ⟨anchor, front ++ back⟩ ⟨anchor, front⟩ = some ⟨.relative, back⟩ := by
  unfold relativeTo?
  rw [if_pos ⟨rfl, List.isPrefixOf_iff_prefix.mpr (List.prefix_append front back)⟩]
  simp

end Path

/-! ## A double dot leads to a folder -/

namespace Node

variable {root : Node} {followLast : Bool} {place : Place}

theorem at?_append (node : Node) (front back : Place) :
    node.at? (front ++ back) = (node.at? front).bind (·.at? back) := by
  induction front generalizing node with
  | nil => rfl
  | cons name more ih =>
    rw [List.cons_append, at?, at?]
    cases node.child? name with
    | none => rfl
    | some inner => exact ih inner

/-- What stands somewhere stands in a folder. -/
theorem isFolderAt_dropLast {here : Place} (h : root.isFolderAt here = true) :
    root.isFolderAt here.dropLast = true := by
  obtain rfl | ⟨front, name, rfl⟩ := here.eq_nil_or_concat
  · exact h
  · rw [List.concat_eq_append] at h ⊢
    rw [List.dropLast_concat]
    unfold isFolderAt at h ⊢
    rw [at?_append] at h
    cases hfront : root.at? front with
    | none => simp [hfront] at h
    | some node => cases node with
      | folder entries => rfl
      | file bytes => simp [hfront, at?, child?] at h
      | link target => simp [hfront, at?, child?] at h

theorem walkWith_up {onLink : Place → String → List String → Except FileError Place}
    (hlink : ∀ here target rest, rest.getLast? = some ".." →
      onLink here target rest = .ok place → root.isFolderAt place = true)
    {here : Place} {names : List String} (hlast : names.getLast? = some "..")
    (h : walkWith root followLast onLink here names = .ok place) :
    root.isFolderAt place = true := by
  induction names generalizing here with
  | nil => simp at hlast
  | cons name rest ih =>
    rw [walkWith] at h
    split at h
    · cases h
    rename_i hhere
    have hfolder : root.isFolderAt here = true := by simpa using hhere
    cases rest with
    | nil =>
      obtain rfl : name = ".." := by simpa using hlast
      rw [if_neg (by decide), if_pos rfl, walkWith, Except.ok.injEq] at h
      exact h ▸ isFolderAt_dropLast hfolder
    | cons second more =>
      rw [List.getLast?_cons_cons] at hlast
      split at h
      · exact ih hlast h
      split at h
      · exact ih hlast h
      -- more names follow, so a link is followed
      simp only [List.isEmpty_cons, Bool.not_false, Bool.or_true, if_true] at h
      split at h
      · cases h
      · exact hlink _ _ _ hlast h
      · exact ih hlast h

theorem walkWithin_up {bound : Nat} {here : Place} {names : List String}
    (hlast : names.getLast? = some "..")
    (h : walkWithin root followLast bound here names = .ok place) :
    root.isFolderAt place = true := by
  induction bound generalizing here names with
  | zero => exact walkWith_up (fun _ _ _ _ h => by cases h) hlast h
  | succ n ih =>
    refine walkWith_up (fun here target rest hrest h => ?_) hlast h
    by_cases htarget : target = ""
    · simp [htarget] at h
    · rw [if_neg htarget] at h
      refine ih ?_ h
      rw [List.getLast?_append, hrest]
      rfl

end Node

/-- A file is not read through a path that ends in a double dot. -/
theorem Workspace.readBytes_up {w : Workspace} {path : Path}
    (hlast : path.parts.getLast? = some "..") {bytes : List UInt8} :
    w.readBytes path ≠ .ok bytes := by
  intro h
  rw [readBytes, bind_eq_ok] at h
  obtain ⟨node, hnode, h⟩ := h
  rw [find, bind_eq_ok] at hnode
  obtain ⟨place, hplace, hnode⟩ := hnode
  have hfolder := Node.walkWithin_up hlast hplace
  unfold Node.isFolderAt at hfolder
  split at hfolder
  · rename_i entries hat
    rw [hat] at hnode
    cases hnode
    cases h
  · cases hfolder

namespace Project

variable {p : Project}

/-! ## The name of a file -/

theorem plain_settled (w : Workspace) (path : Path) : Path.Plain (w.settled path) :=
  Path.plain_lexical (fun _ hpart => (List.mem_filter.mp hpart).2)

/-- The root of a project is absolute, without dots on it. -/
theorem root_of_atPath {w : Workspace} {path : Path} (h : atPath w path = .ok p) :
    ∃ parts, p.root = ⟨.absolute, parts⟩ ∧ Path.Plain parts := by
  rw [atPath, bind_eq_ok] at h
  obtain ⟨root, hroot, h⟩ := h
  cases h
  refine ⟨w.settled path, ?_, plain_settled w path⟩
  unfold Workspace.resolve at hroot
  split at hroot
  · cases hroot
  · dsimp only at hroot
    split at hroot
    · cases hroot
    · cases hroot
      rfl

theorem isName_of_mem_locate {base : List String} (hroot : p.root = ⟨.absolute, base⟩)
    (hbase : Path.Plain base) {name part : String} (hpart : part ∈ (p.locate name).parts) :
    Path.isName part = true := by
  unfold locate Path.join at hpart
  split at hpart
  · exact Path.isName_of_mem_ofString hpart
  · obtain hpart | hpart := List.mem_append.mp hpart
    · rw [hroot] at hpart
      exact hbase.isName part hpart
    · exact Path.isName_of_mem_ofString hpart

/-- A name that is a path from the root is looked for below the root. -/
theorem locate_relative {base inner : List String} (hroot : p.root = ⟨.absolute, base⟩)
    (hinner : ∀ part ∈ inner, Path.isName part = true) :
    p.locate (Path.toString ⟨.relative, inner⟩) = ⟨.absolute, base ++ inner⟩ := by
  unfold locate
  rw [Path.ofString_toString hinner, hroot]
  rfl

/-- A path from the root without double dots is the name of its file. -/
theorem identity_relative {base inner : List String} (hroot : p.root = ⟨.absolute, base⟩)
    (hbase : Path.Plain base) (hinner : Path.Plain inner) :
    p.identity (Path.toString ⟨.relative, inner⟩) = Path.toString ⟨.relative, inner⟩ := by
  have hnormal : Path.normal ⟨.absolute, base ++ inner⟩ = ⟨.absolute, base ++ inner⟩ := by
    unfold Path.normal
    rw [Path.lexical_of_plain (hbase.append hinner), List.nil_append]
  unfold identity
  dsimp only
  rw [locate_relative hroot hinner.isName, hnormal, hroot, Path.relativeTo?_append]

theorem isAbsolute_locate {base : List String} (hroot : p.root = ⟨.absolute, base⟩)
    (name : String) : (p.locate name).isAbsolute = true := by
  unfold locate Path.join
  split
  · assumption
  · rw [hroot]
    rfl

/-- The path of a file is looked for as it is written. -/
theorem locate_toString_locate {base : List String} (hroot : p.root = ⟨.absolute, base⟩)
    (hbase : Path.Plain base) (name : String) :
    p.locate (p.locate name).toString = p.locate name := by
  rw [locate, Path.ofString_toString (fun _ hpart => isName_of_mem_locate hroot hbase hpart),
    Path.join, if_pos (isAbsolute_locate hroot name)]

theorem readBytes_of_text? {name : String} {text : List Char} (h : p.text? name = some text) :
    ∃ bytes, p.work.readBytes (p.locate name) = .ok bytes := by
  unfold text? at h
  split at h
  · cases h
  · split at h
    · cases h
    · rename_i bytes hbytes
      exact ⟨bytes, hbytes⟩

theorem parts_throughFolder (path : Path) :
    (p.throughFolder path).parts = p.work.settled path.parent ++ path.parts.getLast?.toList :=
  rfl

/-- What lies below the root once its folder is resolved has double dots at
most at its end, and that end is the one of the path. -/
theorem plain_or_up_of_throughFolder {base inner : List String} (hbase : Path.Plain base)
    {path : Path} (hpath : ∀ part ∈ path.parts, Path.isName part = true)
    (h : (p.throughFolder path).parts = base ++ inner) :
    Path.Plain inner
    ∨ (∀ part ∈ inner, Path.isName part = true) ∧ inner.getLast? = some ".."
      ∧ path.parts.getLast? = some ".." := by
  rw [parts_throughFolder] at h
  have hsettled := plain_settled p.work path.parent
  cases hlast : path.parts.getLast? with
  | none =>
    rw [hlast, Option.toList_none, List.append_nil] at h
    exact .inl fun part hpart => hsettled part (h ▸ List.mem_append_right base hpart)
  | some last =>
    rw [hlast, Option.toList_some] at h
    have hname : Path.isName last = true := hpath last (List.mem_of_getLast? hlast)
    by_cases hup : last = ".."
    · refine .inr ⟨fun part hpart => ?_, ?_, congrArg some hup⟩
      · obtain hpart | hpart := List.mem_append.mp (h ▸ List.mem_append_right base hpart)
        · exact hsettled.isName part hpart
        · exact List.mem_singleton.mp hpart ▸ hname
      · have hend : (base ++ inner).getLast? = some ".." := by rw [← h, hup]; simp
        cases hinner : inner.getLast? with
        | some name => simpa [List.getLast?_append, hinner] using hend
        | none =>
          rw [List.getLast?_append, hinner, Option.none_or] at hend
          exact absurd rfl (hbase _ (List.mem_of_getLast? hend)).2
    · have hplain : Path.Plain [last] := by
        intro part hpart
        rw [List.mem_singleton.mp hpart]
        exact ⟨hname, hup⟩
      exact .inl fun part hpart =>
        hsettled.append hplain part (h ▸ List.mem_append_right base hpart)

/-- How a file gets its name: from below the root, or from the path itself. -/
theorem identity_cases {base : List String} (hroot : p.root = ⟨.absolute, base⟩)
    (hbase : Path.Plain base) (name : String) :
    (∃ inner, p.identity name = Path.toString ⟨.relative, inner⟩
      ∧ (Path.Plain inner
        ∨ (∀ part ∈ inner, Path.isName part = true) ∧ inner.getLast? = some ".."
          ∧ (p.locate name).parts.getLast? = some ".."))
    ∨ p.identity name = (p.locate name).toString := by
  have hparts : ∀ part ∈ (p.locate name).parts, Path.isName part = true :=
    fun _ hpart => isName_of_mem_locate hroot hbase hpart
  unfold identity
  dsimp only
  split
  · rename_i inner hinner
    obtain ⟨-, heq, hrelative⟩ := Path.relativeTo?_eq_some hinner
    rw [hroot] at heq
    have hplain : Path.Plain (p.locate name).normal.parts := Path.plain_lexical hparts
    refine .inl ⟨inner.parts, by rw [← hrelative], .inl fun part hpart => ?_⟩
    exact hplain part (heq ▸ List.mem_append_right base hpart)
  split
  · rename_i inner hinner
    obtain ⟨-, heq, hrelative⟩ := Path.relativeTo?_eq_some hinner
    rw [hroot] at heq
    exact .inl ⟨inner.parts, by rw [← hrelative], plain_or_up_of_throughFolder hbase hparts heq⟩
  · exact .inr rfl

/-- The name of a file depends on the path alone that it is looked for
under. -/
theorem identity_congr {a b : String} (h : p.locate a = p.locate b) :
    p.identity a = p.identity b := by
  unfold identity
  rw [h]

/-- **The name of a file that can be read is its own name.** -/
theorem identity_identity {w : Workspace} {path : Path} (hp : atPath w path = .ok p)
    {name : String} {text : List Char} (htext : p.text? (p.identity name) = some text) :
    p.identity (p.identity name) = p.identity name := by
  obtain ⟨base, hroot, hbase⟩ := root_of_atPath hp
  obtain ⟨inner, hname, hplain | ⟨hinner, hup, -⟩⟩ | hname := identity_cases hroot hbase name
  · rw [hname]
    exact identity_relative hroot hbase hplain
  · -- a name that ends in a double dot leads to a folder
    have hlast : (p.locate (p.identity name)).parts.getLast? = some ".." := by
      rw [hname, locate_relative hroot hinner, List.getLast?_append, hup]
      rfl
    obtain ⟨bytes, hbytes⟩ := readBytes_of_text? htext
    exact absurd hbytes (Workspace.readBytes_up hlast)
  · -- a path outside the root is absolute, and is found as it is written
    refine identity_congr ?_
    rw [hname]
    exact locate_toString_locate hroot hbase name

end Project

end ImportPolicy
