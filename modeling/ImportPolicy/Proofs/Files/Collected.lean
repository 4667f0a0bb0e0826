import ImportPolicy.Report.Check
import ImportPolicy.Proofs.Files.Settling

/-!
# The source files of a tree without links

A check collects its targets by going through the tree below the root, and
then asks for each of them again, by its whole path, through a name and a walk
that know nothing of the collection. In a tree without links the two meet:
every place that is collected is collected once (`Unlinked.nodup_sourcePlaces`),
is known by its names from the root (`identity_target`), and is walked to
without detours, so that the text that is read for it is what its own bytes
spell (`Unlinked.text?_nameOf`).

All of this is about trees as file systems have them, where the entries of a
folder have different names and no name is empty, a dot, two dots or holds a
slash (`isWellNamed`).
-/

namespace ImportPolicy

namespace Node

variable {root node : Node} {here place : Place} {name : String}

/-! ## Names that a file system gives -/

mutual

/-- Whether the names in a tree are such as a file system gives: different
ones in each folder, and each of them one that can stand on a path. -/
def isWellNamed : Node → Bool
  | folder entries => decide (entries.map (·.1)).Nodup && areWellNamed entries
  | _ => true

/-- The same for what is in the entries of a folder. -/
def areWellNamed : List (String × Node) → Bool
  | [] => true
  | (name, node) :: more =>
    Path.isName name && name ≠ ".." && node.isWellNamed && areWellNamed more

end

theorem isWellNamed_folder {entries : List (String × Node)} :
    (folder entries).isWellNamed = true
      ↔ (entries.map (·.1)).Nodup ∧ areWellNamed entries = true := by
  rw [isWellNamed, Bool.and_eq_true, decide_eq_true_eq]

theorem areWellNamed_cons {more : List (String × Node)} :
    areWellNamed ((name, node) :: more) = true
      ↔ (Path.isName name = true ∧ name ≠ "..") ∧ node.isWellNamed = true
        ∧ areWellNamed more = true := by
  rw [areWellNamed]
  simp [and_assoc]

theorem at?_entry_self (name : String) (node : Node) (more : List (String × Node))
    (inner : Place) : (folder ((name, node) :: more)).at? (name :: inner) = node.at? inner := by
  simp [at?, child?]

theorem at?_entry_of_ne {key : String} (h : name ≠ key) (node : Node)
    (more : List (String × Node)) (inner : Place) :
    (folder ((key, node) :: more)).at? (name :: inner) = (folder more).at? (name :: inner) := by
  simp [at?, child?, List.lookup_cons, beq_eq_false_iff_ne.mpr h]

theorem isWellNamed_of_lookup {entries : List (String × Node)}
    (h : areWellNamed entries = true) (hname : entries.lookup name = some node) :
    node.isWellNamed = true := by
  induction entries with
  | nil => cases hname
  | cons entry more ih =>
    obtain ⟨key, inner⟩ := entry
    obtain ⟨-, hinner, hmore⟩ := areWellNamed_cons.mp h
    rw [List.lookup_cons] at hname
    split at hname
    · cases hname
      exact hinner
    · exact ih hmore hname

/-- What stands in a well-named tree is well-named. -/
theorem isWellNamed_at? (h : root.isWellNamed = true) (hat : root.at? place = some node) :
    node.isWellNamed = true := by
  induction place generalizing root with
  | nil =>
    cases hat
    exact h
  | cons name more ih =>
    cases root with
    | folder entries =>
      rw [at?, child?] at hat
      split at hat
      · rename_i inner hinner
        exact ih (isWellNamed_of_lookup (isWellNamed_folder.mp h).2 hinner) hat
      · cases hat
    | file bytes => cases hat
    | link target => cases hat

/-! ## Places below a folder -/

/-- A row of names that leads from a folder to something below it. -/
structure Leads (node : Node) (inner : Place) : Prop where
  ne_nil : inner ≠ []
  plain : Path.Plain inner
  found : (node.at? inner).isSome = true

mutual

/-- What is listed below a folder is found under its place. -/
theorem leads_of_mem_placesBelow : ∀ (node : Node) {here place : Place},
    node.isWellNamed = true → place ∈ placesBelow here node →
    ∃ inner, place = here ++ inner ∧ Leads node inner
  | file _, _, _, _, h => absurd h List.not_mem_nil
  | link _, _, _, _, h => absurd h List.not_mem_nil
  | folder entries, _, _, hnamed, h => by
    obtain ⟨hnodup, hnamed⟩ := isWellNamed_folder.mp hnamed
    obtain ⟨name, -, inner, hplace, hleads⟩ :=
      leads_of_mem_entryPlaces entries hnodup hnamed h
    exact ⟨name :: inner, hplace, hleads⟩

theorem leads_of_mem_entryPlaces : ∀ (entries : List (String × Node)) {here place : Place},
    (entries.map (·.1)).Nodup → areWellNamed entries = true → place ∈ entryPlaces here entries →
    ∃ name ∈ entries.map (·.1), ∃ inner, place = here ++ name :: inner
      ∧ Leads (folder entries) (name :: inner)
  | [], _, _, _, _, h => absurd h List.not_mem_nil
  | (key, node) :: more, here, place, hnodup, hnamed, h => by
    obtain ⟨hkey, hnode, hmore⟩ := areWellNamed_cons.mp hnamed
    obtain ⟨hfresh, hnodup⟩ := List.nodup_cons.mp hnodup
    have hplain : Path.Plain [key] := fun part hpart => List.mem_singleton.mp hpart ▸ hkey
    rw [entryPlaces, List.mem_append, List.mem_cons] at h
    obtain (rfl | h) | h := h
    · exact ⟨key, List.mem_cons_self, [], rfl, by simp, hplain, by rw [at?_entry_self]; rfl⟩
    · obtain ⟨inner, rfl, hleads⟩ := leads_of_mem_placesBelow node hnode h
      refine ⟨key, List.mem_cons_self, inner, by simp, by simp, hplain.append hleads.plain, ?_⟩
      rw [at?_entry_self]
      exact hleads.found
    · -- an entry of another name is not hidden by this one
      obtain ⟨name, hname, inner, rfl, hleads⟩ := leads_of_mem_entryPlaces more hnodup hmore h
      have hne : name ≠ key := fun heq => hfresh (heq ▸ hname)
      refine ⟨name, List.mem_cons_of_mem _ hname, inner, rfl, by simp, hleads.plain, ?_⟩
      rw [at?_entry_of_ne hne]
      exact hleads.found

end

mutual

/-- **Nothing is listed twice.** -/
theorem nodup_placesBelow : ∀ (node : Node) (here : Place),
    node.isWellNamed = true → (placesBelow here node).Nodup
  | file _, _, _ => List.nodup_nil
  | link _, _, _ => List.nodup_nil
  | folder entries, here, h =>
    nodup_entryPlaces entries here (isWellNamed_folder.mp h).1 (isWellNamed_folder.mp h).2

theorem nodup_entryPlaces : ∀ (entries : List (String × Node)) (here : Place),
    (entries.map (·.1)).Nodup → areWellNamed entries = true → (entryPlaces here entries).Nodup
  | [], _, _, _ => List.nodup_nil
  | (key, node) :: more, here, hnodup, hnamed => by
    obtain ⟨-, hnode, hmore⟩ := areWellNamed_cons.mp hnamed
    obtain ⟨hfresh, hnodup⟩ := List.nodup_cons.mp hnodup
    rw [entryPlaces, List.nodup_append, List.nodup_cons]
    refine ⟨⟨fun hself => ?_, nodup_placesBelow node _ hnode⟩,
      nodup_entryPlaces more here hnodup hmore, fun one hone two htwo heq => ?_⟩
    · -- what is below the entry has a longer place
      obtain ⟨inner, hplace, hleads⟩ := leads_of_mem_placesBelow node hnode hself
      exact hleads.ne_nil (List.self_eq_append_right.mp hplace)
    · -- the others have another name where this one has `key`
      obtain ⟨name, hname, rest, rfl, -⟩ := leads_of_mem_entryPlaces more hnodup hmore htwo
      have hstart : ∃ inner, one = here ++ key :: inner := by
        obtain rfl | hone := List.mem_cons.mp hone
        · exact ⟨[], rfl⟩
        · obtain ⟨inner, rfl, -⟩ := leads_of_mem_placesBelow node hnode hone
          exact ⟨inner, by simp⟩
      obtain ⟨inner, rfl⟩ := hstart
      have hkey := (List.cons.inj (List.append_cancel_left heq)).1
      exact hfresh (hkey ▸ hname)

end

/-! ## Walking without links -/

theorem at?_ne_link (h : root.linkCount = 0) (place : Place) (target : String) :
    root.at? place ≠ some (link target) := by
  intro hat
  have hmem := mem_linkPlaces root hat
  rw [List.eq_nil_of_length_eq_zero ((length_linkPlaces root).trans h)] at hmem
  cases hmem

theorem isFolderAt_of_found (h : (root.at? (here ++ name :: place)).isSome = true) :
    root.isFolderAt here = true := by
  unfold isFolderAt
  rw [at?_append] at h
  cases hhere : root.at? here with
  | none => simp [hhere] at h
  | some node => cases node with
    | folder entries => rfl
    | file bytes => simp [hhere, at?, child?] at h
    | link target => simp [hhere, at?, child?] at h

/-- What stands in a tree without links is reached under the names of its
place. -/
theorem walks_found (hlinks : root.linkCount = 0) (hplace : Path.Plain place)
    (h : (root.at? (here ++ place)).isSome = true) :
    Walks root here place (some (here ++ place)) 0 := by
  induction place generalizing here with
  | nil => simpa using Walks.done here
  | cons name rest ih =>
    have hfolder := isFolderAt_of_found h
    rw [List.append_cons] at h ⊢
    have hturn : root.turn here name = .leads (here ++ [name]) := by
      obtain ⟨hname, hup⟩ := hplace name List.mem_cons_self
      obtain ⟨hempty, hdot, -⟩ := Path.isName_iff.mp hname
      unfold turn
      rw [hfolder, if_neg (by simp), if_neg (by simp [hempty, hdot]), if_neg hup]
      cases hat : root.at? (here ++ [name]) with
      | none =>
        rw [at?_append, hat] at h
        cases h
      | some node => cases node with
        | folder entries => rfl
        | file bytes => rfl
        | link target => exact absurd hat (at?_ne_link hlinks _ target)
    exact .go hturn (ih (fun part hpart => hplace part (List.mem_cons_of_mem _ hpart)) h)

/-- The bytes of the file at a place, if there is a file. -/
def bytesAt? (root : Node) (place : Place) : Option (List UInt8) :=
  match root.at? place with
  | some (file bytes) => some bytes
  | _ => none

end Node

/-- In a tree without links a path without dots is read at its own place. -/
theorem Workspace.readBytes_unlinked {w : Workspace} (hlinks : w.files.linkCount = 0)
    {path : Path} (habsolute : path.isAbsolute = true) (hplain : Path.Plain path.parts)
    (h : (w.files.at? path.parts).isSome = true) :
    (w.readBytes path).toOption = w.files.bytesAt? path.parts := by
  have hwalks : Node.Walks w.files [] path.parts (some path.parts) 0 :=
    Node.walks_found hlinks hplain h
  have hwalk : w.files.walk [] path.parts = .ok path.parts :=
    toOption_eq_some.mp (hwalks.toOption_walkWithin (Nat.zero_le _))
  obtain ⟨node, hat⟩ := Option.isSome_iff_exists.mp h
  have hfind : w.find path = .ok node := by
    unfold find origin
    rw [if_pos habsolute, hwalk, ok_bind, hat]
  unfold readBytes Node.bytesAt?
  rw [hfind, hat]
  cases node with
  | file bytes => rfl
  | link target => rfl
  | folder entries => rfl

namespace Project

variable {p : Project} {includeTests : Bool} {place : Place}

/-! ## Collected files -/

/-- A project in a tree without links, as a file system has it. -/
structure Unlinked (p : Project) : Prop where
  /-- The root is one that was resolved. -/
  resolved : ∃ w path, atPath w path = .ok p
  linkCount_eq : p.work.files.linkCount = 0
  wellNamed : p.work.files.isWellNamed = true

/-- What is collected is listed below the root, and is to be checked. -/
theorem mem_sourcePlaces (h : place ∈ p.sourcePlaces includeTests) :
    ∃ node, p.work.files.at? p.root.parts = some node ∧ place ∈ node.placesBelow []
      ∧ isChecked includeTests place = true := by
  unfold sourcePlaces at h
  split at h
  · rename_i node hnode
    obtain ⟨hmem, hchecked⟩ := List.mem_filter.mp h
    exact ⟨node, hnode, List.mem_of_mem_filter (List.mem_mergeSort.mp hmem), hchecked⟩
  · cases h

/-- **What is collected is found below the root.** -/
theorem Unlinked.leads (h : Unlinked p) (hplace : place ∈ p.sourcePlaces includeTests) :
    place ≠ [] ∧ Path.Plain place
      ∧ (p.work.files.at? (p.root.parts ++ place)).isSome = true := by
  obtain ⟨node, hnode, hbelow, -⟩ := mem_sourcePlaces hplace
  obtain ⟨inner, rfl, hleads⟩ :=
    Node.leads_of_mem_placesBelow node (Node.isWellNamed_at? h.wellNamed hnode) hbelow
  refine ⟨hleads.ne_nil, hleads.plain, ?_⟩
  rw [Node.at?_append, hnode]
  exact hleads.found

/-- **Nothing is collected twice.** -/
theorem Unlinked.nodup_sourcePlaces (h : Unlinked p) (includeTests : Bool) :
    (p.sourcePlaces includeTests).Nodup := by
  unfold sourcePlaces
  split
  · rename_i node hnode
    have hbelow := Node.nodup_placesBelow node [] (Node.isWellNamed_at? h.wellNamed hnode)
    exact ((List.mergeSort_perm _ _).nodup_iff.mpr (hbelow.filter _)).filter _
  · exact List.nodup_nil

/-- Without the tests, what is collected are the places outside of them. -/
theorem sourcePlaces_false (p : Project) :
    p.sourcePlaces false = (p.sourcePlaces true).filter (·.head? ≠ some "tests") := by
  unfold sourcePlaces
  cases p.work.files.at? p.root.parts with
  | none => rfl
  | some node =>
    dsimp only
    rw [List.filter_filter]
    refine List.filter_congr fun place _ => ?_
    simp [isChecked, Bool.and_comm]

/-! ## The name and the text of a collected file -/

/-- The whole path of a collected file, as a check asks for it. -/
def target (p : Project) (place : Place) : String := (p.root.join ⟨.relative, place⟩).toString

/-- The name of a collected file. -/
def nameOf (place : Place) : String := Path.toString ⟨.relative, place⟩

theorem targets_eq (p : Project) (includeTests : Bool) :
    p.targets includeTests = (p.sourcePlaces includeTests).map p.target := rfl

/-- **A collected file is known by its names from the root.** -/
theorem identity_target {base : List String} (hroot : p.root = ⟨.absolute, base⟩)
    (hbase : Path.Plain base) (hplace : Path.Plain place) :
    p.identity (p.target place) = nameOf place := by
  have hlocate : p.locate (p.target place) = ⟨.absolute, base ++ place⟩ := by
    unfold locate target
    rw [hroot]
    show Path.join _ (Path.ofString (Path.toString ⟨.absolute, base ++ place⟩)) = _
    rw [Path.ofString_toString (hbase.append hplace).isName]
    rfl
  have hnormal : Path.normal ⟨.absolute, base ++ place⟩ = ⟨.absolute, base ++ place⟩ := by
    unfold Path.normal
    rw [Path.lexical_of_plain (hbase.append hplace), List.nil_append]
  unfold identity
  dsimp only
  rw [hlocate, hnormal, hroot, Path.relativeTo?_append]
  rfl

/-- Different places have different names. -/
theorem nameOf_inj {other : Place} (hplace : Path.Plain place) (hother : Path.Plain other)
    (h : nameOf place = nameOf other) : place = other := by
  have hread : ∀ {row : Place}, Path.Plain row → (Path.ofString (nameOf row)).parts = row :=
    fun hrow => by rw [nameOf, Path.ofString_toString hrow.isName]
  rw [← hread hplace, h, hread hother]

/-- The first component of a name is the first name on the place. -/
theorem head?_names_nameOf (hplace : Path.Plain place) (hne : place ≠ []) :
    (Path.names (nameOf place)).head? = place.head? := by
  unfold nameOf Path.toString
  dsimp only
  rw [if_neg (by simpa using hne), Path.names_intercalate hplace.isName hne]

/-- The text that bytes spell, a byte order mark dropped. -/
def spelled (bytes : List UInt8) : Option (List Char) :=
  match Text.Utf8.decodeMarked bytes with
  | .error _ => none
  | .ok chars => some (Text.Lines.unify chars)

theorem text?_eq {name : String} (h : p.trouble? name = none) :
    p.text? name = (p.work.readBytes (p.locate name)).toOption.bind spelled := by
  unfold text?
  rw [h, if_neg (by simp)]
  cases p.work.readBytes (p.locate name) with
  | error e => rfl
  | ok bytes => rfl

/-- **The text of a collected file is what its bytes spell.** -/
theorem Unlinked.text?_nameOf (h : Unlinked p) (hplace : place ∈ p.sourcePlaces includeTests)
    (htrouble : p.trouble? (nameOf place) = none) :
    p.text? (nameOf place)
      = (p.work.files.bytesAt? (p.root.parts ++ place)).bind spelled := by
  obtain ⟨w, path, hp⟩ := h.resolved
  obtain ⟨base, hroot, hbase⟩ := root_of_atPath hp
  obtain ⟨-, hplain, hfound⟩ := h.leads hplace
  have hlocate : p.locate (nameOf place) = ⟨.absolute, base ++ place⟩ :=
    locate_relative hroot hplain.isName
  rw [hroot] at hfound ⊢
  rw [text?_eq htrouble, hlocate,
    Workspace.readBytes_unlinked h.linkCount_eq rfl (hbase.append hplain) hfound]

end Project

end ImportPolicy
