import Mathlib.Data.List.Perm.Subperm
import ImportPolicy.Proofs.Files.Route

/-!
# Settling

`settle` follows a row of names as `walk` does, but it never gives up: what is
not there is taken as it is written, and it stops at a link only when that
link is still being settled. `Settles` is the way that it takes when it never
has to stop. The number of links on a way is what shows that settling keeps to
it (`Settles.settleWithin_eq`) and never meets a link again that it is in the
middle of: the way behind a link has fewer links than the way through it.
Where the row leads somewhere, this is the way of a walk (`Walks.settles`).

So a folder can be settled before a name in it is walked to
(`toOption_walk_settle`). Where the folder is not there, this needs that
nothing leads up, because a double dot would take back a name that leads
nowhere.
-/

namespace ImportPolicy.Node

variable {root : Node} {here place mid : Place} {name target : String} {names rest : List String}
  {out : Option Place} {n bound : Nat}

/-! ## Links of a tree -/

mutual

/-- The places of the links in a tree. -/
def linkPlaces : Node → List Place
  | file _ => []
  | link _ => [[]]
  | folder entries => entryLinkPlaces entries

/-- The places of the links in the entries of a folder. -/
def entryLinkPlaces : List (String × Node) → List Place
  | [] => []
  | (name, node) :: more => node.linkPlaces.map (name :: ·) ++ entryLinkPlaces more

end

mutual

theorem length_linkPlaces : ∀ node : Node, node.linkPlaces.length = node.linkCount
  | file _ => rfl
  | link _ => rfl
  | folder entries => length_entryLinkPlaces entries

theorem length_entryLinkPlaces :
    ∀ entries : List (String × Node), (entryLinkPlaces entries).length = entryLinkCount entries
  | [] => rfl
  | (_, node) :: more => by
    rw [entryLinkPlaces, entryLinkCount, List.length_append, List.length_map,
      length_linkPlaces node, length_entryLinkPlaces more]

end

mutual

theorem mem_linkPlaces : ∀ (node : Node) {place : Place} {target : String},
    node.at? place = some (link target) → place ∈ node.linkPlaces
  | file _, [], _, h => by cases h
  | file _, _ :: _, _, h => by cases h
  | link _, [], _, _ => List.mem_singleton_self _
  | link _, _ :: _, _, h => by cases h
  | folder _, [], _, h => by cases h
  | folder entries, name :: more, _, h => mem_entryLinkPlaces entries h

theorem mem_entryLinkPlaces : ∀ (entries : List (String × Node)) {name : String} {more : Place}
    {target : String}, (folder entries).at? (name :: more) = some (link target) →
    name :: more ∈ entryLinkPlaces entries
  | [], _, _, _, h => by cases h
  | (key, node) :: others, name, more, target, h => by
    rw [entryLinkPlaces, List.mem_append]
    by_cases hname : name = key
    · have hinner : node.at? more = some (link target) := by
        simpa [at?, child?, List.lookup_cons, hname] using h
      exact .inl (List.mem_map.mpr ⟨more, mem_linkPlaces node hinner, by rw [hname]⟩)
    · have hothers : (folder others).at? (name :: more) = some (link target) := by
        simpa [at?, child?, List.lookup_cons, beq_eq_false_iff_ne.mpr hname] using h
      exact .inr (mem_entryLinkPlaces others hothers)

end

/-- Different links are no more than the tree has. -/
theorem length_le_linkCount {places : List Place} (hnodup : places.Nodup)
    (hlinks : ∀ place ∈ places, ∃ target, root.at? place = some (link target)) :
    places.length ≤ root.linkCount := by
  have hsub : places ⊆ root.linkPlaces := by
    intro place hplace
    obtain ⟨target, htarget⟩ := hlinks place hplace
    exact mem_linkPlaces root htarget
  rw [← length_linkPlaces]
  exact (hnodup.subperm hsub).length_le

/-! ## Settling -/

/-- The step of settling at a link, when links may lead to further links to a
given depth. -/
def settleLink (root : Node) (depth : Nat) : List Place → Place → List String → Place × Bool :=
  match depth with
  | 0 => fun _ place rest => (place ++ rest, false)
  | depth + 1 => settleWithin root depth

theorem settleWithin_eq (root : Node) (depth : Nat) :
    settleWithin root depth = settleWith root (settleLink root depth) := by
  cases depth with
  | zero => rfl
  | succ depth => rfl

@[simp] theorem settleWithin_nil (root : Node) (depth : Nat) (active : List Place) (here : Place) :
    settleWithin root depth active here [] = (here, true) := by
  rw [settleWithin_eq, settleWith]

/-- Where a name leads from a place when what is not there is taken as it is
written. -/
def onward (root : Node) (here : Place) (name : String) : Turn :=
  if name = "" ∨ name = "." then .leads here
  else if name = ".." then .leads here.dropLast
  else match root.at? (here ++ [name]) with
    | some (link target) => .through target
    | _ => .leads (here ++ [name])

/-- A name that leads through a link is the name of that link. -/
theorem onward_eq_through (h : root.onward here name = .through target) :
    (¬ (name = "" ∨ name = ".") ∧ name ≠ "..")
      ∧ root.at? (here ++ [name]) = some (link target) := by
  unfold onward at h
  split at h
  · cases h
  split at h
  · cases h
  rename_i hdot hup
  split at h
  · rename_i hat
    cases h
    exact ⟨⟨hdot, hup⟩, hat⟩
  · cases h

/-- A name of which there is no link leads to its entry, whether there is one
or not. -/
theorem onward_entry (hentry : ¬ (name = "" ∨ name = ".") ∧ name ≠ "..")
    (hat : ∀ target, root.at? (here ++ [name]) ≠ some (link target)) :
    root.onward here name = .leads (here ++ [name]) := by
  unfold onward
  rw [if_neg hentry.1, if_neg hentry.2]
  split
  · rename_i target htarget
    exact absurd htarget (hat target)
  · rfl

theorem onward_ne_nowhere : root.onward here name ≠ .nowhere := by
  unfold onward
  split
  · exact Turn.noConfusion
  split
  · exact Turn.noConfusion
  split
  · exact Turn.noConfusion
  · exact Turn.noConfusion

/-- What a walk finds, settling finds as well. -/
theorem onward_of_leads (h : root.turn here name = .leads place) :
    root.onward here name = .leads place := by
  obtain ⟨hdot, rfl⟩ | ⟨hup, rfl⟩ | ⟨hentry, rfl, node, hat, hnode⟩ := turn_eq_leads h
  · exact if_pos hdot
  · unfold onward
    rw [if_neg (by rw [hup]; decide), if_pos hup]
  · refine onward_entry hentry fun target htarget => ?_
    rw [hat, Option.some.injEq] at htarget
    exact hnode target htarget

theorem onward_of_through (h : root.turn here name = .through target) :
    root.onward here name = .through target := by
  obtain ⟨⟨hdot, hup⟩, hat, -⟩ := turn_eq_through h
  unfold onward
  rw [if_neg hdot, if_neg hup, hat]

theorem settleWithin_leads {depth : Nat} {active : List Place}
    (h : root.onward here name = .leads place) (rest : List String) :
    settleWithin root depth active here (name :: rest)
      = settleWithin root depth active place rest := by
  rw [settleWithin_eq, settleWith]
  unfold onward at h
  split at h
  · cases h
    rw [if_pos (by assumption)]
  split at h
  · cases h
    rw [if_neg (by assumption), if_pos (by assumption)]
  rename_i hdot hup
  split at h
  · cases h
  · rename_i hat
    cases h
    rw [if_neg hdot, if_neg hup]
    dsimp only
    split
    · rename_i target htarget
      exact absurd htarget (hat target)
    · rfl

/-- A link that is not being settled is settled, and then the row goes on. -/
theorem settleWithin_through {depth : Nat} {active : List Place}
    (h : root.onward here name = .through target) (hactive : here ++ [name] ∉ active)
    (htarget : settleWithin root depth ((here ++ [name]) :: active) (linkStart here target)
      (Path.names target) = (mid, true)) (rest : List String) :
    settleWithin root (depth + 1) active here (name :: rest)
      = settleWithin root (depth + 1) active mid rest := by
  obtain ⟨⟨hdot, hup⟩, hat⟩ := onward_eq_through h
  rw [settleWithin_eq, settleWith, if_neg hdot, if_neg hup]
  dsimp only
  rw [hat]
  dsimp only
  rw [if_neg (by simpa using hactive), settleLink]
  unfold linkStart at htarget
  rw [htarget]

/-! ## The way that settling takes -/

/-- Where a row of names is settled to from a place, and how many links are
followed on the way. There is no such way where the links lead in a circle. -/
inductive Settles (root : Node) : Place → List String → Place → Nat → Prop
  | done (here : Place) : Settles root here [] here 0
  | go {here next place : Place} {name : String} {rest : List String} {n : Nat} :
    root.onward here name = .leads next → Settles root next rest place n →
    Settles root here (name :: rest) place n
  | follow {here mid place : Place} {name target : String} {rest : List String} {n m : Nat} :
    root.onward here name = .through target →
    Settles root (linkStart here target) (Path.names target) mid n →
    Settles root mid rest place m → Settles root here (name :: rest) place (n + m + 1)

/-- A row of names is settled in one way, with one number of links. -/
theorem Settles.unique (h : Settles root here names place n) {other : Place} {m : Nat}
    (hother : Settles root here names other m) : place = other ∧ n = m := by
  induction h generalizing other m with
  | done here =>
    cases hother
    exact ⟨rfl, rfl⟩
  | go honward _ ih => cases hother with
    | go h hrest =>
      cases honward.symm.trans h
      exact ih hrest
    | follow h _ _ => cases honward.symm.trans h
  | follow honward _ _ ihtarget ihrest => cases hother with
    | go h _ => cases honward.symm.trans h
    | follow h htarget hrest =>
      cases honward.symm.trans h
      obtain ⟨rfl, rfl⟩ := ihtarget htarget
      obtain ⟨rfl, rfl⟩ := ihrest hrest
      exact ⟨rfl, rfl⟩

/-- The links that are being settled while a way with `n` links is taken:
each is a link of the tree, and the way behind it has no fewer links. -/
structure Underway (root : Node) (active : List Place) (n : Nat) : Prop where
  nodup : active.Nodup
  behind : ∀ place ∈ active, ∃ here name target mid m, place = here ++ [name]
    ∧ root.onward here name = .through target
    ∧ Settles root (linkStart here target) (Path.names target) mid m ∧ n ≤ m

theorem Underway.nil (root : Node) (n : Nat) : Underway root [] n where
  nodup := List.nodup_nil
  behind _ h := absurd h List.not_mem_nil

theorem Underway.mono {active : List Place} {m : Nat} (h : Underway root active n) (hm : m ≤ n) :
    Underway root active m where
  nodup := h.nodup
  behind place hplace := by
    obtain ⟨here, name, target, mid, k, heq, honward, hsettles, hk⟩ := h.behind place hplace
    exact ⟨here, name, target, mid, k, heq, honward, hsettles, Nat.le_trans hm hk⟩

/-- A link with fewer links behind it than the way it is on is not being
settled. -/
theorem Underway.not_mem {active : List Place} {m : Nat} (h : Underway root active m)
    (honward : root.onward here name = .through target)
    (htarget : Settles root (linkStart here target) (Path.names target) mid n) (hn : n < m) :
    here ++ [name] ∉ active := by
  intro hmem
  obtain ⟨here', name', target', mid', k, heq, honward', hsettles, hk⟩ := h.behind _ hmem
  obtain ⟨rfl, hname⟩ := List.append_inj' heq rfl
  cases hname
  cases honward.symm.trans honward'
  have hsame := (htarget.unique hsettles).2
  omega

theorem Underway.cons {active : List Place} {m : Nat} (h : Underway root active m)
    (honward : root.onward here name = .through target)
    (htarget : Settles root (linkStart here target) (Path.names target) mid n) (hn : n < m) :
    Underway root ((here ++ [name]) :: active) n where
  nodup := List.nodup_cons.mpr ⟨h.not_mem honward htarget hn, h.nodup⟩
  behind place hplace := by
    obtain rfl | hplace := List.mem_cons.mp hplace
    · exact ⟨here, name, target, mid, n, rfl, honward, htarget, Nat.le_refl n⟩
    · exact (h.mono (Nat.le_of_lt hn)).behind place hplace

/-- There are no more links underway than the tree has. -/
theorem Underway.length_le {active : List Place} (h : Underway root active n) :
    active.length ≤ root.linkCount := by
  refine length_le_linkCount h.nodup fun place hplace => ?_
  obtain ⟨here, name, target, -, -, rfl, honward, -⟩ := h.behind place hplace
  exact ⟨target, (onward_eq_through honward).2⟩

/-- The links underway are different ones, so at one more link there is still
room in the depth that settling is given. -/
theorem Underway.deeper {active : List Place} {m depth : Nat} (h : Underway root active m)
    (honward : root.onward here name = .through target)
    (htarget : Settles root (linkStart here target) (Path.names target) mid n) (hn : n < m)
    (hdepth : root.linkCount < depth + active.length) :
    ∃ inner, depth = inner + 1 ∧ Underway root ((here ++ [name]) :: active) n
      ∧ root.linkCount < inner + ((here ++ [name]) :: active).length := by
  have hmore := h.cons honward htarget hn
  have hlength := hmore.length_le
  rw [List.length_cons] at hlength ⊢
  exact ⟨depth - 1, by omega, hmore, by omega⟩

/-- The step: a row is settled along its way while the links underway leave
room for it. -/
theorem settleWithin_of_settles (h : Settles root here names place n) {active : List Place}
    {depth : Nat} (hactive : Underway root active n)
    (hdepth : root.linkCount < depth + active.length) :
    settleWithin root depth active here names = (place, true) := by
  induction h generalizing active depth with
  | done here => rw [settleWithin_nil]
  | go honward _ ih =>
    rw [settleWithin_leads honward]
    exact ih hactive hdepth
  | follow honward htarget _ ihtarget ihrest =>
    -- the way behind the link has fewer links, so the link is not among those underway
    obtain ⟨inner, rfl, hmore, hroom⟩ := hactive.deeper honward htarget (by omega) hdepth
    rw [settleWithin_through honward (hactive.not_mem honward htarget (by omega))
      (ihtarget hmore hroom)]
    exact ihrest (hactive.mono (by omega)) hdepth

/-- **Settling takes its way to the end.** -/
theorem Settles.settleWithin_eq (h : Settles root here names place n) :
    settleWithin root (root.linkCount + 1) [] here names = (place, true) :=
  settleWithin_of_settles h (.nil root n) (Nat.lt_succ_self root.linkCount)

/-- **Settling takes the way of the names** where it leads somewhere. -/
theorem Walks.settles (h : Walks root here names out n) (hout : out = some place) :
    Settles root here names place n := by
  induction h generalizing place with
  | done here =>
    cases hout
    exact .done here
  | stuck _ => cases hout
  | go hturn _ ih => exact .go (onward_of_leads hturn) (ih hout)
  | astray _ _ _ => cases hout
  | follow hturn _ _ ihtarget ihrest =>
    exact .follow (onward_of_through hturn) (ihtarget rfl) (ihrest hout)

/-! ## Settling what leads nowhere

Where a way gets lost, settling goes on with the names as they are written,
and a double dot then takes back a name that leads nowhere. Without double
dots, on the row and in the links of the tree, what is lost stays lost.
-/

/-- The links of a tree, as file systems have them: a target is not empty and
holds no NUL character. -/
def WellLinked (root : Node) : Prop :=
  ∀ {place target}, root.at? place = some (link target) →
    target ≠ "" ∧ Char.ofNat 0 ∉ target.toList

/-- No link leads up. -/
def Straight (root : Node) : Prop :=
  ∀ {place target}, root.at? place = some (link target) → ".." ∉ Path.names target

/-- There is nothing where no folder is. -/
theorem at?_of_not_isFolderAt (h : root.isFolderAt here = false) (name : String) :
    root.at? (here ++ [name]) = none := by
  rw [at?_append]
  unfold isFolderAt at h
  cases hat : root.at? here with
  | none => rfl
  | some node => cases node with
    | file bytes => rfl
    | link target => rfl
    | folder entries => simp [hat] at h

theorem not_isFolderAt_of_at? (h : root.at? here = none) : root.isFolderAt here = false := by
  unfold isFolderAt
  rw [h]

theorem settles_of_not_isFolderAt (hhere : root.isFolderAt here = false) (hnames : ".." ∉ names) :
    ∃ place, Settles root here names place 0 ∧ root.isFolderAt place = false := by
  induction names generalizing here with
  | nil => exact ⟨here, .done here, hhere⟩
  | cons name rest ih =>
    have hname := List.ne_of_not_mem_cons hnames
    have hrest := List.not_mem_of_not_mem_cons hnames
    by_cases hdot : name = "" ∨ name = "."
    · obtain ⟨place, hplace, hfolder⟩ := ih hhere hrest
      exact ⟨place, .go (if_pos hdot) hplace, hfolder⟩
    · have hat := at?_of_not_isFolderAt hhere name
      obtain ⟨place, hplace, hfolder⟩ := ih (not_isFolderAt_of_at? hat) hrest
      have honward := onward_entry ⟨hdot, hname.symm⟩ fun target => by rw [hat]; simp
      exact ⟨place, .go honward hplace, hfolder⟩

/-- **What leads nowhere is not settled to a folder**, where nothing leads
up. -/
theorem Walks.settles_of_lost (hlinks : WellLinked root) (hstraight : Straight root)
    (h : Walks root here names out n) (hout : out = none) (hnames : ".." ∉ names) :
    ∃ place, Settles root here names place n ∧ root.isFolderAt place = false := by
  induction h with
  | done _ => cases hout
  | stuck hturn =>
    obtain hhere | ⟨hentry, hat | hat⟩ := turn_eq_nowhere hturn
    · exact settles_of_not_isFolderAt hhere hnames
    · obtain ⟨place, hplace, hfolder⟩ := settles_of_not_isFolderAt (not_isFolderAt_of_at? hat)
        (List.not_mem_of_not_mem_cons hnames)
      have honward := onward_entry hentry fun target => by rw [hat]; simp
      exact ⟨place, .go honward hplace, hfolder⟩
    · exact absurd rfl (hlinks hat).1
  | go hturn _ ih =>
    obtain ⟨place, hplace, hfolder⟩ := ih hout (List.not_mem_of_not_mem_cons hnames)
    exact ⟨place, .go (onward_of_leads hturn) hplace, hfolder⟩
  | astray hturn _ ih =>
    obtain ⟨mid, hmid, hlost⟩ := ih rfl (hstraight (turn_eq_through hturn).2.1)
    obtain ⟨place, hplace, hfolder⟩ :=
      settles_of_not_isFolderAt hlost (List.not_mem_of_not_mem_cons hnames)
    exact ⟨place, .follow (onward_of_through hturn) hmid hplace, hfolder⟩
  | follow hturn htarget _ _ ihrest =>
    obtain ⟨place, hplace, hfolder⟩ := ihrest hout (List.not_mem_of_not_mem_cons hnames)
    exact ⟨place, .follow (onward_of_through hturn) (htarget.settles rfl) hplace, hfolder⟩

/-! ## Settled places -/

/-- A name that holds neither a slash nor a NUL character. -/
def IsClean (part : String) : Prop := '/' ∉ part.toList ∧ Char.ofNat 0 ∉ part.toList

/-- A place with no link on the way to it, under names that entries of a
folder can have. -/
structure Clear (root : Node) (place : Place) : Prop where
  entry : ∀ part ∈ place, IsClean part ∧ ¬ (part = "" ∨ part = ".") ∧ part ≠ ".."
  unlinked : ∀ {front}, front <+: place → front ≠ [] → ∀ target, root.at? front ≠ some (link target)

theorem Clear.nil (root : Node) : Clear root [] where
  entry _ h := absurd h List.not_mem_nil
  unlinked h hne := absurd (List.prefix_nil.mp h) hne

theorem Clear.dropLast (h : Clear root here) : Clear root here.dropLast where
  entry part hpart := h.entry part (List.dropLast_subset _ hpart)
  unlinked hfront := h.unlinked (hfront.trans here.dropLast_prefix)

theorem Clear.concat (h : Clear root here) (hclean : IsClean name)
    (hentry : ¬ (name = "" ∨ name = ".") ∧ name ≠ "..")
    (hat : ∀ target, root.at? (here ++ [name]) ≠ some (link target)) :
    Clear root (here ++ [name]) where
  entry part hpart := by
    obtain hpart | hpart := List.mem_append.mp hpart
    · exact h.entry part hpart
    · rw [List.mem_singleton.mp hpart]
      exact ⟨hclean, hentry⟩
  unlinked hfront hne := by
    obtain rfl | hfront := List.prefix_concat_iff.mp hfront
    · exact hat
    · exact h.unlinked hfront hne

theorem Clear.plain (h : Clear root place) : Path.Plain place := by
  intro part hpart
  obtain ⟨⟨hslash, -⟩, hdot, hup⟩ := h.entry part hpart
  rw [not_or] at hdot
  exact ⟨Path.isName_iff.mpr ⟨hdot.1, hdot.2, hslash⟩, hup⟩

/-- The names in a link are clean, as its target is. -/
theorem isClean_of_mem_names {text part : String} (htext : Char.ofNat 0 ∉ text.toList)
    (hpart : part ∈ Path.names text) : IsClean part := by
  obtain ⟨piece, hpiece, rfl⟩ := List.mem_map.mp hpart
  rw [IsClean, String.toList_ofList]
  refine ⟨Text.not_mem_of_mem_pieces hpiece, fun hnul => htext ?_⟩
  have hmem : Char.ofNat 0 ∈ text.toList ++ ['/'] := by
    rw [← Text.flatMap_pieces]
    exact List.mem_flatMap.mpr ⟨piece, hpiece, List.mem_append_left _ hnul⟩
  simpa using hmem

/-- The step: settling a row keeps clear of links if settling the targets of
links does. -/
theorem clear_settleWith {inner : List Place → Place → List String → Place × Bool}
    (hlinks : WellLinked root)
    (hinner : ∀ {active here names place}, Clear root here → (∀ part ∈ names, IsClean part) →
      inner active here names = (place, true) → Clear root place)
    {active : List Place} (hhere : Clear root here) (hnames : ∀ part ∈ names, IsClean part)
    (h : settleWith root inner active here names = (place, true)) : Clear root place := by
  induction names generalizing here with
  | nil =>
    cases h
    exact hhere
  | cons name rest ih =>
    have hname := hnames name List.mem_cons_self
    have hrest : ∀ part ∈ rest, IsClean part := fun part hpart =>
      hnames part (List.mem_cons_of_mem _ hpart)
    rw [settleWith] at h
    split at h
    · exact ih hhere hrest h
    split at h
    · exact ih hhere.dropLast hrest h
    rename_i hdot hup
    dsimp only at h
    split at h
    · rename_i target hat
      -- the row goes on only behind a link that was settled without a loop
      split at h
      · cases h
      split at h
      · rename_i mid hmid
        have hstart : Clear root (linkStart here target) := by
          unfold linkStart
          split
          · exact .nil root
          · exact hhere
        have htarget : ∀ part ∈ Path.names target, IsClean part := fun _ hpart =>
          isClean_of_mem_names (hlinks hat).2 hpart
        exact ih (hinner hstart htarget hmid) hrest h
      · cases h
    · rename_i hat
      exact ih (hhere.concat hname ⟨hdot, hup⟩ hat) hrest h

/-- **A row that is settled without a loop is settled to a clear place.** -/
theorem clear_settleWithin (hlinks : WellLinked root) {depth : Nat} {active : List Place}
    (hhere : Clear root here) (hnames : ∀ part ∈ names, IsClean part)
    (h : settleWithin root depth active here names = (place, true)) : Clear root place := by
  induction depth generalizing active here names place with
  | zero => exact clear_settleWith hlinks (fun _ _ h => by cases h) hhere hnames h
  | succ depth ih => exact clear_settleWith hlinks ih hhere hnames h

theorem settle_eq (hplace : Path.Plain place)
    (h : settleWithin root (root.linkCount + 1) [] here names = (place, true)) :
    root.settle here names = place := by
  unfold settle
  rw [h, List.filter_eq_self.mpr hplace.isName, Path.lexical_of_plain hplace, List.nil_append]

/-! ## Walking to a settled place -/

/-- Nothing is reached behind a clear place that is no folder. -/
theorem Clear.walks_concat (h : Clear root (here ++ place))
    (hfolder : root.isFolderAt (here ++ place) = false) (name : String) :
    Walks root here (place ++ [name]) none 0 := by
  induction place generalizing here with
  | nil =>
    rw [List.append_nil] at hfolder
    exact .stuck (turn_of_not_isFolderAt hfolder name)
  | cons first rest ih =>
    rw [List.cons_append]
    cases hturn : root.turn here first with
    | nowhere => exact .stuck hturn
    | leads next =>
      have hentry := (h.entry first (by simp)).2
      obtain ⟨hdot, -⟩ | ⟨hup, -⟩ | ⟨-, rfl, -⟩ := turn_eq_leads hturn
      · exact absurd hdot hentry.1
      · exact absurd hup hentry.2
      · rw [List.append_cons] at h hfolder
        exact .go hturn (ih h hfolder)
    | through target =>
      obtain ⟨-, hat, -⟩ := turn_eq_through hturn
      have hprefix : here ++ [first] <+: here ++ first :: rest := ⟨rest, by simp⟩
      exact absurd hat (h.unlinked hprefix (by simp) target)

/-- **A folder can be settled before a name in it is walked to**, if the walk
does not run out of links, and if the folder is there or nothing leads up. -/
theorem toOption_walk_settle (hlinks : WellLinked root) (hnames : ∀ part ∈ names, IsClean part)
    (hloop : root.walk [] (names ++ [name]) ≠ .error .linkLoop)
    (hfolder : (∃ place, root.walk [] names = .ok place) ∨ ".." ∉ names ∧ root.Straight) :
    Clear root (root.settle [] names)
    ∧ (root.walk [] (root.settle [] names ++ [name])).toOption
      = (root.walk [] (names ++ [name])).toOption := by
  obtain ⟨n, hn, hwalks⟩ : ∃ n ≤ mostLinks,
      Walks root [] (names ++ [name]) (root.walk [] (names ++ [name])).toOption n :=
    walks_of_walkWithin rfl hloop
  generalize (root.walk [] (names ++ [name])).toOption = out at hwalks ⊢
  -- it is enough to know the place that the folder is settled to
  suffices h : ∃ place m, settleWithin root (root.linkCount + 1) [] [] names = (place, true)
      ∧ (Clear root place → m ≤ mostLinks ∧ Walks root [] (place ++ [name]) out m) by
    obtain ⟨place, m, hsettle, hplace⟩ := h
    have hclear := clear_settleWithin hlinks (.nil root) hnames hsettle
    rw [settle_eq hclear.plain hsettle]
    exact ⟨hclear, (hplace hclear).2.toOption_walkWithin (hplace hclear).1⟩
  obtain ⟨mid, n₁, n₂, hfront, hlast, hsum⟩ | ⟨hout, hlost⟩ := hwalks.split
  · refine ⟨mid, n₂, (hfront.settles rfl).settleWithin_eq, fun hclear => ?_⟩
    refine ⟨by omega, ?_⟩
    by_cases hmid : root.isFolderAt mid = true
    · have hplace : Walks root [] mid (some mid) 0 := walks_place hclear.plain hmid
      rw [← Nat.zero_add n₂]
      exact hplace.append rfl hlast
    · have hnot : root.isFolderAt mid = false := by simpa using hmid
      obtain ⟨hout, hzero⟩ := hlast.unique (.stuck (turn_of_not_isFolderAt hnot name))
      rw [hout, hzero]
      exact @Clear.walks_concat root [] mid hclear hnot name
  · obtain ⟨place, hplace⟩ | ⟨hup, hstraight⟩ := hfolder
    · obtain ⟨m, -, hfound⟩ := walks_of_walkWithin hplace (by simp)
      cases (hlost.unique hfound).1
    · obtain ⟨place, hplace, hnot⟩ := hlost.settles_of_lost hlinks hstraight rfl hup
      refine ⟨place, 0, hplace.settleWithin_eq, fun hclear => ⟨Nat.zero_le _, ?_⟩⟩
      rw [hout]
      exact @Clear.walks_concat root [] place hclear hnot name

end ImportPolicy.Node
