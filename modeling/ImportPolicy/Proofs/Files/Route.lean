import ImportPolicy.Proofs.Files.Identity

/-!
# The way a row of names takes

`walk` follows a row of names through a file tree. It looks every name up,
gives up where there is nothing, and also gives up after a number of links.
`Walks` says the same without the number: where a row of names leads from a
place, or that it leads nowhere, and how many links are followed on the way.
A walk that does not run out of links is such a way (`walks_of_walkWithin`),
and a way is walked whenever there are links enough
(`Walks.toOption_walkWithin`).

Double dots can be taken out of a row before it is walked only where they
stand behind folders (`walkWithin_lexical`): behind a link they lead
elsewhere, and behind nothing they lead nowhere.
-/

namespace ImportPolicy.Node

variable {root : Node} {here place mid : Place} {name target : String} {names rest : List String}
  {out : Option Place} {n bound : Nat}

/-! ## One name -/

/-- Where a single name leads. -/
inductive Turn where
  | nowhere
  | leads (place : Place)
  /-- A link, with its target. -/
  | through (target : String)

/-- Where a name leads from a place. Names are looked up in folders only, and
a link without a target leads nowhere. -/
def turn (root : Node) (here : Place) (name : String) : Turn :=
  if !root.isFolderAt here then .nowhere
  else if name = "" ∨ name = "." then .leads here
  else if name = ".." then .leads here.dropLast
  else match root.at? (here ++ [name]) with
    | none => .nowhere
    | some (link target) => if target = "" then .nowhere else .through target
    | some _ => .leads (here ++ [name])

/-- Where the target of a link in a folder is looked for. -/
def linkStart (here : Place) (target : String) : Place :=
  if isAbsoluteTarget target then [] else here

theorem turn_of_not_isFolderAt (h : root.isFolderAt here = false) (name : String) :
    root.turn here name = .nowhere := by
  unfold turn
  rw [h]
  rfl

theorem isFolderAt_of_turn {t : Turn} (h : root.turn here name = t) (ht : t ≠ .nowhere) :
    root.isFolderAt here = true := by
  cases hfolder : root.isFolderAt here with
  | true => rfl
  | false =>
    rw [turn_of_not_isFolderAt hfolder] at h
    exact absurd h.symm ht

/-- A name that leads through a link is the name of that link. -/
theorem turn_eq_through (h : root.turn here name = .through target) :
    (¬ (name = "" ∨ name = ".") ∧ name ≠ "..")
      ∧ root.at? (here ++ [name]) = some (link target) ∧ target ≠ "" := by
  unfold turn at h
  split at h
  · cases h
  split at h
  · cases h
  split at h
  · cases h
  rename_i hdot hup
  split at h
  · cases h
  · rename_i found hat
    split at h
    · cases h
    · cases h
      exact ⟨⟨hdot, hup⟩, hat, by assumption⟩
  · cases h

/-- A name that leads on does so by staying, by going up, or by entering
something that is no link. -/
theorem turn_eq_leads (h : root.turn here name = .leads place) :
    ((name = "" ∨ name = ".") ∧ place = here)
    ∨ (name = ".." ∧ place = here.dropLast)
    ∨ ((¬ (name = "" ∨ name = ".") ∧ name ≠ "..") ∧ place = here ++ [name]
      ∧ ∃ node, root.at? place = some node ∧ ∀ target, node ≠ link target) := by
  unfold turn at h
  split at h
  · cases h
  split at h
  · cases h
    exact .inl ⟨by assumption, rfl⟩
  split at h
  · cases h
    exact .inr (.inl ⟨by assumption, rfl⟩)
  rename_i hdot hup
  split at h
  · cases h
  · split at h
    · cases h
    · cases h
  · rename_i node hnode hat
    cases h
    exact .inr (.inr ⟨⟨hdot, hup⟩, rfl, node, hat, hnode⟩)

/-- A name leads nowhere where there is no folder, or where the folder has no
entry of that name but at most a link without a target. -/
theorem turn_eq_nowhere (h : root.turn here name = .nowhere) :
    root.isFolderAt here = false
    ∨ ((¬ (name = "" ∨ name = ".") ∧ name ≠ "..")
      ∧ (root.at? (here ++ [name]) = none ∨ root.at? (here ++ [name]) = some (link ""))) := by
  unfold turn at h
  split at h
  · rename_i hfolder
    exact .inl (by simpa using hfolder)
  split at h
  · cases h
  split at h
  · cases h
  rename_i hdot hup
  split at h
  · rename_i hat
    exact .inr ⟨⟨hdot, hup⟩, .inl hat⟩
  · rename_i target hat
    split at h
    · rename_i htarget
      exact .inr ⟨⟨hdot, hup⟩, .inr (htarget ▸ hat)⟩
    · cases h
  · cases h

/-! ## A row of names -/

/-- Where a row of names leads from a place, `none` if nowhere, and how many
links are followed on the way. -/
inductive Walks (root : Node) : Place → List String → Option Place → Nat → Prop
  | done (here : Place) : Walks root here [] (some here) 0
  | stuck {here : Place} {name : String} {rest : List String} :
    root.turn here name = .nowhere → Walks root here (name :: rest) none 0
  | go {here next : Place} {name : String} {rest : List String} {out : Option Place} {n : Nat} :
    root.turn here name = .leads next → Walks root next rest out n →
    Walks root here (name :: rest) out n
  /-- The target of a link leads nowhere. -/
  | astray {here : Place} {name target : String} {rest : List String} {n : Nat} :
    root.turn here name = .through target →
    Walks root (linkStart here target) (Path.names target) none n →
    Walks root here (name :: rest) none (n + 1)
  | follow {here mid : Place} {name target : String} {rest : List String} {out : Option Place}
      {n m : Nat} :
    root.turn here name = .through target →
    Walks root (linkStart here target) (Path.names target) (some mid) n →
    Walks root mid rest out m → Walks root here (name :: rest) out (n + m + 1)

/-- A row of names has one way, with one number of links. -/
theorem Walks.unique (h : Walks root here names out n) {other : Option Place} {m : Nat}
    (hother : Walks root here names other m) : out = other ∧ n = m := by
  induction h generalizing other m with
  | done here =>
    cases hother
    exact ⟨rfl, rfl⟩
  | stuck hturn => cases hother with
    | stuck _ => exact ⟨rfl, rfl⟩
    | go h _ => cases hturn.symm.trans h
    | astray h _ => cases hturn.symm.trans h
    | follow h _ _ => cases hturn.symm.trans h
  | go hturn _ ih => cases hother with
    | stuck h => cases hturn.symm.trans h
    | go h hrest =>
      cases hturn.symm.trans h
      exact ih hrest
    | astray h _ => cases hturn.symm.trans h
    | follow h _ _ => cases hturn.symm.trans h
  | astray hturn _ ih => cases hother with
    | stuck h => cases hturn.symm.trans h
    | go h _ => cases hturn.symm.trans h
    | astray h htarget =>
      cases hturn.symm.trans h
      exact ⟨rfl, congrArg (· + 1) (ih htarget).2⟩
    | follow h htarget _ =>
      cases hturn.symm.trans h
      cases (ih htarget).1
  | follow hturn _ _ ihtarget ihrest => cases hother with
    | stuck h => cases hturn.symm.trans h
    | go h _ => cases hturn.symm.trans h
    | astray h htarget =>
      cases hturn.symm.trans h
      cases (ihtarget htarget).1
    | follow h htarget hrest =>
      cases hturn.symm.trans h
      obtain ⟨hmid, hn⟩ := ihtarget htarget
      cases hmid
      obtain ⟨hout, hm⟩ := ihrest hrest
      exact ⟨hout, by rw [hn, hm]⟩

/-- A way along two rows is a way along the first and then along the second,
unless it gets lost on the first. -/
theorem Walks.split {front back : List String} (h : Walks root here (front ++ back) out n) :
    (∃ mid n₁ n₂, Walks root here front (some mid) n₁ ∧ Walks root mid back out n₂ ∧ n = n₁ + n₂)
    ∨ (out = none ∧ Walks root here front none n) := by
  induction front generalizing here n with
  | nil => exact .inl ⟨here, 0, n, .done here, h, (Nat.zero_add n).symm⟩
  | cons name front ih =>
    rw [List.cons_append] at h
    cases h with
    | stuck hturn => exact .inr ⟨rfl, .stuck hturn⟩
    | go hturn hrest =>
      obtain ⟨mid, n₁, n₂, hfront, hback, hn⟩ | ⟨hout, hfront⟩ := ih hrest
      · exact .inl ⟨mid, n₁, n₂, .go hturn hfront, hback, hn⟩
      · exact .inr ⟨hout, .go hturn hfront⟩
    | astray hturn htarget => exact .inr ⟨rfl, .astray hturn htarget⟩
    | follow hturn htarget hrest =>
      obtain ⟨mid, n₁, n₂, hfront, hback, hn⟩ | ⟨hout, hfront⟩ := ih hrest
      · exact .inl ⟨mid, _, n₂, .follow hturn htarget hfront, hback, by omega⟩
      · exact .inr ⟨hout, .follow hturn htarget hfront⟩

/-- A way can be gone on with. -/
theorem Walks.append {front back : List String} {m : Nat} (hfront : Walks root here front out n)
    (hmid : out = some mid) {last : Option Place} (hback : Walks root mid back last m) :
    Walks root here (front ++ back) last (n + m) := by
  induction hfront generalizing mid with
  | done here =>
    cases hmid
    rwa [List.nil_append, Nat.zero_add]
  | stuck _ => cases hmid
  | go hturn _ ih => exact .go hturn (ih hmid hback)
  | astray _ _ _ => cases hmid
  | @follow _ _ _ _ _ _ n k hturn htarget _ _ ih =>
    rw [show n + k + 1 + m = n + (k + m) + 1 by omega]
    exact .follow hturn htarget (ih hmid hback)

/-! ## Walking -/

/-- What a walk does at a link when a number of links may still be
followed. -/
def walkLink (root : Node) (bound : Nat) (here : Place) (target : String) (rest : List String) :
    Except FileError Place :=
  match bound with
  | 0 => .error .linkLoop
  | bound + 1 =>
    if target = "" then .error .missing
    else walkWithin root true bound (linkStart here target) (Path.names target ++ rest)

theorem walkWithin_eq (root : Node) (bound : Nat) :
    walkWithin root true bound = walkWith root true (walkLink root bound) := by
  cases bound with
  | zero => rfl
  | succ bound => rfl

@[simp] theorem walkWithin_nil (root : Node) (bound : Nat) (here : Place) :
    walkWithin root true bound here [] = .ok here := by
  rw [walkWithin_eq, walkWith]

theorem walkWithin_nowhere (h : root.turn here name = .nowhere) (bound : Nat)
    (rest : List String) : ∃ e, walkWithin root true bound here (name :: rest) = .error e := by
  rw [walkWithin_eq, walkWith]
  cases hfolder : root.isFolderAt here with
  | false => exact ⟨_, rfl⟩
  | true =>
    rw [if_neg (by simp)]
    obtain hnot | ⟨⟨hdot, hup⟩, hat⟩ := turn_eq_nowhere h
    · rw [hfolder] at hnot
      cases hnot
    · rw [if_neg hdot, if_neg hup]
      dsimp only
      obtain hat | hat := hat
      · rw [hat]
        exact ⟨_, rfl⟩
      · rw [hat]
        cases bound with
        | zero => exact ⟨_, rfl⟩
        | succ bound => exact ⟨_, rfl⟩

theorem walkWithin_leads (h : root.turn here name = .leads place) (bound : Nat) (rest : List String) :
    walkWithin root true bound here (name :: rest) = walkWithin root true bound place rest := by
  have hfolder := isFolderAt_of_turn h Turn.noConfusion
  rw [walkWithin_eq, walkWith, if_neg (by simp [hfolder])]
  obtain ⟨hdot, rfl⟩ | ⟨hup, rfl⟩ | ⟨⟨hdot, hup⟩, rfl, node, hat, hnode⟩ := turn_eq_leads h
  · rw [if_pos hdot]
  · rw [if_neg (by rw [hup]; decide), if_pos hup]
  · rw [if_neg hdot, if_neg hup]
    dsimp only
    rw [hat]
    cases node with
    | file bytes => rfl
    | link target => exact absurd rfl (hnode target)
    | folder entries => rfl

theorem walkWithin_through (h : root.turn here name = .through target) (bound : Nat)
    (rest : List String) :
    walkWithin root true bound here (name :: rest) = walkLink root bound here target rest := by
  have hfolder := isFolderAt_of_turn h Turn.noConfusion
  obtain ⟨⟨hdot, hup⟩, hat, -⟩ := turn_eq_through h
  rw [walkWithin_eq, walkWith, if_neg (by simp [hfolder]), if_neg hdot, if_neg hup]
  dsimp only
  rw [hat]
  rfl

/-- Names in between are taken by their turns, so only links have to be
looked at. -/
theorem walks_of_walkLink {answer : Except FileError Place}
    (hlink : ∀ {here name target rest}, root.turn here name = .through target →
      walkLink root bound here target rest = answer →
      ∃ n ≤ bound, Walks root here (name :: rest) answer.toOption n)
    (h : walkWithin root true bound here names = answer) :
    ∃ n ≤ bound, Walks root here names answer.toOption n := by
  induction names generalizing here with
  | nil =>
    rw [walkWithin_nil] at h
    exact ⟨0, Nat.zero_le _, h ▸ .done here⟩
  | cons name rest ih =>
    cases hturn : root.turn here name with
    | nowhere =>
      obtain ⟨e, he⟩ := walkWithin_nowhere hturn bound rest
      rw [he] at h
      exact ⟨0, Nat.zero_le _, h ▸ .stuck hturn⟩
    | leads next =>
      rw [walkWithin_leads hturn] at h
      obtain ⟨n, hn, hwalks⟩ := ih h
      exact ⟨n, hn, .go hturn hwalks⟩
    | through target =>
      rw [walkWithin_through hturn] at h
      exact hlink hturn h

/-- **A walk that does not run out of links follows the way of its names.** -/
theorem walks_of_walkWithin {answer : Except FileError Place}
    (h : walkWithin root true bound here names = answer) (hloop : answer ≠ .error .linkLoop) :
    ∃ n ≤ bound, Walks root here names answer.toOption n := by
  induction bound generalizing here names with
  | zero => exact walks_of_walkLink (fun _ hlink => absurd hlink.symm hloop) h
  | succ bound ih =>
    refine walks_of_walkLink (fun hturn hlink => ?_) h
    rw [walkLink, if_neg (turn_eq_through hturn).2.2] at hlink
    obtain ⟨n, hn, hwalks⟩ := ih hlink
    -- the target and the names behind the link were walked in one row
    obtain ⟨mid, n₁, n₂, htarget, hrest, heq⟩ | ⟨hout, htarget⟩ := hwalks.split
    · exact ⟨_, by omega, .follow hturn htarget hrest⟩
    · exact ⟨n + 1, by omega, hout ▸ .astray hturn htarget⟩

/-- **A way that leads somewhere is walked**, whatever names follow, as long
as there are links enough; the names behind it are walked with the links that
are left. -/
theorem Walks.walkWithin_append (h : Walks root here names out n) (hout : out = some mid)
    (hbound : n ≤ bound) (rest : List String) :
    walkWithin root true bound here (names ++ rest)
      = walkWithin root true (bound - n) mid rest := by
  induction h generalizing mid bound rest with
  | done here =>
    cases hout
    rfl
  | stuck _ => cases hout
  | go hturn _ ih => rw [List.cons_append, walkWithin_leads hturn, ih hout hbound]
  | astray _ _ _ => cases hout
  | @follow _ _ _ _ _ _ n m hturn _ _ ihtarget ihrest =>
    cases bound with
    | zero => omega
    | succ bound =>
      rw [List.cons_append, walkWithin_through hturn, walkLink,
        if_neg (turn_eq_through hturn).2.2, ihtarget rfl (by omega), ihrest hout (by omega),
        show bound - n - m = bound + 1 - (n + m + 1) by omega]

/-- **A walk with links enough gives where the way leads.** -/
theorem Walks.toOption_walkWithin (h : Walks root here names out n) (hbound : n ≤ bound) :
    (walkWithin root true bound here names).toOption = out := by
  cases out with
  | some place =>
    have hwalk := h.walkWithin_append rfl hbound []
    rw [List.append_nil, walkWithin_nil] at hwalk
    rw [hwalk]
    rfl
  | none =>
    cases hwalk : walkWithin root true bound here names with
    | error e => rfl
    | ok place =>
      obtain ⟨m, -, hplace⟩ := walks_of_walkWithin hwalk (by simp)
      cases (h.unique hplace).1

/-! ## Walking to a place -/

theorem isFolderAt_of_append {front back : Place} (h : root.isFolderAt (front ++ back) = true) :
    root.isFolderAt front = true := by
  unfold isFolderAt at h ⊢
  rw [at?_append] at h
  cases hfront : root.at? front with
  | none => simp [hfront] at h
  | some node => cases node with
    | folder entries => rfl
    | file bytes => cases back <;> simp [hfront, at?, child?] at h
    | link target => cases back <;> simp [hfront, at?, child?] at h

/-- A folder is reached under the names of its place. -/
theorem walks_place (hback : Path.Plain place)
    (h : root.isFolderAt (here ++ place) = true) :
    Walks root here place (some (here ++ place)) 0 := by
  induction place generalizing here with
  | nil => simpa using Walks.done here
  | cons name rest ih =>
    rw [List.append_cons] at h ⊢
    have hnext := isFolderAt_of_append h
    have hturn : root.turn here name = .leads (here ++ [name]) := by
      obtain ⟨hname, hup⟩ := hback name List.mem_cons_self
      obtain ⟨hempty, hdot, -⟩ := Path.isName_iff.mp hname
      unfold turn
      rw [isFolderAt_of_append hnext, if_neg (by simp), if_neg (by simp [hempty, hdot]), if_neg hup]
      unfold isFolderAt at hnext
      split at hnext
      · rename_i entries hat
        rw [hat]
      · cases hnext
    exact .go hturn (ih (fun part hpart => hback part (List.mem_cons_of_mem _ hpart)) h)

/-- A way leads to a place without dots. -/
theorem Walks.plain (h : Walks root here names out n) (hout : out = some mid)
    (hhere : Path.Plain here) (hnames : ∀ part ∈ names, '/' ∉ part.toList) : Path.Plain mid := by
  induction h generalizing mid with
  | done here =>
    cases hout
    exact hhere
  | stuck _ => cases hout
  | @go here next name rest _ _ hturn _ ih =>
    refine ih hout ?_ fun part hpart => hnames part (List.mem_cons_of_mem _ hpart)
    obtain ⟨-, rfl⟩ | ⟨-, rfl⟩ | ⟨⟨hdot, hup⟩, rfl, -⟩ := turn_eq_leads hturn
    · exact hhere
    · exact fun part hpart => hhere part (List.dropLast_subset _ hpart)
    · refine hhere.append fun part hpart => ?_
      rw [List.mem_singleton.mp hpart]
      rw [not_or] at hdot
      exact ⟨Path.isName_iff.mpr ⟨hdot.1, hdot.2, hnames name List.mem_cons_self⟩, hup⟩
  | astray _ _ _ => cases hout
  | @follow here mid name target rest _ _ _ _ _ _ ihtarget ihrest =>
    have hstart : Path.Plain (linkStart here target) := by
      unfold linkStart
      split
      · exact fun _ hpart => absurd hpart List.not_mem_nil
      · exact hhere
    have htarget : ∀ part ∈ Path.names target, '/' ∉ part.toList := by
      intro part hpart
      obtain ⟨piece, hpiece, rfl⟩ := List.mem_map.mp hpart
      rw [String.toList_ofList]
      exact Text.not_mem_of_mem_pieces hpiece
    exact ihrest hout (ihtarget rfl hstart htarget) fun part hpart =>
      hnames part (List.mem_cons_of_mem _ hpart)

/-- **Double dots behind folders can be taken out of a row.** -/
theorem walkWithin_lexical {done row : List String} (hdone : Path.Plain done)
    (hrow : ∀ part ∈ row, Path.isName part = true)
    (hups : ∀ {front back}, row = front ++ ".." :: back →
      root.isFolderAt (Path.lexical done front) = true) (bound : Nat) :
    walkWithin root true bound [] (done ++ row)
      = walkWithin root true bound [] (Path.lexical done row) := by
  fun_induction Path.lexical done row with
  | case1 done => rw [List.append_nil]
  | case2 done more ih =>
    have hfolder : root.isFolderAt done = true := @hups [] more rfl
    have hup : root.turn done ".." = .leads done.dropLast := by
      unfold turn
      rw [hfolder]
      rfl
    have hdrop : Path.Plain done.dropLast := fun part hpart =>
      hdone part (List.dropLast_subset _ hpart)
    -- the folder is reached, left upwards, and its own folder is reached as well
    calc walkWithin root true bound [] (done ++ ".." :: more)
      _ = walkWithin root true bound done (".." :: more) :=
        (walks_place hdone hfolder).walkWithin_append rfl (Nat.zero_le bound) _
      _ = walkWithin root true bound done.dropLast more := walkWithin_leads hup bound more
      _ = walkWithin root true bound [] (done.dropLast ++ more) :=
        (((@walks_place root [] _ hdrop (isFolderAt_dropLast hfolder)).walkWithin_append rfl
          (Nat.zero_le bound) more)).symm
      _ = walkWithin root true bound [] (Path.lexical done.dropLast more) :=
        ih hdrop (fun part hpart => hrow part (List.mem_cons_of_mem _ hpart))
          fun {front back} heq => @hups (".." :: front) back (by rw [heq]; rfl)
  | case3 done part more hpart ih =>
    rw [List.append_cons]
    refine ih (hdone.append ?_) (fun part hpart => hrow part (List.mem_cons_of_mem _ hpart)) ?_
    · intro name hname
      rw [List.mem_singleton.mp hname]
      exact ⟨hrow part List.mem_cons_self, hpart⟩
    · intro front back heq
      have hfolder := @hups (part :: front) back (by rw [heq]; rfl)
      rwa [Path.lexical, if_neg hpart] at hfolder

end ImportPolicy.Node
