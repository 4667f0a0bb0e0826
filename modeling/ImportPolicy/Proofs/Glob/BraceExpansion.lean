import ImportPolicy.Proofs.Glob.BraceScan

/-!
# Expansion computes the meaning of brace trees

Expansion works on the text alone: it takes the first group that it finds,
puts each part in, and starts again at the first character. That this
computes the product of the choices, in order, is proved here for the
patterns that trees are written as.

The statement that carries the induction over the tree is about what may
stand around it. `Spells` says of a text that, behind any text that the
search for a group passes over, it expands to certain texts, with that other
text before them. A tree then turns a text that spells `D` behind it into one
that spells its own meaning times `D` – for a choice, because each of its
branches does, and the group is replaced by them in order.

The limit on the number of results is exact. A choice that is cut short has
collected too many already, and a list of texts is never empty, so a
sequence or a branch with too many results makes the whole have too many.
The other limit, on how deep expansions can be nested, is put aside.
-/

namespace ImportPolicy.Glob

/-! ## Products -/

@[simp] theorem times_nil_text (texts : List (List Char)) : times [[]] texts = texts := by
  simp [times]

@[simp] theorem times_singleton_nil (texts : List (List Char)) : times texts [[]] = texts := by
  simp [times]

theorem times_singleton (text : List Char) (texts : List (List Char)) :
    times [text] texts = texts.map (text ++ ·) := by
  simp [times]

theorem times_assoc (a b c : List (List Char)) : times (times a b) c = times a (times b c) := by
  simp [times, List.flatMap_assoc, List.flatMap_map, List.map_flatMap, Function.comp_def]

theorem times_flatten (lists : List (List (List Char))) (texts : List (List Char)) :
    times lists.flatten texts = (lists.map (times · texts)).flatten := by
  induction lists with
  | nil => rfl
  | cons list more ih =>
    rw [List.flatten_cons, List.map_cons, List.flatten_cons, ← ih]
    exact List.flatMap_append

theorem length_times (a b : List (List Char)) : (times a b).length = a.length * b.length := by
  simp [times, List.length_flatMap, List.map_const']

theorem length_le_length_times {a b : List (List Char)} (hb : b ≠ []) :
    a.length ≤ (times a b).length := by
  rw [length_times]
  exact Nat.le_mul_of_pos_right _ (List.length_pos_iff.mpr hb)

theorem times_ne_nil {a b : List (List Char)} (ha : a ≠ []) (hb : b ≠ []) : times a b ≠ [] :=
  List.ne_nil_of_length_pos
    (Nat.lt_of_lt_of_le (List.length_pos_iff.mpr ha) (length_le_length_times hb))

/-! ## Collecting the parts -/

theorem gather_cons {expansion : List Char → Except Failure (List (List Char))}
    {pattern : List Char} {texts : List (List Char)} (h : expansion pattern = .ok texts)
    (more got : List (List Char)) :
    gather expansion (pattern :: more) got
      = if 1024 < (got ++ texts).length then .error .patterns
        else gather expansion more (got ++ texts) := by
  rw [gather, h]
  rfl

/-- The expansions of several patterns, put together under the limit. -/
theorem limited_gather {expansion : List Char → Except Failure (List (List Char))}
    {options : List (List Char × List (List Char))}
    (h : ∀ option ∈ options, Limited (expansion option.1) option.2)
    {got : List (List Char)} (hgot : got.length ≤ 1024) :
    Limited (gather expansion (options.map Prod.fst) got)
      (got ++ (options.map Prod.snd).flatten) := by
  induction options generalizing got with
  | nil =>
    rw [List.map_nil, List.map_nil, List.flatten_nil, List.append_nil]
    exact ⟨fun _ => rfl, fun hlong => absurd hgot (Nat.not_le.mpr hlong)⟩
  | cons option more ih =>
    obtain ⟨pattern, texts⟩ := option
    have hfirst : Limited (expansion pattern) texts := h (pattern, texts) List.mem_cons_self
    rw [List.map_cons, List.map_cons, List.flatten_cons, ← List.append_assoc]
    show Limited (gather expansion (pattern :: _) got) (got ++ texts ++ _)
    by_cases htexts : texts.length ≤ 1024
    · rw [gather_cons (hfirst.1 htexts)]
      by_cases hnew : (got ++ texts).length ≤ 1024
      · rw [if_neg (Nat.not_lt.mpr hnew)]
        exact ih (fun other hother => h other (List.mem_cons_of_mem _ hother)) hnew
      · -- too many already, and the rest only adds to them
        rw [if_pos (Nat.not_le.mp hnew)]
        refine ⟨fun hle => absurd ?_ hnew, fun _ => ⟨_, rfl⟩⟩
        rw [List.length_append] at hle
        omega
    · obtain ⟨e, he⟩ := hfirst.2 (Nat.not_le.mp htexts)
      rw [gather, he, error_bind]
      refine ⟨fun hle => absurd ?_ htexts, fun _ => ⟨e, rfl⟩⟩
      rw [List.length_append, List.length_append] at hle
      omega

/-! ## Texts and what they spell -/

/-- Behind any text that the search for a group passes over, a text expands
to certain texts in the given number of steps, under the limit. -/
def Spells (steps : Nat) (text : List Char) (texts : List (List Char)) : Prop :=
  texts ≠ [] ∧ ∀ before, Settled before → ∀ n, steps ≤ n →
    Limited (expandWithin n (before ++ text)) (texts.map (before ++ ·))

theorem Spells.mono {steps more : Nat} (h : steps ≤ more) {text : List Char}
    {texts : List (List Char)} (htext : Spells steps text texts) : Spells more text texts :=
  ⟨htext.1, fun before hbefore n hn => htext.2 before hbefore n (h.trans hn)⟩

/-- Nothing more to expand. -/
theorem spells_nil : Spells 0 [] [[]] := by
  refine ⟨List.cons_ne_nil _ _, fun before hbefore n _ => ?_⟩
  have hplain : expandWithin n (before ++ []) = .ok [before ++ []] := by
    cases n with
    | zero => rfl
    | succ n => rw [expandWithin, hbefore]; rfl
  rw [hplain]
  exact ⟨fun _ => rfl, fun hlong => absurd hlong (by simp)⟩

/-- A settled text is put before what is spelled behind it. -/
theorem Spells.prepend {steps : Nat} {text tail : List Char} {texts : List (List Char)}
    (htext : Settled text) (h : Spells steps tail texts) :
    Spells steps (text ++ tail) (times [text] texts) := by
  refine ⟨times_ne_nil (List.cons_ne_nil _ _) h.1, fun before hbefore n hn => ?_⟩
  have hboth := h.2 (before ++ text) (hbefore.append htext) n hn
  rw [List.append_assoc] at hboth
  rw [times_singleton, List.map_map]
  exact (funext fun t => List.append_assoc before text t : _ = (before ++ ·) ∘ (text ++ ·)) ▸ hboth

/-- **A group spells what its parts spell, one after the other.** -/
theorem Spells.group {steps : Nat} {body tail : List Char} {texts : List (List Char)}
    {options : List (List Char × List (List Char))} (hbody : Closed body)
    (hne : options ≠ []) (hparts : partsOf body = .ok (some (options.map Prod.fst)))
    (h : ∀ option ∈ options, Spells steps (option.1 ++ tail) (times option.2 texts)) :
    Spells (steps + 1) ('{' :: (body ++ '}' :: tail))
      (times (options.map Prod.snd).flatten texts) := by
  rw [times_flatten, List.map_map]
  refine ⟨?_, fun before hbefore n hn => ?_⟩
  · obtain ⟨option, hoption⟩ := List.exists_mem_of_ne_nil options hne
    exact List.flatten_ne_nil_iff.mpr
      ⟨_, List.mem_map_of_mem hoption, (h option hoption).1⟩
  · obtain ⟨m, rfl⟩ : ∃ m, n = m + 1 := ⟨n - 1, by omega⟩
    have hgather : Limited (gather (expandWithin m)
          ((options.map fun option => (before ++ (option.1 ++ tail),
            (times option.2 texts).map (before ++ ·))).map Prod.fst) [])
        ([] ++ ((options.map fun option => (before ++ (option.1 ++ tail),
            (times option.2 texts).map (before ++ ·))).map Prod.snd).flatten) := by
      refine limited_gather ?_ (Nat.zero_le _)
      intro replaced hreplaced
      obtain ⟨option, hoption, rfl⟩ := List.mem_map.mp hreplaced
      exact (h option hoption).2 before hbefore m (Nat.le_of_succ_le_succ hn)
    rw [expandWithin, findGroup_of_parts hbefore hbody hparts tail, ok_bind]
    simpa [Function.comp_def, Group.replacedBy, List.map_flatten] using hgather

/-- A group whose body has a failure spells whatever is too much. -/
theorem Spells.failure {steps : Nat} {body tail : List Char} {items texts : List (List Char)}
    (hbody : Closed body) {e : Failure} (hparts : partsOf body = .error e)
    (hitems : 1024 < items.length) (htexts : texts ≠ []) :
    Spells (steps + 1) ('{' :: (body ++ '}' :: tail)) (times items texts) := by
  have hlong : 1024 < (times items texts).length :=
    Nat.lt_of_lt_of_le hitems (length_le_length_times htexts)
  refine ⟨List.ne_nil_of_length_pos (Nat.zero_lt_of_lt hlong), fun before hbefore n hn => ?_⟩
  obtain ⟨m, rfl⟩ : ∃ m, n = m + 1 := ⟨n - 1, by omega⟩
  rw [expandWithin, findGroup_of_failure hbefore hbody hparts tail, error_bind]
  refine ⟨fun hle => absurd hle ?_, fun _ => ⟨e, rfl⟩⟩
  rw [List.length_map]
  exact Nat.not_le.mpr hlong

/-- A sequence spells its items. -/
theorem Spells.sequence {steps : Nat} {body tail : List Char} {items texts : List (List Char)}
    (h : Spells steps tail texts) (hbody : Inert body)
    {answer : Except Failure (List (List Char))} (hanswer : sequence body = some <$> answer)
    (hlimited : Limited answer items) (hne : items ≠ [])
    (hplain : ∀ item ∈ items, ∀ c ∈ item, isPlain c = true) :
    Spells (steps + 1) ('{' :: (body ++ '}' :: tail)) (times items texts) := by
  have hparts := partsOf_uncut hbody.uncut
  rw [hanswer] at hparts
  by_cases hlength : items.length ≤ 1024
  · rw [hlimited.1 hlength] at hparts
    have hfst : (items.map fun item => (item, [item])).map Prod.fst = items := by
      simp [Function.comp_def]
    have hsnd : ((items.map fun item => (item, [item])).map Prod.snd).flatten = items := by
      rw [List.map_map, ← List.flatMap_def]
      exact List.flatMap_singleton' items
    rw [← hsnd]
    refine Spells.group hbody.closed (by simpa using hne) (by rw [hparts, hfst]; rfl) ?_
    intro option hoption
    obtain ⟨item, hitem, rfl⟩ := List.mem_map.mp hoption
    exact h.prepend (inert_of_forall_isPlain (hplain item hitem)).settled
  · obtain ⟨e, he⟩ := hlimited.2 (Nat.not_le.mp hlength)
    rw [he] at hparts
    exact Spells.failure hbody.closed hparts (Nat.not_le.mp hlength) h.1

/-! ## Sequences stand in no scanner's way -/

theorem isPlain_of_isDigit {c : Char} (h : Text.isDigit c = true) : isPlain c = true :=
  isPlain_iff.mpr ⟨ne_of_isDigit h (by decide), ne_of_isDigit h (by decide),
    ne_of_isDigit h (by decide), ne_of_isDigit h (by decide)⟩

theorem isPlain_of_isLetter {c : Char} (h : isLetter c = true) : isPlain c = true := by
  refine isPlain_iff.mpr ⟨?_, ?_, ?_, ?_⟩
  all_goals
    rintro rfl
    exact absurd h (by decide)

theorem isLetter_of_sameCase {x y : Char} (h : sameCase x y = true) :
    isLetter x = true ∧ isLetter y = true := by
  unfold sameCase at h
  unfold isLetter
  grind

theorem Written.isPlain_of_mem (w : Written) {c : Char} (hc : c ∈ w.text) :
    isPlain c = true := by
  unfold Written.text at hc
  split at hc
  · rcases List.mem_cons.mp hc with rfl | hc
    · decide
    · exact isPlain_of_isDigit (w.isDigit_of_mem c hc)
  · exact isPlain_of_isDigit (w.isDigit_of_mem c hc)

theorem isPlain_of_mem_stepText {step : Option Written} {c : Char} (hc : c ∈ stepText step) :
    isPlain c = true := by
  cases step with
  | none => simp [stepText] at hc
  | some step =>
    simp only [stepText, List.mem_cons] at hc
    obtain rfl | rfl | hc := hc
    · decide
    · decide
    · exact step.isPlain_of_mem hc

theorem inert_numbersBody (first last : Written) (step : Option Written) :
    Inert (numbersBody first last step) := by
  refine inert_of_forall_isPlain (fun c hc => ?_)
  simp only [numbersBody, List.mem_append, List.mem_cons] at hc
  obtain hc | rfl | rfl | hc | hc := hc
  · exact first.isPlain_of_mem hc
  · decide
  · decide
  · exact last.isPlain_of_mem hc
  · exact isPlain_of_mem_stepText hc

/-- Two letters with dots between them stand in no scanner's way, if what is
behind them does not. -/
theorem inert_letters {first last : Char} {rest : List Char} (hfirst : isLetter first = true)
    (hlast : isLetter last = true) (hrest : ∀ c ∈ rest, isPlain c = true) :
    Inert (first :: '.' :: '.' :: last :: rest) := by
  refine inert_of_forall_isPlain (fun c hc => ?_)
  simp only [List.mem_cons] at hc
  obtain rfl | rfl | rfl | rfl | hc := hc
  · exact isPlain_of_isLetter hfirst
  · decide
  · decide
  · exact isPlain_of_isLetter hlast
  · exact hrest c hc

theorem inert_lettersBody {first last : Char} (hfirst : isLetter first = true)
    (hlast : isLetter last = true) (step : Option Written) :
    Inert (lettersBody first last step) :=
  inert_letters hfirst hlast fun _ hc => isPlain_of_mem_stepText hc

theorem isPlain_of_mem_decimal {n : Int} {c : Char} (hc : c ∈ decimal n) :
    isPlain c = true := by
  have hdigit : ∀ c ∈ Nat.toDigits 10 n.natAbs, isPlain c = true := by
    intro c hc
    have hc := Nat.isDigit_of_mem_toDigits (by decide) (by decide) hc
    refine isPlain_iff.mpr ⟨?_, ?_, ?_, ?_⟩
    all_goals
      rintro rfl
      exact absurd hc (by decide)
  unfold decimal at hc
  split at hc
  · rcases List.mem_cons.mp hc with rfl | hc
    · decide
    · exact hdigit c hc
  · exact hdigit c hc

/-- Between two letters of one case there are only letters. -/
theorem isPlain_of_mem_between {first last : Char} (h : sameCase first last = true) {step : Nat}
    {n : Int} (hn : n ∈ between first.toNat last.toNat step) :
    isPlain (Char.ofNat n.toNat) = true := by
  have hle : ∀ a b : Char, a ≤ b ↔ a.toNat ≤ b.toNat := fun a b => Iff.rfl
  have hletters : ∀ k : Fin 123, (65 ≤ k.val ∧ k.val ≤ 90) ∨ 97 ≤ k.val →
      isPlain (Char.ofNat k.val) = true := by decide
  have hbounds := mem_between hn
  unfold sameCase at h
  simp only [Bool.or_eq_true, Bool.and_eq_true, decide_eq_true_eq, hle] at h
  have hends : 'a'.toNat = 97 ∧ 'z'.toNat = 122 ∧ 'A'.toNat = 65 ∧ 'Z'.toNat = 90 := by decide
  exact hletters ⟨n.toNat, by omega⟩ (by simp only; omega)

/-! ## Trees -/

namespace BraceTree

theorem length_le_length_intercalate {part : List Char} {parts : List (List Char)}
    (h : part ∈ parts) : part.length ≤ (List.intercalate [','] parts).length := by
  induction parts with
  | nil => simp at h
  | cons first more ih =>
    cases more with
    | nil =>
      rw [List.intercalate_singleton, List.mem_singleton.mp h]
    | cons next rest =>
      rw [List.intercalate_cons_cons, List.length_append, List.length_append]
      rcases List.mem_cons.mp h with rfl | h
      · omega
      · have := ih h
        omega

/-- The branches of a choice, each as a pattern with commas between them. -/
def branchesBody (branches : List BraceTree) : List Char :=
  List.intercalate [','] (branches.map render)

theorem render_choice (first second : BraceTree) (more : List BraceTree) :
    (choice first second more).render
      = '{' :: (branchesBody (first :: second :: more) ++ ['}']) := by
  rw [render, renderAll_eq_map]
  rfl

theorem denote_choice (first second : BraceTree) (more : List BraceTree) :
    (choice first second more).denote
      = ((first :: second :: more).map denote).flatten := by
  simp [denote]

theorem forall_mem_map_render {P : List Char → Prop} {ts : List BraceTree}
    (h : ∀ t ∈ ts, P t.render) : ∀ part ∈ ts.map render, P part := by
  intro part hpart
  obtain ⟨t, ht, rfl⟩ := List.mem_map.mp hpart
  exact h t ht

/-- The search for a closing brace and the search for commas pass over a tree
as a whole. -/
theorem passed_render (t : BraceTree) : Closed t.render ∧ UncutFrom 0 t.render := by
  induction t using tree_induction with
  | literal c plain => exact ⟨closed_of_isPlain plain, uncutFrom_of_isPlain plain⟩
  | escape c => exact ⟨closed_escape c, uncutFrom_escape 0 c⟩
  | concat parts ih =>
    rw [render, renderAll_eq_map]
    exact ⟨flatten_induction closed_nil (fun _ _ => Closed.append)
        (forall_mem_map_render fun t ht => (ih t ht).1),
      flatten_induction (uncutFrom_nil 0) (fun _ _ => UncutFrom.append)
        (forall_mem_map_render fun t ht => (ih t ht).2)⟩
  | choice first second more ih =>
    rw [render_choice]
    exact ⟨closed_group (closed_intercalate (forall_mem_map_render fun t ht => (ih t ht).1)),
      uncutFrom_group (uncutFrom_intercalate (forall_mem_map_render fun t ht => (ih t ht).2))⟩
  | numbers first last step =>
    have hbody := inert_numbersBody first last step
    exact ⟨closed_group hbody.closed, uncutFrom_group (hbody.uncut.mono (by decide))⟩
  | letters first last same step =>
    obtain ⟨hfirst, hlast⟩ := isLetter_of_sameCase same
    have hbody := inert_lettersBody hfirst hlast step
    exact ⟨closed_group hbody.closed, uncutFrom_group (hbody.uncut.mono (by decide))⟩

/-- A tree can be put before whatever is spelled behind it. -/
def Prepends (t : BraceTree) : Prop :=
  ∀ {steps tail texts}, Spells steps tail texts →
    Spells (steps + t.render.length) (t.render ++ tail) (times t.denote texts)

theorem prepends_concat {parts : List BraceTree} (h : ∀ t ∈ parts, t.Prepends) :
    (concat parts).Prepends := by
  intro steps tail texts htail
  rw [render, denote, renderAll_eq_map, denoteAll_eq_map]
  induction parts with
  | nil => simpa [product] using htail
  | cons t more ih =>
    have hmore := ih (fun other hother => h other (List.mem_cons_of_mem _ hother))
    have hboth := h t List.mem_cons_self hmore
    rw [List.map_cons, List.map_cons, List.flatten_cons, product, times_assoc,
      List.append_assoc, List.length_append]
    exact hboth.mono (by omega)

theorem prepends_choice {first second : BraceTree} {more : List BraceTree}
    (h : ∀ t ∈ first :: second :: more, t.Prepends) : (choice first second more).Prepends := by
  intro steps tail texts htail
  rw [render_choice, denote_choice]
  generalize hbranches : first :: second :: more = branches at h ⊢
  have hclosed : Closed (branchesBody branches) :=
    closed_intercalate (forall_mem_map_render fun t _ => t.passed_render.1)
  have hparts : partsOf (branchesBody branches) = .ok (some (branches.map render)) := by
    have huncut : ∀ part ∈ branches.map render, UncutFrom 0 part :=
      forall_mem_map_render fun t _ => t.passed_render.2
    subst hbranches
    exact partsOf_intercalate huncut
  -- each branch in the place of the choice, within the steps that its text allows
  have hoptions : ∀ option ∈ branches.map (fun t => (t.render, t.denote)),
      Spells (steps + (branchesBody branches).length) (option.1 ++ tail)
        (times option.2 texts) := by
    intro option hoption
    obtain ⟨t, ht, rfl⟩ := List.mem_map.mp hoption
    refine (h t ht htail).mono (Nat.add_le_add_left ?_ steps)
    exact length_le_length_intercalate (List.mem_map_of_mem ht)
  have hgroup := Spells.group hclosed (by simp [← hbranches])
    (by rw [hparts, List.map_map]; rfl) hoptions
  rw [List.map_map] at hgroup
  simp only [List.cons_append, List.append_assoc, List.length_cons, List.length_append]
  exact hgroup.mono (by omega)

theorem prepends_numbers (first last : Written) (step : Option Written) :
    (numbers first last step).Prepends := by
  intro steps tail texts htail
  obtain ⟨answer, hanswer, hlimited⟩ := sequence_numbersBody first last step
  have hsequence := htail.sequence (inert_numbersBody first last step) hanswer hlimited
    (by simpa using between_ne_nil _ _ _)
    (by
      intro item hitem c hc
      obtain ⟨n, -, rfl⟩ := List.mem_map.mp hitem
      exact isPlain_of_mem_decimal hc)
  show Spells (steps + ('{' :: (numbersBody first last step ++ ['}'])).length)
    ('{' :: (numbersBody first last step ++ ['}']) ++ tail) _
  simp only [List.cons_append, List.append_assoc, List.length_cons, List.length_append]
  exact hsequence.mono (by omega)

theorem prepends_letters (first last : Char) (same : sameCase first last = true)
    (step : Option Written) : (letters first last same step).Prepends := by
  intro steps tail texts htail
  obtain ⟨hfirst, hlast⟩ := isLetter_of_sameCase same
  obtain ⟨answer, hanswer, hlimited⟩ := sequence_lettersBody hfirst hlast step
  have hsequence := htail.sequence (inert_lettersBody hfirst hlast step) hanswer hlimited
    (by simpa using between_ne_nil _ _ _)
    (by
      intro item hitem c hc
      obtain ⟨n, hn, rfl⟩ := List.mem_map.mp hitem
      rw [List.mem_singleton.mp hc]
      exact isPlain_of_mem_between same hn)
  show Spells (steps + ('{' :: (lettersBody first last step ++ ['}'])).length)
    ('{' :: (lettersBody first last step ++ ['}']) ++ tail) _
  simp only [List.cons_append, List.append_assoc, List.length_cons, List.length_append]
  exact hsequence.mono (by omega)

/-- Every tree can be put before whatever is spelled behind it. -/
theorem prepends (t : BraceTree) : t.Prepends := by
  induction t using tree_induction with
  | literal c plain =>
    intro steps tail texts htail
    exact (htail.prepend (settled_of_isPlain plain)).mono (Nat.le_add_right _ _)
  | escape c =>
    intro steps tail texts htail
    exact (htail.prepend (settled_escape c)).mono (Nat.le_add_right _ _)
  | concat parts ih => exact prepends_concat ih
  | choice first second more ih => exact prepends_choice ih
  | numbers first last step => exact prepends_numbers first last step
  | letters first last same step => exact prepends_letters first last same step

/-- **Expansion computes the meaning of a tree.** A tree that stands for at
most 1024 texts is expanded to exactly these, in order and with repetitions;
one that stands for more has no expansion. The recursion limit is put
aside. -/
theorem expand_render (t : BraceTree) :
    (t.denote.length ≤ 1024 → expand t.render = .ok t.denote)
      ∧ (1024 < t.denote.length → ∃ e, expand t.render = .error e) := by
  have h := (t.prepends spells_nil).2 [] settled_nil t.render.length (by simp)
  simpa [Limited, expand] using h

/-- A sequence in a branch is expanded in its place, and a sequence that is
too long leaves nothing. -/
theorem expand_render_nested :
    expand "a{b,{3..1}}".toList = .ok ["ab".toList, "a3".toList, "a2".toList, "a1".toList]
      ∧ ∃ e, expand "{1..1025}".toList = .error e := by
  have hnested := (expand_render (concat [literal 'a' rfl, choice (literal 'b' rfl)
    (numbers ⟨false, ['3'], by decide, List.all_eq_true.mp rfl, by decide⟩
      ⟨false, ['1'], by decide, List.all_eq_true.mp rfl, by decide⟩ none) []])).1 (by decide)
  have hlong := (expand_render (numbers
    ⟨false, ['1'], by decide, List.all_eq_true.mp rfl, by decide⟩
    ⟨false, ['1', '0', '2', '5'], by decide, List.all_eq_true.mp rfl, by decide⟩ none)).2
    (by rw [denote, List.length_map, length_between]; decide)
  exact ⟨hnested, hlong⟩

end BraceTree

end ImportPolicy.Glob
