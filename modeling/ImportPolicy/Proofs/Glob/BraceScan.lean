import ImportPolicy.Proofs.Glob.Sequence

/-!
# What the scanners pass over

Three scanners read a pattern: one looks for the brace that closes a group,
one for the commas between its parts, one for the first group that can be
expanded. A text is *passed over* by a scanner if the scanner, whatever
stands behind the text and however deep it is, finds in the whole what it
finds behind the text. These properties are stated for all that follows, so
they compose: a concatenation is passed over if its pieces are, and a group
in braces is passed over by the first two if its body is.
-/

namespace ImportPolicy.Glob

/-- The search for a closing brace passes over a text. -/
def Closed (text : List Char) : Prop :=
  ∀ depth rest, splitClose depth (text ++ rest)
    = (splitClose depth rest).map fun (body, behind) => (text ++ body, behind)

/-- The search for commas passes over a text at the given depth and below. -/
def UncutFrom (least : Int) (text : List Char) : Prop :=
  ∀ depth, least ≤ depth → ∀ rest,
    splitTop depth (text ++ rest) = extendFirst text (splitTop depth rest)

/-- The search for a group passes over a text. -/
def Settled (text : List Char) : Prop :=
  ∀ rest, findGroup (text ++ rest) = Option.map (Group.after text) <$> findGroup rest

/-! ## Composition -/

theorem closed_nil : Closed [] := by
  intro depth rest
  simp

theorem Closed.append {a b : List Char} (ha : Closed a) (hb : Closed b) : Closed (a ++ b) := by
  intro depth rest
  rw [List.append_assoc, ha, hb, Option.map_map]
  simp [Function.comp_def]

theorem extendFirst_extendFirst (a b : List Char) (parts : List (List Char)) :
    extendFirst a (extendFirst b parts) = extendFirst (a ++ b) parts := by
  cases parts with
  | nil => rfl
  | cons part more => simp [extendFirst]

theorem splitTop_ne_nil (depth : Int) (body : List Char) : splitTop depth body ≠ [] := by
  have hextend : ∀ chars parts, extendFirst chars parts ≠ [] := by
    intro chars parts
    cases parts <;> simp [extendFirst]
  unfold splitTop
  split
  · simp
  · exact hextend _ _
  · split
    · exact hextend _ _
    split
    · exact hextend _ _
    split
    · simp
    · exact hextend _ _

theorem uncutFrom_nil (least : Int) : UncutFrom least [] := by
  intro depth _ rest
  obtain ⟨part, more, h⟩ := List.exists_cons_of_ne_nil (splitTop_ne_nil depth rest)
  rw [List.nil_append, h]
  rfl

theorem UncutFrom.append {least : Int} {a b : List Char} (ha : UncutFrom least a)
    (hb : UncutFrom least b) : UncutFrom least (a ++ b) := by
  intro depth hdepth rest
  rw [List.append_assoc, ha depth hdepth, hb depth hdepth, extendFirst_extendFirst]

theorem UncutFrom.mono {least more : Int} (h : least ≤ more) {text : List Char}
    (htext : UncutFrom least text) : UncutFrom more text :=
  fun depth hdepth rest => htext depth (h.trans hdepth) rest

theorem Group.after_after (a b : List Char) (g : Group) :
    (g.after b).after a = g.after (a ++ b) := by
  simp [Group.after]

theorem settled_nil : Settled [] := by
  intro rest
  have hafter : Group.after [] = id := by
    funext g
    rfl
  rw [hafter, Option.map_id]
  exact (id_map _).symm

theorem Settled.append {a b : List Char} (ha : Settled a) (hb : Settled b) :
    Settled (a ++ b) := by
  intro rest
  rw [List.append_assoc, ha, hb]
  cases findGroup rest with
  | error e => rfl
  | ok found =>
    show Except.ok ((found.map _).map _) = Except.ok (found.map _)
    rw [Option.map_map]
    exact congrArg (fun f => Except.ok (found.map f)) (funext (Group.after_after a b))

/-! ## Characters -/

theorem closed_singleton {c : Char} (hback : c ≠ '\\') (hopen : c ≠ '{') (hclose : c ≠ '}') :
    Closed [c] := by
  intro depth rest
  rw [List.singleton_append]
  conv_lhs => unfold splitClose
  split
  all_goals simp_all

theorem splitTop_cons {c : Char} (hback : c ≠ '\\') (depth : Int) (rest : List Char) :
    splitTop depth (c :: rest)
      = if c = '{' then extendFirst [c] (splitTop (depth + 1) rest)
        else if c = '}' then extendFirst [c] (splitTop (depth - 1) rest)
        else if c = ',' ∧ depth = 0 then [] :: splitTop depth rest
        else extendFirst [c] (splitTop depth rest) := by
  conv_lhs => unfold splitTop
  split
  all_goals simp_all

theorem findGroup_cons {c : Char} (hback : c ≠ '\\') (hopen : c ≠ '{') (rest : List Char) :
    findGroup (c :: rest) = Option.map (Group.after [c]) <$> findGroup rest := by
  conv_lhs => unfold findGroup
  split
  all_goals simp_all
  rfl

/-- A brace that is never closed is passed over. -/
theorem findGroup_unclosed {rest : List Char} (h : splitClose 0 rest = none) :
    findGroup ('{' :: rest) = Option.map (Group.after ['{']) <$> findGroup rest := by
  rw [findGroup, h, ok_bind]
  cases findGroup rest with
  | error e => rfl
  | ok found => rfl

/-- A brace that is closed opens a group if its body has parts, and is passed
over if not. -/
theorem findGroup_closed {rest body behind : List Char}
    (h : splitClose 0 rest = some (body, behind)) :
    findGroup ('{' :: rest) = partsOf body >>= fun found => match found with
      | some parts => .ok (some ⟨[], parts, behind⟩)
      | none => Option.map (Group.after ['{']) <$> findGroup rest := by
  rw [findGroup, h]
  dsimp only
  obtain e | ⟨⟩ | parts := partsOf body
  · rfl
  · cases findGroup rest with
    | error e => rfl
    | ok found => rfl
  · rfl

theorem isPlain_iff {c : Char} :
    isPlain c = true ↔ c ≠ '\\' ∧ c ≠ '{' ∧ c ≠ '}' ∧ c ≠ ',' := by
  unfold isPlain
  exact decide_eq_true_iff

theorem closed_of_isPlain {c : Char} (h : isPlain c = true) : Closed [c] := by
  obtain ⟨hback, hopen, hclose, -⟩ := isPlain_iff.mp h
  exact closed_singleton hback hopen hclose

theorem uncutFrom_of_isPlain {c : Char} (h : isPlain c = true) : UncutFrom 0 [c] := by
  obtain ⟨hback, hopen, hclose, hcomma⟩ := isPlain_iff.mp h
  intro depth _ rest
  rw [List.singleton_append, splitTop_cons hback, if_neg hopen, if_neg hclose,
    if_neg (fun hc => hcomma hc.1)]

theorem settled_of_isPlain {c : Char} (h : isPlain c = true) : Settled [c] := by
  obtain ⟨hback, hopen, -⟩ := isPlain_iff.mp h
  exact findGroup_cons hback hopen

theorem closed_escape (c : Char) : Closed ['\\', c] := by
  intro depth rest
  rw [List.cons_append, List.singleton_append, splitClose]
  rfl

theorem uncutFrom_escape (least : Int) (c : Char) : UncutFrom least ['\\', c] := by
  intro depth _ rest
  rw [List.cons_append, List.singleton_append, splitTop]

theorem settled_escape (c : Char) : Settled ['\\', c] := by
  intro rest
  rw [List.cons_append, List.singleton_append, findGroup]
  rfl

/-- What all three scanners pass over at the top level. -/
structure Inert (text : List Char) : Prop where
  /-- The search for a closing brace passes over it. -/
  closed : Closed text
  /-- The search for commas passes over it. -/
  uncut : UncutFrom 0 text
  /-- The search for a group passes over it. -/
  settled : Settled text

theorem Inert.append {a b : List Char} (ha : Inert a) (hb : Inert b) : Inert (a ++ b) :=
  ⟨ha.closed.append hb.closed, ha.uncut.append hb.uncut, ha.settled.append hb.settled⟩

theorem inert_of_isPlain {c : Char} (h : isPlain c = true) : Inert [c] :=
  ⟨closed_of_isPlain h, uncutFrom_of_isPlain h, settled_of_isPlain h⟩

/-- A text of characters that mean nothing to braces is passed over. -/
theorem inert_of_forall_isPlain {text : List Char} (h : ∀ c ∈ text, isPlain c = true) :
    Inert text := by
  induction text with
  | nil => exact ⟨closed_nil, uncutFrom_nil 0, settled_nil⟩
  | cons c more ih =>
    exact (inert_of_isPlain (h c List.mem_cons_self)).append
      (ih (fun d hd => h d (List.mem_cons_of_mem _ hd)))

/-! ## Groups -/

/-- What holds of the empty text and of appended texts holds of texts put
together, if it holds of each. -/
theorem flatten_induction {P : List Char → Prop} (hnil : P [])
    (happend : ∀ a b, P a → P b → P (a ++ b)) {parts : List (List Char)}
    (h : ∀ part ∈ parts, P part) : P parts.flatten := by
  induction parts with
  | nil => exact hnil
  | cons part more ih =>
    exact happend _ _ (h part List.mem_cons_self)
      (ih (fun other hother => h other (List.mem_cons_of_mem _ hother)))

/-- What holds of the empty text and of appended texts holds of parts with a
separator between them, if it holds of the parts and of the separator. -/
theorem intercalate_induction {P : List Char → Prop} {separator : List Char} (hnil : P [])
    (happend : ∀ a b, P a → P b → P (a ++ b)) (hseparator : P separator)
    {parts : List (List Char)} (h : ∀ part ∈ parts, P part) :
    P (List.intercalate separator parts) := by
  induction parts with
  | nil => exact hnil
  | cons part more ih =>
    have hpart := h part List.mem_cons_self
    cases more with
    | nil =>
      rw [List.intercalate_singleton]
      exact hpart
    | cons next rest =>
      rw [List.intercalate_cons_cons]
      exact happend _ _ (happend _ _ hpart hseparator)
        (ih (fun other hother => h other (List.mem_cons_of_mem _ hother)))

theorem closed_group {body : List Char} (h : Closed body) : Closed ('{' :: (body ++ ['}'])) := by
  intro depth rest
  rw [List.cons_append, List.append_assoc, List.singleton_append, splitClose, h, splitClose,
    Option.map_map, Option.map_map]
  simp [Function.comp_def]

theorem uncutFrom_group {body : List Char} (h : UncutFrom 1 body) :
    UncutFrom 0 ('{' :: (body ++ ['}'])) := by
  intro depth hdepth rest
  rw [List.cons_append, List.append_assoc, List.singleton_append,
    splitTop_cons (by decide), if_pos rfl, h (depth + 1) (by omega),
    splitTop_cons (by decide), if_neg (by decide), if_pos rfl, Int.add_sub_cancel,
    extendFirst_extendFirst, extendFirst_extendFirst]
  rfl

theorem closed_intercalate {parts : List (List Char)} (h : ∀ part ∈ parts, Closed part) :
    Closed (List.intercalate [','] parts) :=
  intercalate_induction closed_nil (fun _ _ => Closed.append)
    (closed_singleton (by decide) (by decide) (by decide)) h

theorem uncutFrom_comma : UncutFrom 1 [','] := by
  intro depth hdepth rest
  rw [List.singleton_append, splitTop_cons (by decide), if_neg (by decide), if_neg (by decide),
    if_neg (by omega)]

/-- Inside braces, commas cut nothing at the top level. -/
theorem uncutFrom_intercalate {parts : List (List Char)}
    (h : ∀ part ∈ parts, UncutFrom 0 part) : UncutFrom 1 (List.intercalate [','] parts) :=
  intercalate_induction (uncutFrom_nil 1) (fun _ _ => UncutFrom.append) uncutFrom_comma
    (fun part hpart => (h part hpart).mono (by decide))

theorem splitTop_uncut {part : List Char} (h : UncutFrom 0 part) : splitTop 0 part = [part] := by
  have hpart := h 0 (Int.le_refl 0) []
  rw [List.append_nil] at hpart
  rw [hpart, splitTop]
  simp [extendFirst]

/-- Parts joined by commas are split into just these parts. -/
theorem splitTop_intercalate {parts : List (List Char)} (hne : parts ≠ [])
    (h : ∀ part ∈ parts, UncutFrom 0 part) :
    splitTop 0 (List.intercalate [','] parts) = parts := by
  induction parts with
  | nil => exact absurd rfl hne
  | cons part more ih =>
    have hpart := h part List.mem_cons_self
    cases more with
    | nil =>
      rw [List.intercalate_singleton]
      exact splitTop_uncut hpart
    | cons next rest =>
      rw [List.intercalate_cons_cons, List.append_assoc, hpart 0 (Int.le_refl 0),
        List.singleton_append, splitTop_cons (by decide), if_neg (by decide),
        if_neg (by decide), if_pos ⟨rfl, rfl⟩,
        ih (List.cons_ne_nil _ _) (fun other hother => h other (List.mem_cons_of_mem _ hother))]
      simp [extendFirst]

theorem partsOf_intercalate {first second : List Char} {more : List (List Char)}
    (h : ∀ part ∈ first :: second :: more, UncutFrom 0 part) :
    partsOf (List.intercalate [','] (first :: second :: more))
      = .ok (some (first :: second :: more)) := by
  unfold partsOf
  rw [splitTop_intercalate (List.cons_ne_nil _ _) h]

/-- A body without a comma at the top level can only be a sequence. -/
theorem partsOf_uncut {body : List Char} (h : UncutFrom 0 body) :
    partsOf body = sequence body := by
  unfold partsOf
  rw [splitTop_uncut h]

theorem splitClose_group {body : List Char} (h : Closed body) (behind : List Char) :
    splitClose 0 (body ++ '}' :: behind) = some (body, behind) := by
  rw [h, splitClose]
  simp

/-- The first group behind a settled text, if it has parts. -/
theorem findGroup_of_parts {before body : List Char} (hbefore : Settled before)
    (hbody : Closed body) {parts : List (List Char)} (hparts : partsOf body = .ok (some parts))
    (behind : List Char) :
    findGroup (before ++ '{' :: (body ++ '}' :: behind)) = .ok (some ⟨before, parts, behind⟩) := by
  rw [hbefore, findGroup, splitClose_group hbody]
  simp only [hparts, ok_bind]
  show Except.ok (some (Group.after before ⟨[], parts, behind⟩)) = _
  simp [Group.after]

/-- The first group behind a settled text, if its body has a failure. -/
theorem findGroup_of_failure {before body : List Char} (hbefore : Settled before)
    (hbody : Closed body) {e : Failure} (hparts : partsOf body = .error e)
    (behind : List Char) :
    findGroup (before ++ '{' :: (body ++ '}' :: behind)) = .error e := by
  rw [hbefore, findGroup, splitClose_group hbody]
  simp only [hparts, error_bind]
  rfl

end ImportPolicy.Glob
