import ImportPolicy.Source.Imports

/-!
# Texts that start with a byte order mark

A byte order mark is no part of a source text. It starts no identifier, so
the reader stops before the first token (`Scan.read_mark`); the grammar looks
at that token before it does anything else, and therefore refuses the whole
text (`parse_mark`).

`imports` leaves *all* the marks before a text out. It hands the rest to the
parser and moves the places of what is found there by the number of marks
(`imports_eq`).
-/

namespace ImportPolicy.Text.Ranges

/-! ## Code points outside a table -/

/-- A code point that no line of a table covers is outside of its ranges. -/
theorem contains_read_eq_false {code : Nat} {lines : List String}
    (h : ∀ line ∈ lines, contains ⟨(wordsOf line).map readSpan⟩ code = false) :
    (read lines).contains code = false := by
  induction lines with
  | nil => rfl
  | cons line lines ih =>
    have hlines := ih fun line hline => h line (List.mem_cons_of_mem _ hline)
    have hline := h line List.mem_cons_self
    simp only [contains, read, List.flatMap_cons, List.map_append, List.any_append]
      at hline hlines ⊢
    rw [hline, hlines]
    rfl

/-- A line may be read from its characters, which a proof can evaluate
faster than it can take a string apart. -/
theorem contains_spelled {code : Nat} {chars : List Char}
    (h : contains ⟨((pieces (· == ' ') chars).filter (· ≠ [])).map readSpan⟩ code = false) :
    contains ⟨(wordsOf (String.ofList chars)).map readSpan⟩ code = false := by
  rw [wordsOf, String.toList_ofList]
  exact h

end ImportPolicy.Text.Ranges

namespace ImportPolicy.Occurrence

theorem shift_zero (o : Occurrence) : o.shift 0 = o := by
  unfold shift
  split <;> simp

theorem shift_shift (o : Occurrence) (m n : Nat) : (o.shift m).shift n = o.shift (m + n) := by
  unfold shift isKnown
  by_cases hknown : 0 ≤ o.start
  · have hmoved : 0 ≤ o.start + m := by omega
    simp [hknown, hmoved, Int.add_assoc]
  · simp [hknown]

end ImportPolicy.Occurrence

namespace ImportPolicy.Source

/-! ## Reading characters -/

namespace Cursor
variable {c : Cursor} {ch : Char} {rest : List Char}

@[simp] theorem rest_opened (c : Cursor) : c.opened.rest = c.rest := by
  unfold opened
  split <;> rfl

@[simp] theorem index_opened (c : Cursor) : c.opened.index = c.index := by
  unfold opened
  split <;> rfl

theorem next?_of_cons (h : c.rest = ch :: rest) :
    ∃ c', c.next? = some (ch, c') ∧ c'.rest = rest ∧ c'.index = c.index + 1 := by
  unfold next?
  dsimp only
  rw [rest_opened, h]
  exact ⟨_, rfl, rfl, congrArg (· + 1) (index_opened c)⟩

theorem next?_of_nil (h : c.rest = []) : c.next? = none := by
  unfold next?
  dsimp only
  rw [rest_opened, h]

theorem index_le_skip (c : Cursor) (n : Nat) : c.index ≤ (c.skip n).index := by
  induction n generalizing c with
  | zero => exact Nat.le_refl _
  | succ n ih =>
    rw [skip]
    cases hrest : c.rest with
    | nil => simp only [next?_of_nil hrest, Nat.le_refl]
    | cons ch rest =>
      obtain ⟨c', hnext, -, hindex⟩ := next?_of_cons hrest
      rw [hnext]
      exact Nat.le_trans (by omega) (ih c')

/-- Reading while a test holds takes the first character if it satisfies the test. -/
theorem index_lt_skipWhile {test : Char → Bool} (h : c.rest = ch :: rest) (hch : test ch = true) :
    c.index < (c.skipWhile test).index := by
  obtain ⟨c', hnext, -, hindex⟩ := next?_of_cons h
  have hskip : c.skipWhile test = c'.skip (rest.takeWhile test).length := by
    unfold skipWhile
    rw [h, List.takeWhile_cons_of_pos hch, List.length_cons, skip, hnext]
  have hle := index_le_skip c' (rest.takeWhile test).length
  rw [hskip]
  omega

theorem skipWhile_of_neg {test : Char → Bool} (h : c.rest = ch :: rest) (hch : ¬ test ch = true) :
    c.skipWhile test = c := by
  unfold skipWhile
  rw [h, List.takeWhile_cons_of_neg hch]
  rfl

theorem sees_cons {test : Char → Bool} (h : c.rest = ch :: rest) : c.sees test = test ch := by
  unfold sees
  rw [h]

end Cursor

/-! ## The first token -/

namespace Scan
variable {s : State} {c start : Cursor} {rest : List Char}

/-- A name cannot start with a wide character that starts no identifier. -/
theorem name_stray {ch : Char} (h : start.rest = ch :: rest) (hwide : ch.toNat ≥ 128)
    (hch : Text.isIdentifierStart ch = false) : ∃ stop, name s start = .error stop := by
  have hpart : isNamePart ch = true := by simp [isNamePart, isNameStart, hwide]
  have hlength : ∃ n, (start.skipWhile isNamePart).index - start.index = n + 1 :=
    Nat.exists_eq_succ_of_ne_zero (Nat.sub_ne_zero_of_lt (Cursor.index_lt_skipWhile h hpart))
  obtain ⟨n, hn⟩ := hlength
  obtain ⟨c', hnext, -⟩ := Cursor.next?_of_cons h
  have hany : ((start.skipWhile isNamePart).textFrom start).toList.any (·.toNat ≥ 128) = true := by
    rw [Cursor.textFrom, hn, h, String.toList_ofList, List.take_succ_cons, List.any_cons]
    simp [hwide]
  have hstray : strayPart (n + 1) start true = some (c', ch) := by
    rw [strayPart, hnext]
    simp [hch]
  unfold name
  dsimp only
  rw [hany, if_pos rfl, hn, hstray]
  exact ⟨_, rfl⟩

theorem isIdentifierStart_mark : Text.isIdentifierStart byteOrderMark = false := by
  show Text.identifierStarts.contains 0xfeff = false
  refine Text.Ranges.contains_read_eq_false ?_
  -- line by line: each is small enough to be read inside a proof
  repeat refine List.forall_mem_cons.2 ⟨Text.Ranges.contains_spelled (by decide +kernel), ?_⟩
  exact List.forall_mem_nil _

theorem quoteAt_mark (h : start.rest = byteOrderMark :: rest) : quoteAt start = none := by
  have hletters : (start.rest.take 2).takeWhile Char.isAlpha = [] := by
    rw [h, List.take_succ_cons]
    exact List.takeWhile_cons_of_neg (by decide)
  unfold quoteAt
  dsimp only
  rw [hletters, List.length_nil, Cursor.skip, Cursor.sees_cons h]
  rfl

theorem visible_mark (h : start.rest = byteOrderMark :: rest) (fuel : Nat) :
    ∃ stop, visible s fuel start byteOrderMark = .error stop := by
  obtain ⟨stop, hname⟩ := @name_stray s start rest _ h (by decide) isIdentifierStart_mark
  refine ⟨stop, ?_⟩
  unfold visible
  dsimp only
  rw [quoteAt_mark h]
  dsimp only
  rw [if_pos (by decide), hname]

theorem inLine_mark (h : c.rest = byteOrderMark :: rest) (blank : Bool) (fuel : Nat) :
    ∃ stop, inLine s blank (fuel + 1) c = .error stop := by
  have hskip : ({ c with held := false } : Cursor).skipWhile
      (fun ch => ch == ' ' || ch == '\t' || ch == '\x0c') = { c with held := false } :=
    Cursor.skipWhile_of_neg h (by decide)
  have hrest : ({ c with held := false } : Cursor).opened.rest = byteOrderMark :: rest := by
    rw [Cursor.rest_opened]
    exact h
  obtain ⟨c', hnext, -⟩ := @Cursor.next?_of_cons
    { ({ c with held := false } : Cursor).opened with held := true } _ _ hrest
  obtain ⟨stop, hstop⟩ := @visible_mark s
    { ({ c with held := false } : Cursor).opened with held := true } rest hrest s.limit
  refine ⟨stop, ?_⟩
  unfold inLine
  dsimp only
  rw [hskip, Cursor.sees_cons hrest, if_neg (by decide), hnext]
  show (visible s s.limit _ byteOrderMark >>= _) = _
  rw [hstop]
  rfl

theorem indentation_mark (h : c.rest = byteOrderMark :: rest) (fuel : Nat) (i : Indentation) :
    indentation s (fuel + 1) c i = .ok (c.opened, i) := by
  have hrest : c.opened.rest = byteOrderMark :: rest := (Cursor.rest_opened c).trans h
  obtain ⟨c', hnext, -⟩ := Cursor.next?_of_cons hrest
  rw [indentation, hnext]
  rfl

theorem compareIndent_flush (h : s.indents = [(0, 0)]) (c : Cursor) :
    compareIndent s c ⟨0, 0, 0⟩ = .ok { s with cursor := c } := by
  unfold compareIndent
  dsimp only
  rw [h]
  rfl

/-- The mark does not count as indentation, and no token can start with it. -/
theorem next_mark (text : List Char) (line fuel limit : Nat) :
    ∃ stop, next (fuel + 1)
      { limit := limit + 1, cursor := Cursor.start (byteOrderMark :: text) line, lineStart := true,
        indents := [(0, 0)], opened := 0, closed := 0, brackets := [] } = .error stop := by
  have hopened : (Cursor.start (byteOrderMark :: text) line).opened.rest = byteOrderMark :: text :=
    Cursor.rest_opened _
  have hindent (s : State) :
      indentation s (limit + 1) (Cursor.start (byteOrderMark :: text) line) ⟨0, 0, 0⟩
        = .ok ((Cursor.start (byteOrderMark :: text) line).opened, ⟨0, 0, 0⟩) :=
    indentation_mark rfl limit _
  obtain ⟨stop, hstop⟩ := @inLine_mark
    { limit := limit + 1, cursor := (Cursor.start (byteOrderMark :: text) line).opened,
      lineStart := false, indents := [(0, 0)], opened := 0, closed := 0, brackets := [] }
    _ _ hopened false limit
  refine ⟨stop, ?_⟩
  rw [next]
  dsimp only
  rw [if_pos rfl, Cursor.start, ← Cursor.start, hindent]
  simp only [bind, Except.bind, pure, Except.pure]
  rw [if_neg (by rw [Cursor.sees_cons hopened]; decide), if_pos List.isEmpty_nil,
    compareIndent_flush rfl]
  dsimp only
  rw [if_neg (Nat.lt_irrefl 0), if_neg (Nat.lt_irrefl 0), hstop]

/-- A text that starts with a byte order mark has no token. -/
theorem read_mark (text : List Char) (line : Nat) :
    ∃ stop, read (byteOrderMark :: text) line = { tokens := #[], stop := some stop } := by
  obtain ⟨stop, hstop⟩ :=
    next_mark text line ((byteOrderMark :: text).length + 1) (byteOrderMark :: text).length
  refine ⟨stop, ?_⟩
  rw [read, loop, hstop]

end Scan

/-! ## The grammar -/

namespace Parser
variable {α β : Type} {i : Input} {n : Nat} {s : Store}

/-- Where a parser halts, what follows it is not read. -/
theorem bind_halt {p : Parser α} {e : Raised} {s' : Store} (h : p i n s = .halt e s')
    (f : α → Parser β) : (p >>= f) i n s = .halt e s' := by
  show Parser.bind p f i n s = _
  rw [Parser.bind, h]

theorem orElse_halt {p : Parser α} {e : Raised} {s' : Store} (h : p i n s = .halt e s')
    (q : Parser α) : (p <|> q) i n s = .halt e s' := by
  show Parser.orElse p (fun _ => q) i n s = _
  rw [Parser.orElse, h]

theorem optional_halt {p : Parser α} {e : Raised} {s' : Store} (h : p i n s = .halt e s') :
    optional p i n s = .halt e s' := by
  rw [optional, h]

end Parser

namespace Grammar

/-- The grammar looks at the first token before anything else, whatever its
rules refer to. -/
theorem file_halt (self : Rule → Parser Tree) {i : Input} {stop : Stop} (n : Nat) (s : Store)
    (h : i.scan = { tokens := #[], stop := some stop }) :
    ∃ e, file self i n s = .halt e s := by
  let e : Raised := { cause := stop.cause, site := stop.site, scanned := true }
  have hpeek : Parser.peek i n s = .halt e s := by
    rw [Parser.peek, h]
    rfl
  have hcompound : compoundStatement self i n s = .halt e s := Parser.bind_halt hpeek _
  have hstatement : statement self i n s = .halt e s :=
    Parser.orElse_halt (Parser.bind_halt hcompound _) _
  have hmany : Parser.many1 (statement self) i n s = .halt e s := Parser.bind_halt hstatement _
  have hstatements : statements self i n s = .halt e s :=
    Parser.bind_halt (p := Parser.many1 (statement self)) hmany
      fun items => Parser.build n .suite items.flatten
  exact ⟨e, Parser.bind_halt (Parser.optional_halt hstatements) _⟩

theorem parseWith_halt {goal : Parser Tree} {i : Input} {e : Raised} {s : Store}
    (text : List Char) (line : Nat)
    (h : goal { i with diagnosing := false } 0 { reached := 0, memo := {} } = .halt e s) :
    ∃ fault, parseWith goal text line i = .error fault := by
  unfold parseWith
  dsimp only
  rw [h]
  exact ⟨_, rfl⟩

end Grammar

theorem unifyLines_mark (text : List Char) :
    unifyLines (byteOrderMark :: text) = byteOrderMark :: unifyLines text := by
  cases text <;> rfl

/-- No text that starts with a byte order mark is accepted. -/
theorem parse_mark [CharacterNames] (text : List Char) :
    ∃ fault, parse (String.ofList (byteOrderMark :: text)) = .error fault := by
  rw [parse, String.toList_ofList]
  split
  · exact ⟨_, rfl⟩
  · obtain ⟨stop, hstop⟩ := Scan.read_mark (unifyLines text) 1
    dsimp only
    rw [unifyLines_mark, hstop]
    obtain ⟨depth, hdepth⟩ :
        ∃ depth, depthFor (byteOrderMark :: unifyLines text).length = depth + 1 :=
      Nat.exists_eq_succ_of_ne_zero (by unfold depthFor; omega)
    obtain ⟨e, he⟩ := Grammar.file_halt (Grammar.run depth)
      (i := ⟨inferInstance, { tokens := #[], stop := some stop }, none, false⟩)
      0 { reached := 0, memo := {} } rfl
    rw [hdepth]
    exact Grammar.parseWith_halt _ 1 he

/-! ## The imports of a marked text -/

/-- A text without the byte order marks before it. -/
def unmarked (text : List Char) : List Char := text.dropWhile (· = byteOrderMark)

/-- How many byte order marks stand before a text. -/
def marks (text : List Char) : Nat := (text.takeWhile (· = byteOrderMark)).length

/-- The imports of a text are those of the text behind its byte order marks,
moved by the number of marks. -/
theorem imports_eq [CharacterNames] (text : List Char) :
    imports text = (importsOf (unmarked text)).map (·.shift (marks text)) := by
  induction text with
  | nil => exact (List.map_id'' Occurrence.shift_zero _).symm
  | cons c rest ih =>
    by_cases hmark : c = byteOrderMark
    · have hunmarked : unmarked (c :: rest) = unmarked rest :=
        List.dropWhile_cons_of_pos (by simpa using hmark)
      have hmarks : marks (c :: rest) = marks rest + 1 := by
        rw [marks, List.takeWhile_cons_of_pos (by simpa using hmark)]
        rfl
      rw [imports, if_pos hmark, ih, hunmarked, hmarks, List.map_map]
      exact List.map_congr_left fun o _ => o.shift_shift (marks rest) 1
    · have hunmarked : unmarked (c :: rest) = c :: rest :=
        List.dropWhile_cons_of_neg (by simpa using hmark)
      have hmarks : marks (c :: rest) = 0 := by
        rw [marks, List.takeWhile_cons_of_neg (by simpa using hmark)]
        rfl
      rw [imports, if_neg hmark, hunmarked, hmarks]
      exact (List.map_id'' Occurrence.shift_zero _).symm

/-- A text that the parser refuses has no imports. -/
theorem importsOf_of_error [CharacterNames] {text : List Char} {fault : Fault}
    (h : parse (String.ofList text) = .error fault) : importsOf text = [] := by
  rw [importsOf, h]

end ImportPolicy.Source
