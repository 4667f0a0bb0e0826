import Mathlib.Data.Prod.Lex
import Mathlib.Order.Interval.Set.Defs
import ImportPolicy.Proofs.Report.Places
import ImportPolicy.Proofs.Text.LineStarts

/-!
# Both ways of numbering lines agree

Reports number lines by counting line feeds before an offset (`lineColumn`);
sources are read with a table of where their lines start (`Lines.starts`).
The one goes from an offset to a line and a column, the other from a line and
a column to an offset, and on a text without carriage returns, as any text
that was read from a file, they are inverse to each other
(`isPlaceOf_lineColumn_iff`).

That a line and a column lead back by the rows of the text is known already
(`designates_lineColumn`). What is missing is that the lines of the table are
these rows, each with its line feed (`flatten_take_split`). A place is then
determined by its offset because lines that start later do not reach back.
-/

namespace ImportPolicy.Report

open Text.Lines (split starts)

variable {text : List Char}

/-! ## Rows and lines -/

/-- Without carriage returns the lines are the rows, each with the line feed
behind it: there are as many of both, and the first few make up the same
stretch of the text. -/
theorem lines_of_rows (h : '\r' ∉ text) :
    (split text).length = (rows text).length
    ∧ ∀ i < (rows text).length,
      ((split text).take i).flatten = ((rows text).take i).flatMap (· ++ ['\n']) := by
  induction text with
  | nil => exact ⟨rfl, fun i hi => by rw [Nat.lt_one_iff.mp hi]; rfl⟩
  | cons c rest ih =>
    have hreturn : c ≠ '\r' := (List.ne_of_not_mem_cons h).symm
    obtain ⟨hlength, htake⟩ := ih (List.not_mem_of_not_mem_cons h)
    by_cases hfeed : c = '\n'
    · have hrows : rows (c :: rest) = [] :: rows rest := by
        rw [hfeed]
        exact Text.pieces_cons_self '\n' rest
      have hsplit : split (c :: rest) = ['\n'] :: split rest := by
        rw [split, if_pos (.inl hfeed), hfeed]
        exact fun _ hc => absurd hc hreturn
      rw [hrows, hsplit]
      refine ⟨by rw [List.length_cons, List.length_cons, hlength], fun i hi => ?_⟩
      cases i with
      | zero => rfl
      | succ i =>
        rw [List.take_succ_cons, List.take_succ_cons, List.flatten_cons, List.flatMap_cons,
          htake i (Nat.lt_of_succ_lt_succ hi)]
        rfl
    · obtain ⟨line, lines, hsplit, hline⟩ := Text.Lines.split_cons_of_ne hfeed hreturn rest
      obtain ⟨row, others, hrows, hrow⟩ := Text.pieces_cons_of_ne hfeed rest
      change rows rest = _ at hrows
      change rows (c :: rest) = _ at hrow
      rw [hsplit, hrows] at hlength htake
      rw [hline, hrow]
      refine ⟨hlength, fun i hi => ?_⟩
      cases i with
      | zero => rfl
      | succ i =>
        -- the character joins the first line as it joins the first row
        have hmore := congrArg (c :: ·) (htake (i + 1) hi)
        simpa using hmore

/-- The line that holds a row starts behind the rows before it. -/
theorem getElem?_starts_eq (h : '\r' ∉ text) {i : Nat} (hi : i < (rows text).length) :
    (starts text)[i]? = some (((rows text).take i).flatMap (· ++ ['\n'])).length := by
  obtain ⟨hlength, htake⟩ := lines_of_rows h
  rw [Text.Lines.getElem?_starts (by rw [Text.Lines.length_starts, hlength]; exact hi), htake i hi]

/-! ## Places -/

/-- A line and a column, counted from one, are the place of an offset by the
table of line starts: the line is in the table, it starts as far before the
offset as the column says, and the next line, if there is one, starts behind
the offset. -/
structure IsPlaceOf (text : List Char) (place : Nat × Nat) (offset : Nat) : Prop where
  line_pos : 1 ≤ place.1
  line_le : place.1 ≤ (starts text).length
  column_pos : 1 ≤ place.2
  start : ∃ start, (starts text)[place.1 - 1]? = some start ∧ start + (place.2 - 1) = offset
  next : place.1 = (starts text).length
    ∨ ∃ next, (starts text)[place.1]? = some next ∧ offset < next

/-- What a report designates is a place by the table. -/
theorem Designates.isPlaceOf (h : '\r' ∉ text) {line column offset : Nat}
    (hplace : Designates text line column offset) : IsPlaceOf text (line, column) offset := by
  obtain ⟨row, hrow, hcolumn, hoffset, -⟩ := hplace.row
  have hline := hplace.line_pos
  obtain ⟨hlt, -⟩ := List.getElem?_eq_some_iff.mp hrow
  have hlength : (starts text).length = (rows text).length := by
    rw [Text.Lines.length_starts, (lines_of_rows h).1]
  refine ⟨hline, by dsimp only; omega, hplace.column_pos, ⟨_, getElem?_starts_eq h hlt, hoffset⟩, ?_⟩
  by_cases hlast : line = (starts text).length
  · exact .inl hlast
  · have hnext : line < (rows text).length := by omega
    refine .inr ⟨_, getElem?_starts_eq h hnext, ?_⟩
    -- the next line starts behind the whole row and its line feed
    have hrows : (rows text).take line = (rows text).take (line - 1) ++ [row] := by
      obtain ⟨k, rfl⟩ : ∃ k, line = k + 1 := ⟨line - 1, by omega⟩
      rw [List.take_add_one, ← Nat.add_sub_cancel k 1, hrow, Nat.add_sub_cancel]
      rfl
    rw [hrows, List.flatMap_append, List.length_append, List.flatMap_singleton,
      List.length_append, List.length_singleton]
    omega

/-- The lines before a later line end before it starts. -/
theorem starts_le {i j a b : Nat} (hij : i ≤ j) (ha : (starts text)[i]? = some a)
    (hb : (starts text)[j]? = some b) : a ≤ b := by
  have hi := (List.getElem?_eq_some_iff.mp ha).1
  have hj := (List.getElem?_eq_some_iff.mp hb).1
  rw [Text.Lines.getElem?_starts hi] at ha
  rw [Text.Lines.getElem?_starts hj] at hb
  cases ha
  cases hb
  exact Text.Lines.length_flatten_take_le (split text) hij

/-- The place of a later offset is not on an earlier line. -/
theorem IsPlaceOf.line_mono {place other : Nat × Nat} {a b : Nat} (ha : IsPlaceOf text place a)
    (hb : IsPlaceOf text other b) (hab : a ≤ b) : place.1 ≤ other.1 := by
  by_contra hlt
  obtain ⟨start, hstart, hoffset⟩ := ha.start
  have hline := ha.line_le
  obtain hlast | ⟨next, hnext, hbehind⟩ := hb.next
  · omega
  · have hle := starts_le (by omega) hnext hstart
    omega

/-- **An offset has one place by the table.** -/
theorem IsPlaceOf.unique {place other : Nat × Nat} {offset : Nat}
    (h : IsPlaceOf text place offset) (hother : IsPlaceOf text other offset) : place = other := by
  have hline : place.1 = other.1 := Nat.le_antisymm (h.line_mono hother (Nat.le_refl offset))
    (hother.line_mono h (Nat.le_refl offset))
  obtain ⟨start, hstart, hoffset⟩ := h.start
  obtain ⟨start', hstart', hoffset'⟩ := hother.start
  rw [hline, hstart', Option.some.injEq] at hstart
  have hcolumn := h.column_pos
  have hcolumn' := hother.column_pos
  exact Prod.ext hline (by omega)

/-- Places grow with their offsets, first by the line and then by the
column. -/
theorem IsPlaceOf.lt {place other : Nat × Nat} {a b : Nat} (ha : IsPlaceOf text place a)
    (hb : IsPlaceOf text other b) (hab : a < b) : toLex place < toLex other := by
  rw [Prod.Lex.toLex_lt_toLex]
  obtain hline | hline := Nat.lt_or_eq_of_le (ha.line_mono hb (Nat.le_of_lt hab))
  · exact .inl hline
  · refine .inr ⟨hline, ?_⟩
    obtain ⟨start, hstart, hoffset⟩ := ha.start
    obtain ⟨start', hstart', hoffset'⟩ := hb.start
    rw [hline, hstart', Option.some.injEq] at hstart
    omega

/-- Offsets outside the text have the place of the nearest end. -/
theorem lineColumn_outside (text : List Char) (offset : Int) :
    (offset < 0 → lineColumn text offset = lineColumn text 0)
    ∧ ((text.length : Int) < offset → lineColumn text offset = lineColumn text text.length) := by
  have hclamp {a b : Int} (h : clamp text.length a = clamp text.length b) :
      lineColumn text a = lineColumn text b := by
    unfold lineColumn
    rw [h]
  refine ⟨fun h => hclamp ?_, fun h => hclamp ?_⟩
  · unfold clamp
    omega
  · unfold clamp
    omega

/-- **Both ways of numbering lines are inverse to each other.** For every text
without carriage returns, the place that a report gives for an offset of the
text is the one place of that offset by the table of line starts. On these
offsets the places grow strictly, by line and then by column, and every other
number has the place of the nearest end. -/
theorem isPlaceOf_lineColumn_iff (h : '\r' ∉ text) :
    (∀ offset ≤ text.length, ∀ place,
      IsPlaceOf text place offset ↔ place = lineColumn text offset)
    ∧ StrictMonoOn (fun offset : Nat => toLex (lineColumn text offset)) (Set.Iic text.length)
    ∧ ∀ offset : Int, (offset < 0 → lineColumn text offset = lineColumn text 0)
      ∧ ((text.length : Int) < offset → lineColumn text offset = lineColumn text text.length) := by
  have hplace {offset : Nat} (hoffset : offset ≤ text.length) :
      IsPlaceOf text (lineColumn text offset) offset :=
    (designates_lineColumn hoffset).isPlaceOf h
  refine ⟨fun offset hoffset place => ⟨fun hother => hother.unique (hplace hoffset), ?_⟩, ?_,
    lineColumn_outside text⟩
  · rintro rfl
    exact hplace hoffset
  · intro a ha b hb hab
    exact (hplace ha).lt (hplace hb) hab

/-- A text with an empty line in it and one at its end. -/
def blankLines : List Char := "a\n\nbc\n".toList

/-- The end of this text is on its fourth line, and so is every larger number;
the line feed of the empty line is on the second. -/
theorem isPlaceOf_lineColumn_iff_blank :
    '\r' ∉ blankLines
    ∧ (∀ place, IsPlaceOf blankLines place 6 ↔ place = (4, 1))
    ∧ (∀ place, IsPlaceOf blankLines place 2 ↔ place = (2, 1))
    ∧ lineColumn blankLines 9 = (4, 1) ∧ lineColumn blankLines (-1) = (1, 1) := by
  have hreturn : '\r' ∉ blankLines := by decide
  obtain ⟨hplace, -, houtside⟩ := isPlaceOf_lineColumn_iff hreturn
  refine ⟨hreturn, fun place => hplace 6 (by decide) place,
    fun place => hplace 2 (by decide) place, ?_, ?_⟩
  · exact ((houtside 9).2 (by decide)).trans (by decide)
  · exact ((houtside (-1)).1 (by decide)).trans (by decide)

end ImportPolicy.Report
