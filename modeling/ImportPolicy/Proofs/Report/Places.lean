import ImportPolicy.Report.Json
import ImportPolicy.Proofs.Text.Lines

/-!
# Lines and columns in reports

A report gives a line and a column for an offset. `lineColumn` finds them by
counting in the text before the offset; what a reader does with them is the
other way round, and this is how `Designates` says it: take the row of that
number among the rows between line feeds, and go to that column of it. The
row then goes on as the text goes on behind the offset.

The proof cuts the text twice, at the offset and at the last line feed before
it. Rows before that line feed are rows of the front alone, and the next row
is put together from both sides of the offset.

Both written forms of a report hold the two numbers (`Printed`).
-/

namespace ImportPolicy.Report

/-- The rows of a text, which stand between line feeds. -/
def rows (text : List Char) : List (List Char) := Text.pieces (· == '\n') text

/-- A line and a column, counted from one, lead to an offset of a text: there
is such a row, the column is on it or right behind it, the rows before it
with their line feeds and the column make up the offset, and from the column
on the row is what the text is from the offset on. -/
structure Designates (text : List Char) (line column offset : Nat) : Prop where
  line_pos : 1 ≤ line
  column_pos : 1 ≤ column
  row : ∃ row, (rows text)[line - 1]? = some row
    ∧ column - 1 ≤ row.length
    ∧ (((rows text).take (line - 1)).flatMap (· ++ ['\n'])).length + (column - 1) = offset
    ∧ row.drop (column - 1) = (text.drop offset).takeWhile (· ≠ '\n')

/-! ## Cutting a text -/

variable {last : List Char}

theorem takeWhile_append_of_not_mem (hlast : '\n' ∉ last) (behind : List Char) :
    (last ++ behind).takeWhile (· ≠ '\n') = last ++ behind.takeWhile (· ≠ '\n') := by
  refine List.takeWhile_append_of_pos (fun c hc => ?_)
  simpa using fun h : c = '\n' => hlast (h ▸ hc)

theorem takeWhile_append_cons (hlast : '\n' ∉ last) (rest : List Char) :
    (last ++ '\n' :: rest).takeWhile (· ≠ '\n') = last := by
  rw [takeWhile_append_of_not_mem hlast, List.takeWhile_cons_of_neg (by simp), List.append_nil]

theorem takeWhile_of_not_mem (hlast : '\n' ∉ last) : last.takeWhile (· ≠ '\n') = last := by
  simpa using takeWhile_append_of_not_mem hlast []

/-- A text has no line feed, or one that is its last. -/
theorem last_row_cases (before : List Char) :
    '\n' ∉ before ∨ ∃ front last, before = front ++ '\n' :: last ∧ '\n' ∉ last := by
  by_cases h : '\n' ∈ before
  · obtain ⟨back, rest, heq, hback⟩ := List.eq_append_cons_of_mem (List.mem_reverse.mpr h)
    refine .inr ⟨rest.reverse, back.reverse, ?_, by simpa using hback⟩
    rw [List.reverse_eq_iff] at heq
    simpa using heq
  · exact .inl h

theorem rows_append_cons (front back : List Char) :
    rows (front ++ '\n' :: back) = rows front ++ rows back := by
  unfold rows
  rw [Text.pieces_eq_splitOn, Text.pieces_eq_splitOn, Text.pieces_eq_splitOn,
    List.splitOn_append_cons_self]

theorem rows_of_not_mem (hlast : '\n' ∉ last) : rows last = [last] := by
  unfold rows
  rw [Text.pieces_eq_splitOn, List.splitOn_eq_singleton hlast]

/-- The first row of a text goes on to the first line feed. -/
theorem rows_append (hlast : '\n' ∉ last) (behind : List Char) :
    ∃ later, rows (last ++ behind) = (last ++ behind.takeWhile (· ≠ '\n')) :: later := by
  by_cases h : '\n' ∈ behind
  · obtain ⟨first, rest, rfl, hfirst⟩ := List.eq_append_cons_of_mem h
    have hjoined : '\n' ∉ last ++ first := by simp [hlast, hfirst]
    refine ⟨rows rest, ?_⟩
    rw [takeWhile_append_cons hfirst, ← List.append_assoc, rows_append_cons,
      rows_of_not_mem hjoined, List.singleton_append]
  · have hjoined : '\n' ∉ last ++ behind := by simp [hlast, h]
    exact ⟨[], by rw [takeWhile_of_not_mem h, rows_of_not_mem hjoined]⟩

theorem lastLineLength_of_not_mem (hlast : '\n' ∉ last) : lastLineLength last = last.length := by
  unfold lastLineLength
  rw [takeWhile_of_not_mem (by simpa using hlast), List.length_reverse]

theorem lastLineLength_append_cons (front : List Char) (hlast : '\n' ∉ last) :
    lastLineLength (front ++ '\n' :: last) = last.length := by
  unfold lastLineLength
  rw [List.reverse_append, List.reverse_cons, List.append_assoc, List.singleton_append,
    takeWhile_append_cons (by simpa using hlast), List.length_reverse]

/-! ## The line and the column of an offset -/

/-- **The line and the column lead back**: counted from the text before an
offset, they designate the offset in the whole text. -/
theorem designates_append (before behind : List Char) :
    Designates (before ++ behind) (before.count '\n' + 1) (lastLineLength before + 1)
      before.length := by
  refine ⟨Nat.le_add_left _ _, Nat.le_add_left _ _, ?_⟩
  rw [Nat.add_sub_cancel, Nat.add_sub_cancel, List.drop_left]
  obtain hbefore | ⟨front, last, rfl, hlast⟩ := last_row_cases before
  · obtain ⟨later, hrows⟩ := rows_append hbefore behind
    refine ⟨_, by rw [hrows, List.count_eq_zero_of_not_mem hbefore]; rfl, ?_, ?_, ?_⟩
    · simp [lastLineLength_of_not_mem hbefore]
    · rw [List.count_eq_zero_of_not_mem hbefore, lastLineLength_of_not_mem hbefore]
      simp
    · rw [lastLineLength_of_not_mem hbefore, List.drop_left]
  · obtain ⟨later, hrows⟩ := rows_append hlast behind
    -- the rows before the last line feed are those of the front
    have hfront : (rows front).length = (front ++ '\n' :: last).count '\n' := by
      rw [rows, Text.length_pieces, List.count_append, List.count_cons_self,
        List.count_eq_zero_of_not_mem hlast]
    rw [List.append_assoc, List.cons_append, rows_append_cons, hrows, ← hfront,
      lastLineLength_append_cons front hlast]
    refine ⟨_, by rw [List.getElem?_append_right (Nat.le_refl _), Nat.sub_self]; rfl, ?_, ?_, ?_⟩
    · simp
    · rw [List.take_left, rows, Text.flatMap_pieces]
      simp
      omega
    · rw [List.drop_left]

/-- The place that is printed for an offset of a text designates it. -/
theorem designates_lineColumn {text : List Char} {offset : Nat} (h : offset ≤ text.length) :
    Designates text (lineColumn text offset).1 (lineColumn text offset).2 offset := by
  have hlength : (text.take offset).length = offset := List.length_take_of_le h
  have hcut := designates_append (text.take offset) (text.drop offset)
  rw [List.take_append_drop, hlength] at hcut
  unfold lineColumn clamp
  rw [Int.toNat_natCast, Nat.min_eq_left h]
  exact hcut

/-- What stands at an offset stands at the column of the row, up to the first
line feed. -/
theorem Designates.starts_with {text stretch : List Char} {line column offset : Nat}
    (h : Designates text line column offset) (hstretch : stretch <+: text.drop offset) :
    ∃ row, (rows text)[line - 1]? = some row
      ∧ stretch.takeWhile (· ≠ '\n') <+: row.drop (column - 1) := by
  obtain ⟨row, hrow, -, -, hdrop⟩ := h.row
  obtain ⟨behind, hbehind⟩ := hstretch
  refine ⟨row, hrow, ?_⟩
  rw [hdrop, ← hbehind, List.takeWhile_append]
  split
  · exact (List.takeWhile_prefix _).trans (List.prefix_append _ _)
  · exact List.prefix_rfl

theorem sliceBound_of_le {length bound : Nat} (h : bound ≤ length) :
    sliceBound length (bound : Int) = bound := by
  unfold sliceBound
  rw [if_neg (by omega), Int.toNat_natCast, Nat.min_eq_left h]

theorem slice_append (before stretch behind : List Char) :
    slice (before ++ (stretch ++ behind)) before.length
      (before.length + stretch.length : Nat) = stretch := by
  unfold slice
  dsimp only
  rw [sliceBound_of_le (by simp), sliceBound_of_le (by simp), ← List.append_assoc,
    ← List.length_append, List.take_left, List.drop_left]

/-! ## Both written forms -/

/-- Reports print a line and a column for a diagnostic of one of them: as two
members of its object, and at the head of its entry. -/
structure Printed (reports : List Report) (report : Report) (d : Diagnostic)
    (line column : Nat) : Prop where
  line_member : ("line", writeInt line) ∈ report.members d
  column_member : ("column", writeInt column) ∈ report.members d
  object : writeObject (report.members d) <:+: (toJson reports).toList
  head : ∃ about, report.entry d
    = report.path ++ ":" ++ toString line ++ ":" ++ toString column ++ ": " ++ about
  entry : (report.entry d).toList <:+: (render reports).toList

theorem infix_commas {part : List Char} {parts : List (List Char)} (h : part ∈ parts) :
    part <:+: commas parts := by
  fun_induction commas parts with
  | case1 => cases h
  | case2 text => exact List.mem_singleton.mp h ▸ List.infix_rfl
  | case3 text more _ ih =>
    obtain rfl | h := List.mem_cons.mp h
    · exact (List.prefix_append _ _).isInfix
    · exact (ih h).trans (((List.suffix_cons _ _).trans (List.suffix_append _ _)).isInfix)

theorem infix_intercalate {separator : String} {part : String} {parts : List String}
    (h : part ∈ parts) : part.toList <:+: (separator.intercalate parts).toList := by
  induction parts with
  | nil => cases h
  | cons first more ih => cases more with
    | nil =>
      rw [List.mem_singleton.mp h]
      simp
    | cons second more =>
      rw [String.toList_intercalate, List.map_cons, List.map_cons,
        List.intercalate_cons_cons, ← List.map_cons, ← String.toList_intercalate]
      obtain rfl | h := List.mem_cons.mp h
      · exact ((List.prefix_append _ _).trans (List.prefix_append _ _)).isInfix
      · exact (ih h).trans (List.suffix_append _ _).isInfix

theorem mem_all {reports : List Report} {report : Report} {d : Diagnostic}
    (hreport : report ∈ reports) (hd : d ∈ report.diagnostics) : (report, d) ∈ all reports :=
  List.mem_flatMap.mpr ⟨report, hreport, List.mem_map.mpr ⟨d, hd, rfl⟩⟩

theorem object_infix_toJson {reports : List Report} {report : Report} {d : Diagnostic}
    (hreport : report ∈ reports) (hd : d ∈ report.diagnostics) :
    writeObject (report.members d) <:+: (toJson reports).toList := by
  have hall := mem_all hreport hd
  unfold toJson
  split
  · rename_i hnil
    rw [hnil] at hall
    cases hall
  · rw [String.toList_ofList]
    refine (infix_commas ?_).trans
      ((List.suffix_cons _ _).isInfix.trans (List.prefix_append _ _).isInfix)
    exact List.mem_map.mpr ⟨(report, d), hall, rfl⟩

theorem entry_infix_render {reports : List Report} {report : Report} {d : Diagnostic}
    (hreport : report ∈ reports) (hd : d ∈ report.diagnostics) :
    (report.entry d).toList <:+: (render reports).toList := by
  have hentry : report.entry d ∈ reports.flatMap fun r => r.diagnostics.map r.entry :=
    List.mem_flatMap.mpr ⟨report, hreport, List.mem_map.mpr ⟨d, hd, rfl⟩⟩
  unfold render
  refine infix_intercalate ?_
  split
  · exact hentry
  · exact List.mem_append_left _ hentry

/-- **Every diagnostic is printed with the line and the column of its
start**, in both forms. -/
theorem printed_lineColumn {reports : List Report} {report : Report} {d : Diagnostic}
    (hreport : report ∈ reports) (hd : d ∈ report.diagnostics) :
    Printed reports report d (lineColumn report.text.toList d.start).1
      (lineColumn report.text.toList d.start).2 where
  line_member := by simp [members]
  column_member := by simp [members]
  object := object_infix_toJson hreport hd
  head := ⟨d.category.name ++ " " ++ origin d ++ _ ++ _ ++ _, by
    unfold entry
    simp only [String.append_assoc]
    rfl⟩
  entry := entry_infix_render hreport hd

end ImportPolicy.Report
