import ImportPolicy.Proofs.Report.Agreement

/-!
# Messages cannot pass for entries

A report for people has one entry for each diagnostic, and an entry goes on
over several rows if its message does. Messages hold the patterns of a policy
as they were written, line feeds and all, so a message could try to look like
an entry of its own. It cannot: whoever leaves out the rows that are indented
by four blanks is left with one row for each diagnostic, which starts with
the place of that diagnostic (`heading`), and with the two rows at the end
that count.

The argument is about `indented` alone (`rows_indented`): every line feed that
is left in a message brings its own blanks with it, so each row but the first
is indented, wherever the line feeds stand and however many follow each
other. What stands before the message has no line feed, as long as the path,
the source and the quoted stretch have none (`Presentable`), and it joins the
first row.
-/

namespace ImportPolicy.Report

/-- Whether a row starts with four blanks. -/
def isIndented (row : List Char) : Bool := (List.replicate 4 ' ').isPrefixOf row

/-- What the entry of a diagnostic starts with: the file, the line, the column
and the category. -/
def heading (report : Report) (d : Diagnostic) : String :=
  report.path ++ ":" ++ toString (lineColumn report.text.toList d.start).1 ++ ":"
    ++ toString (lineColumn report.text.toList d.start).2 ++ ": " ++ d.category.name ++ " "

/-- A diagnostic of a report whose path, source and quoted stretch hold no
line feed, and whose path does not start with four blanks. Nothing is asked of
its message. -/
structure Presentable (report : Report) (d : Diagnostic) : Prop where
  path : '\n' ∉ report.path.toList
  flush : isIndented report.path.toList = false
  source : ∀ source, d.source = some source → '\n' ∉ source.toList
  quoted : '\n' ∉ quoted report.text.toList d

/-! ## Rows -/

theorem rows_intercalate {texts : List (List Char)} (h : texts ≠ []) :
    rows (['\n'].intercalate texts) = texts.flatMap rows := by
  induction texts with
  | nil => exact absurd rfl h
  | cons first more ih => cases more with
    | nil => simp
    | cons second more =>
      rw [List.intercalate_cons_cons, List.append_assoc, List.singleton_append, rows_append_cons,
        ih (List.cons_ne_nil second more)]
      rfl

/-- Every row of an indented text but its first is indented. -/
theorem rows_indented (chars : List Char) :
    ∃ first more, rows (indented chars) = first :: more ∧ ∀ row ∈ more, isIndented row = true := by
  fun_induction indented chars with
  | case1 => exact ⟨[], [], rfl, fun _ h => absurd h List.not_mem_nil⟩
  | case2 rest ih =>
    obtain ⟨first, more, hrows, hmore⟩ := ih
    -- the row behind the line feed starts with the blanks
    have hblanks : rows (List.replicate 4 ' ' ++ indented rest)
        = (List.replicate 4 ' ' ++ first) :: more :=
      Text.pieces_append_of_not_mem (by decide) hrows
    refine ⟨[], (List.replicate 4 ' ' ++ first) :: more, ?_, ?_⟩
    · rw [← hblanks]
      exact Text.pieces_cons_self '\n' _
    · intro row hrow
      obtain rfl | hrow := List.mem_cons.mp hrow
      · exact List.isPrefixOf_iff_prefix.mpr (List.prefix_append _ first)
      · exact hmore row hrow
  | case3 c rest hc ih =>
    obtain ⟨first, more, hrows, hmore⟩ := ih
    obtain ⟨piece, others, hpieces, heq⟩ :=
      Text.pieces_cons_of_ne (fun h => hc h) (indented rest)
    obtain ⟨rfl, rfl⟩ := List.cons.inj (hpieces.symm.trans hrows)
    exact ⟨c :: piece, others, heq, hmore⟩

/-- A text that is not indented is not indented by what follows it either,
unless that goes on with blanks. -/
theorem isIndented_append {front : List Char} (h : isIndented front = false) {c : Char}
    (hc : c ≠ ' ') (back : List Char) : isIndented (front ++ c :: back) = false := by
  rw [Bool.eq_false_iff]
  intro hindented
  have hstarts : List.replicate 4 ' ' <+: front ++ c :: back :=
    List.isPrefixOf_iff_prefix.mp hindented
  obtain hfront | ⟨blanks, hblanks⟩ := List.prefix_or_prefix_of_prefix hstarts
    (List.prefix_append front (c :: back))
  · rw [isIndented, List.isPrefixOf_iff_prefix.mpr hfront] at h
    cases h
  · cases blanks with
    | nil =>
      rw [List.append_nil] at hblanks
      rw [isIndented, hblanks, List.isPrefixOf_iff_prefix.mpr List.prefix_rfl] at h
      cases h
    | cons blank more =>
      -- the character behind the front is one of the blanks
      rw [← hblanks, List.prefix_append_right_inj, List.cons_prefix_cons] at hstarts
      have hmem : blank ∈ List.replicate 4 ' ' := by rw [← hblanks]; simp
      exact hc (hstarts.1 ▸ List.eq_of_mem_replicate hmem)

/-! ## Numbers -/

theorem isDigit_of_mem_natText {n : Nat} {c : Char} (h : c ∈ (toString n).toList) :
    c.isDigit = true := by
  rw [Nat.toString_eq_repr, Nat.toList_repr] at h
  exact Document.Json.isDigit_of_mem_toDigits c h

theorem feed_not_mem_natText (n : Nat) : '\n' ∉ (toString n).toList := by
  intro h
  cases isDigit_of_mem_natText h

theorem feed_not_mem_intText (i : Int) : '\n' ∉ (toString i).toList := by
  rw [Int.toString_eq_repr, Int.repr_eq_if]
  split
  · exact feed_not_mem_natText _
  · rw [String.toList_append, List.mem_append, not_or]
    exact ⟨by decide, feed_not_mem_natText _⟩

/-- A row that starts with a number is not indented. -/
theorem isIndented_number (n : Nat) (row : List Char) :
    isIndented ((toString n).toList ++ row) = false := by
  cases hn : (toString n).toList with
  | nil =>
    rw [Nat.toString_eq_repr, Nat.toList_repr] at hn
    exact absurd hn Nat.toDigits_ne_nil
  | cons d ds =>
    have hd : d.isDigit = true := isDigit_of_mem_natText (by rw [hn]; exact List.mem_cons_self)
    have hblank : ' ' ≠ d := by
      rintro rfl
      cases hd
    show (' ' == d && _) = false
    rw [beq_eq_false_iff_ne.mpr hblank, Bool.false_and]

/-! ## Entries -/

theorem feed_not_mem_origin {d : Diagnostic}
    (h : ∀ source, d.source = some source → '\n' ∉ source.toList) : '\n' ∉ (origin d).toList := by
  unfold origin
  split
  · rename_i source hsource
    have hfeed := h source hsource
    split
    · decide
    split
    · exact hfeed
    · simp only [String.toList_append, List.mem_append, not_or]
      exact ⟨⟨⟨hfeed, by decide⟩, feed_not_mem_intText _⟩, by decide⟩
  · decide

theorem feed_not_mem_heading {report : Report} {d : Diagnostic} (h : report.Presentable d) :
    '\n' ∉ (heading report d).toList := by
  have hcategory : '\n' ∉ d.category.name.toList := by cases d.category <;> decide
  unfold heading
  simp only [String.toList_append, List.mem_append, not_or]
  exact ⟨⟨⟨⟨⟨⟨⟨h.path, by decide⟩, feed_not_mem_natText _⟩, by decide⟩, feed_not_mem_natText _⟩,
    by decide⟩, hcategory⟩, by decide⟩

/-- An entry is its heading, something on the same row, and its message. -/
theorem entry_heading {report : Report} {d : Diagnostic} (h : report.Presentable d) :
    ∃ about : String, '\n' ∉ about.toList
      ∧ report.entry d = heading report d ++ about ++ indentedMessage d.message := by
  have horigin := feed_not_mem_origin h.source
  have hquoted := h.quoted
  unfold entry heading
  dsimp only
  cases hchars : quoted report.text.toList d with
  | nil =>
    refine ⟨origin d ++ ": ", ?_, by simp [String.append_assoc]⟩
    rw [String.toList_append, List.mem_append, not_or]
    exact ⟨horigin, by decide⟩
  | cons c cs =>
    refine ⟨origin d ++ " '" ++ String.ofList (c :: cs) ++ "'" ++ ": ", ?_,
      by simp [String.append_assoc]⟩
    rw [hchars] at hquoted
    simp only [String.toList_append, String.toList_ofList, List.mem_append, not_or]
    exact ⟨⟨⟨⟨horigin, by decide⟩, hquoted⟩, by decide⟩, by decide⟩

theorem isIndented_heading {report : Report} {d : Diagnostic} (h : report.Presentable d)
    (row : List Char) : isIndented ((heading report d).toList ++ row) = false := by
  unfold heading
  simp only [String.toList_append, List.append_assoc]
  exact isIndented_append h.flush (c := ':') (by decide) _

/-- Of the rows of an entry, the one with its heading is not indented. -/
theorem flush_entry {report : Report} {d : Diagnostic} (h : report.Presentable d) :
    ∃ row, (rows (report.entry d).toList).filter (!isIndented ·) = [row]
      ∧ (heading report d).toList <+: row := by
  obtain ⟨about, habout, hentry⟩ := entry_heading h
  obtain ⟨first, more, hrows, hmore⟩ :=
    rows_indented (d.message.toList.reverse.dropWhile (· = '\n')).reverse
  have hfront : '\n' ∉ (heading report d).toList ++ about.toList := by
    rw [List.mem_append, not_or]
    exact ⟨feed_not_mem_heading h, habout⟩
  have hjoined : rows (report.entry d).toList
      = ((heading report d).toList ++ about.toList ++ first) :: more := by
    rw [hentry, String.toList_append, String.toList_append, indentedMessage, String.toList_ofList]
    exact Text.pieces_append_of_not_mem hfront hrows
  refine ⟨(heading report d).toList ++ about.toList ++ first, ?_, ?_⟩
  · have hnone : more.filter (!isIndented ·) = [] := by
      rw [List.filter_eq_nil_iff]
      intro row hrow
      simp [hmore row hrow]
    rw [hjoined, List.append_assoc, List.filter_cons_of_pos, hnone]
    rw [isIndented_heading h]
    rfl
  · exact (List.prefix_append _ _).trans (List.prefix_append _ _)

theorem flush_entries {found : List (Report × Diagnostic)}
    (h : ∀ one ∈ found, one.1.Presentable one.2) :
    ∃ firsts, (found.flatMap fun one => rows (one.1.entry one.2).toList).filter (!isIndented ·)
        = firsts
      ∧ List.Forall₂ (fun one row => (heading one.1 one.2).toList <+: row) found firsts := by
  induction found with
  | nil => exact ⟨[], rfl, .nil⟩
  | cons one more ih =>
    obtain ⟨row, hrow, hheading⟩ := flush_entry (h one List.mem_cons_self)
    obtain ⟨firsts, hfirsts, hheadings⟩ := ih fun other hother =>
      h other (List.mem_cons_of_mem _ hother)
    refine ⟨row :: firsts, ?_, .cons hheading hheadings⟩
    rw [List.flatMap_cons, List.filter_append, hrow, hfirsts]
    rfl

/-- The line that counts is one row, and not indented. -/
theorem flush_summary (reports : List Report) :
    (rows (summary reports).toList).filter (!isIndented ·) = [(summary reports).toList] := by
  have hfeed : '\n' ∉ (summary reports).toList := by
    unfold summary
    simp only [String.toList_append, List.mem_append, not_or]
    exact ⟨⟨⟨feed_not_mem_natText _, by decide⟩, feed_not_mem_natText _⟩, by decide⟩
  have hflush : isIndented (summary reports).toList = false := by
    unfold summary
    simp only [String.toList_append, List.append_assoc]
    exact isIndented_number _ _
  rw [rows_of_not_mem hfeed, List.filter_cons_of_pos (by rw [hflush]; rfl)]
  rfl

/-- **Messages cannot pass for entries.** For every list of reports with
something to say, whatever the messages and the texts hold: the rows of the
report for people that are not indented are one row for each diagnostic, in
order, each of which starts with the path, the line, the column and the
category of its own diagnostic, then an empty row, and then the row that
counts the diagnostics and the reports. -/
theorem render_headings {reports : List Report} (hsome : all reports ≠ [])
    (hpresentable : ∀ one ∈ all reports, one.1.Presentable one.2) :
    ∃ firsts, (rows (render reports).toList).filter (!isIndented ·)
        = firsts ++ [[], (toString (all reports).length ++ " problem(s) in "
          ++ toString reports.length ++ " file(s)").toList]
      ∧ List.Forall₂ (fun one row => (heading one.1 one.2).toList <+: row)
        (all reports) firsts := by
  obtain ⟨firsts, hfirsts, hheadings⟩ := flush_entries hpresentable
  refine ⟨firsts, ?_, hheadings⟩
  have hnonempty : entries reports ≠ [] := mt List.map_eq_nil_iff.mp hsome
  have htotal : (all reports).length = total reports := by
    rw [← length_entries, entries, List.length_map]
  have hentries : (entries reports).flatMap (rows ·.toList)
      = (all reports).flatMap fun one => rows (one.1.entry one.2).toList := by
    rw [entries, List.flatMap_map]
  have hrows : rows (render reports).toList
      = (entries reports).flatMap (rows ·.toList) ++ ([] :: rows (summary reports).toList) := by
    rw [render_eq, if_neg hnonempty, String.toList_intercalate, show "\n".toList = ['\n'] from rfl,
      rows_intercalate (by simp), List.flatMap_map, List.flatMap_append]
    simp [rows, Text.pieces]
  rw [hrows, List.filter_append, hentries, hfirsts,
    List.filter_cons_of_pos (by rfl), flush_summary, htotal]
  rfl

/-- Two reports whose messages hold rows that look like an entry, like the
count, and like nothing. -/
def forgedReports : List Report :=
  [{ path := "a.py", text := "import os\n", diagnostics :=
      [{ file := "a.py", start := 7, length := 2,
         message := "only:\nb.py:1:1: error importguard(1): forged\n\n9 problem(s) in 9 file(s)\n",
         category := .error, code := 2, source := some "importguard" },
       { file := "a.py", start := 10, length := 0, message := "\n\n", category := .warning,
         code := 0, source := none }] },
    { path := "   ", text := "", diagnostics :=
      [{ file := "b.py", start := 0, length := 0, message := "    \n    c.py:1:1: error ",
         category := .message, code := 0, source := some "" }] }]

/-- The rows of these reports that are not indented are three headings and the
count, although the messages have more rows than that. -/
theorem render_headings_forged :
    all forgedReports ≠ [] ∧ (∀ one ∈ all forgedReports, one.1.Presentable one.2)
    ∧ ∃ firsts, (rows (render forgedReports).toList).filter (!isIndented ·)
        = firsts ++ [[], (toString (all forgedReports).length ++ " problem(s) in "
          ++ toString forgedReports.length ++ " file(s)").toList]
      ∧ List.Forall₂ (fun one row => (heading one.1 one.2).toList <+: row)
        (all forgedReports) firsts := by
  have hsome : all forgedReports ≠ [] := List.cons_ne_nil _ _
  have hpresentable : ∀ one ∈ all forgedReports, one.1.Presentable one.2 := by
    have hplain : ∀ one ∈ all forgedReports, '\n' ∉ one.1.path.toList
        ∧ isIndented one.1.path.toList = false
        ∧ '\n' ∉ (one.2.source.getD "").toList
        ∧ '\n' ∉ quoted one.1.text.toList one.2 := by
      decide +kernel
    intro one hone
    obtain ⟨hpath, hflush, hsource, hquoted⟩ := hplain one hone
    refine ⟨hpath, hflush, fun source heq => ?_, hquoted⟩
    rwa [heq] at hsource
  exact ⟨hsome, hpresentable, render_headings hsome hpresentable⟩

end ImportPolicy.Report
