import Mathlib.Data.List.Forall2
import ImportPolicy.Report.Json
import ImportPolicy.Proofs.Document.JsonWriting
import ImportPolicy.Proofs.Report.Places

/-!
# Reading back the reports for programs

Reports for programs are written by hand, a bracket and a comma at a time, so
that what comes out is a document at all is a theorem: the reader of JSON
takes the text and gives one array with a table for each diagnostic, in
order (`read_toJson`).

The reader is bounded by the length of its text, which is ample here: every
table takes more characters than the reader goes deep for it.
-/

namespace ImportPolicy.Report

open Document
open Document.Json (Follows ReadsBack skip readsBack_text readsBack_int readsBack_null
  string_written)

variable {rest : List Char}

/-! ## Objects -/

/-- The table of a diagnostic, as a reader of its object sees it. -/
def table (report : Report) (d : Diagnostic) : Entries :=
  let (line, column) := lineColumn report.text.toList d.start
  [("file", .text report.path),
    ("start", .int d.start),
    ("length", .int d.length),
    ("line", .int line),
    ("column", .int column),
    ("category", .text d.category.name),
    ("code", .int d.code),
    ("source", match d.source with
      | some source => .text source
      | none => .null),
    ("message", .text d.message)]

/-- A member and the entry it is read back as. -/
def MemberReads (m : String × List Char) (e : String × Value) : Prop :=
  m.1 = e.1 ∧ ReadsBack 1 m.2 e.2

/-- An object from its opening brace on. -/
def braced (ms : List (String × List Char)) : List Char :=
  '\x7b' :: commas (ms.map writeMember) ++ "\n  \x7d".toList

theorem writeObject_eq (ms : List (String × List Char)) :
    writeObject ms = '\n' :: ' ' :: ' ' :: braced ms := rfl

theorem commas_cons (text : List Char) {more : List (List Char)} (h : more ≠ []) :
    commas (text :: more) = text ++ ',' :: commas more := by
  cases more with
  | nil => exact absurd rfl h
  | cons next more => rfl

theorem follows_comma (more : List Char) : Follows (',' :: more) := ⟨_, _, rfl, .inl rfl⟩

theorem follows_feed (more : List Char) : Follows ('\n' :: more) := ⟨_, _, rfl, .inr rfl⟩

/-- A member with its blanks spelled out. -/
theorem writeMember_eq (m : String × List Char) :
    writeMember m = ['\n', ' ', ' ', ' ', ' '] ++ Json.writeString m.1 ++ [':', ' '] ++ m.2 := rfl

theorem skip_writeMember (m : String × List Char) (rest : List Char) :
    skip (writeMember m ++ rest)
      = '"' :: (m.1.toList.flatMap Json.writeChar ++ '"' :: ':' :: ' ' :: (m.2 ++ rest)) := by
  rw [writeMember_eq, Json.writeString]
  simp only [List.append_assoc, List.cons_append, List.nil_append]
  rfl

theorem exists_commas_cons (text : List Char) (more : List (List Char)) :
    ∃ tail, commas (text :: more) = text ++ tail := by
  cases more with
  | nil => exact ⟨[], (List.append_nil text).symm⟩
  | cons next more => exact ⟨_, rfl⟩

/-- One member is read, and then what the comma or the brace behind it
says. -/
theorem members_writeMember {m : String × List Char} {e : String × Value} (h : MemberReads m e)
    (n : Nat) (got : Entries) (hrest : Follows rest) :
    Json.members (n + 2) got (skip (writeMember m ++ rest)) = (do
      match skip rest with
      | '\x7d' :: behind => .ok (.table (got.set e.1 e.2), behind)
      | ',' :: more => Json.members (n + 1) (got.set e.1 e.2) (skip more)
      | other => Json.stop .comma other) := by
  obtain ⟨hkey, hvalue⟩ := h
  have hstring := string_written m.1 (':' :: ' ' :: (m.2 ++ rest))
  have hblank : skip (' ' :: (m.2 ++ rest)) = m.2 ++ rest := hvalue.skip_eq rest
  have hread := hvalue.value_eq n rest hrest
  rw [skip_writeMember, Json.members, hstring]
  show (Json.value (n + 1) (skip (' ' :: (m.2 ++ rest))) >>= _) = _
  rw [hblank, hread, hkey]
  rfl

/-- **The members of an object are read back**, up to the closing brace. -/
theorem members_written {ms : List (String × List Char)} {es : Entries}
    (h : List.Forall₂ MemberReads ms es) (hne : ms ≠ []) (n : Nat) (got : Entries)
    (rest : List Char) :
    Json.members (n + ms.length + 1) got
        (skip (commas (ms.map writeMember) ++ ("\n  \x7d".toList ++ rest)))
      = .ok (.table (es.foldl (fun got e => Entries.set e.1 e.2 got) got), rest) := by
  induction h generalizing got with
  | nil => exact absurd rfl hne
  | @cons m e ms es hm hms ih =>
    -- behind the last member stands the brace's line, behind the others a comma
    by_cases hlast : ms = []
    · subst hlast
      cases hms
      exact members_writeMember hm n got (follows_feed _)
    · have hnext := members_writeMember hm (n + ms.length) got
        (follows_comma (commas (ms.map writeMember) ++ ("\n  \x7d".toList ++ rest)))
      rw [List.map_cons, commas_cons _ (by simpa using hlast), List.append_assoc, List.cons_append]
      exact hnext.trans (ih hlast _)

/-- **An object is read back as a table.** -/
theorem readsBack_braced {ms : List (String × List Char)} {es : Entries}
    (h : List.Forall₂ MemberReads ms es) (hne : ms ≠ []) :
    ReadsBack (ms.length + 2) (braced ms)
      (.table (es.foldl (fun got e => Entries.set e.1 e.2 got) [])) where
  skip_eq _ := rfl
  value_eq n rest _ := by
    have hmembers := members_written h hne n [] rest
    obtain ⟨m, more, rfl⟩ := List.exists_cons_of_ne_nil hne
    obtain ⟨tail, htail⟩ := exists_commas_cons (writeMember m) (more.map writeMember)
    rw [List.map_cons, htail, List.append_assoc, skip_writeMember] at hmembers
    show Json.value (n + (more.length + 1) + 1 + 1)
      ('\x7b' :: (commas ((m :: more).map writeMember) ++ "\n  \x7d".toList ++ rest)) = _
    rw [List.map_cons, htail, List.append_assoc, List.append_assoc, Json.value, skip_writeMember]
    exact hmembers

/-! ## The array -/

/-- An item on lines of its own. -/
def onLine (text : List Char) : List Char := '\n' :: ' ' :: ' ' :: text

/-- One item is read, and then what the comma or the bracket behind it
says. -/
theorem elements_onLine {depth : Nat} {text : List Char} {v : Value} (h : ReadsBack depth text v)
    (n : Nat) (got : List Value) (hrest : Follows rest) :
    Json.elements (n + depth + 1) got (skip (onLine text ++ rest)) = (do
      match skip rest with
      | ']' :: behind => .ok (.array (v :: got).reverse, behind)
      | ',' :: more => Json.elements (n + depth) (v :: got) (skip more)
      | other => Json.stop .comma other) := by
  have hskip : skip (onLine text ++ rest) = text ++ rest := h.skip_eq rest
  rw [hskip, Json.elements, h.value_eq n rest hrest]
  rfl

/-- **The items of an array are read back**, up to the closing bracket. -/
theorem elements_written {depth : Nat} {texts : List (List Char)} {vs : List Value}
    (h : List.Forall₂ (ReadsBack depth) texts vs) (hne : texts ≠ []) (n : Nat) (got : List Value)
    (rest : List Char) :
    Json.elements (n + texts.length + depth) got
        (skip (commas (texts.map onLine) ++ '\n' :: ']' :: rest))
      = .ok (.array (got.reverse ++ vs), rest) := by
  induction h generalizing got with
  | nil => exact absurd rfl hne
  | @cons text v texts vs hv hvs ih =>
    have hfuel : n + (text :: texts).length + depth = n + texts.length + depth + 1 := by
      rw [List.length_cons]
      omega
    rw [hfuel]
    by_cases hlast : texts = []
    · subst hlast
      cases hvs
      rw [← List.reverse_cons]
      exact elements_onLine hv n got (follows_feed _)
    · have hnext := elements_onLine hv (n + texts.length) got
        (follows_comma (commas (texts.map onLine) ++ '\n' :: ']' :: rest))
      have hreverse : got.reverse ++ v :: vs = (v :: got).reverse ++ vs := by simp
      rw [List.map_cons, commas_cons _ (by simpa using hlast), List.append_assoc, List.cons_append,
        hreverse]
      exact hnext.trans (ih hlast _)

/-! ## Reports -/

/-- All the numbers in the object of a diagnostic can be read. -/
structure Legible (report : Report) (d : Diagnostic) : Prop where
  start : d.start.natAbs < Value.leastLong
  length : d.length.natAbs < Value.leastLong
  line : (lineColumn report.text.toList d.start).1 < Value.leastLong
  column : (lineColumn report.text.toList d.start).2 < Value.leastLong
  code : d.code.natAbs < Value.leastLong

theorem memberReads_members {report : Report} {d : Diagnostic} (h : Legible report d) :
    List.Forall₂ MemberReads (report.members d) (report.table d) := by
  have hline : ReadsBack 1 (writeInt (lineColumn report.text.toList d.start).1) _ :=
    readsBack_int h.line
  have hcolumn : ReadsBack 1 (writeInt (lineColumn report.text.toList d.start).2) _ :=
    readsBack_int h.column
  have hsource : ReadsBack 1 (match d.source with
      | some source => Json.writeString source
      | none => "null".toList) (match d.source with
      | some source => .text source
      | none => .null) := by
    cases d.source with
    | none => exact readsBack_null
    | some source => exact readsBack_text source
  exact .cons ⟨rfl, readsBack_text _⟩ <| .cons ⟨rfl, readsBack_int h.start⟩ <|
    .cons ⟨rfl, readsBack_int h.length⟩ <| .cons ⟨rfl, hline⟩ <| .cons ⟨rfl, hcolumn⟩ <|
    .cons ⟨rfl, readsBack_text _⟩ <| .cons ⟨rfl, readsBack_int h.code⟩ <|
    .cons ⟨rfl, hsource⟩ <| .cons ⟨rfl, readsBack_text _⟩ .nil

/-- **The object of a diagnostic is read back as its table.** -/
theorem readsBack_object {report : Report} {d : Diagnostic} (h : Legible report d) :
    ReadsBack 11 (braced (report.members d)) (.table (report.table d)) :=
  readsBack_braced (memberReads_members h) (List.cons_ne_nil _ _)

/-- Texts with commas between them are no shorter than the texts. -/
theorem le_length_commas {k : Nat} {texts : List (List Char)}
    (h : ∀ text ∈ texts, k ≤ text.length) :
    k * texts.length ≤ (commas texts).length := by
  fun_induction commas texts with
  | case1 => simp
  | case2 text => simpa using h
  | case3 text more _ ih =>
    have htext := h text List.mem_cons_self
    have hmore := ih fun text htext => h text (List.mem_cons_of_mem _ htext)
    rw [List.length_cons, List.length_append, List.length_cons, Nat.mul_succ]
    omega

theorem le_length_writeMember (m : String × List Char) : 5 ≤ (writeMember m).length := by
  rw [writeMember_eq, List.append_assoc, List.append_assoc, List.length_append]
  exact Nat.le_add_right 5 _

theorem le_length_object (report : Report) (d : Diagnostic) :
    9 ≤ (onLine (braced (report.members d))).length := by
  obtain ⟨tail, htail⟩ := exists_commas_cons
    (writeMember ("file", Json.writeString report.path)) ((report.members d).tail.map writeMember)
  have hcommas : commas ((report.members d).map writeMember)
      = writeMember ("file", Json.writeString report.path) ++ tail := htail
  have hfirst := le_length_writeMember ("file", Json.writeString report.path)
  rw [onLine, braced, hcommas]
  simp only [List.length_cons, List.length_append]
  omega

theorem of_mem_all {reports : List Report} {r : Report} {d : Diagnostic}
    (h : (r, d) ∈ all reports) : r ∈ reports ∧ d ∈ r.diagnostics := by
  obtain ⟨r', hr, hmem⟩ := List.mem_flatMap.mp h
  obtain ⟨d', hd, heq⟩ := List.mem_map.mp hmem
  cases heq
  exact ⟨hr, hd⟩

/-- The members of the objects of some reports. -/
def objects (reports : List Report) : List (List (String × List Char)) :=
  (all reports).map fun (r, d) => r.members d

/-- The tables that the objects are read back as. -/
def tables (reports : List Report) : List Value :=
  (all reports).map fun (r, d) => .table (r.table d)

theorem toJson_eq {reports : List Report} (h : all reports ≠ []) :
    (toJson reports).toList
      = '[' :: (commas (((objects reports).map braced).map onLine) ++ ['\n', ']']) := by
  have hobjects : (all reports).map (fun (r, d) => writeObject (r.members d))
      = ((objects reports).map braced).map onLine := by
    rw [objects, List.map_map, List.map_map]
    rfl
  unfold toJson
  split
  · contradiction
  · rw [String.toList_ofList, hobjects]
    rfl

/-- The array takes more characters than its reader goes deep. -/
theorem le_length_toJson {reports : List Report} (h : all reports ≠ []) :
    (objects reports).length + 11 ≤ (toJson reports).toList.length := by
  have hsome : 0 < (objects reports).length := by
    rw [objects, List.length_map]
    exact List.length_pos_iff.mpr h
  have hlong := @le_length_commas 9 (((objects reports).map braced).map onLine) <| by
    intro text htext
    rw [objects, List.map_map, List.map_map, List.mem_map] at htext
    obtain ⟨⟨r, d⟩, -, rfl⟩ := htext
    exact le_length_object r d
  rw [List.length_map, List.length_map] at hlong
  have hclose : ['\n', ']'].length = 2 := rfl
  rw [toJson_eq h, List.length_cons, List.length_append]
  omega

/-- A document is read if its array is, and only blanks are left. -/
theorem read_of_value {more rest : List Char} {v : Value}
    (hvalue : Json.value (2 * ('[' :: more).length + 1) ('[' :: more) = .ok (v, rest))
    (hrest : skip rest = []) : Json.read ('[' :: more) = .ok v := by
  have hmark : ¬ ('[' :: more).head? = some '\uFEFF' :=
    fun h => absurd (Option.some.inj h) (by decide)
  have hskip : skip ('[' :: more) = '[' :: more := rfl
  rw [Json.read, if_neg hmark, hskip, hvalue, ok_bind]
  dsimp only
  rw [hrest]

/-- An array of objects is read item by item. -/
theorem value_array {objects : List (List (String × List Char))} {vs : List Value} {depth : Nat}
    (h : List.Forall₂ (ReadsBack depth) (objects.map braced) vs) (hne : objects ≠ []) (n : Nat)
    (rest : List Char) :
    Json.value (n + objects.length + depth + 1)
        ('[' :: (commas ((objects.map braced).map onLine) ++ '\n' :: ']' :: rest))
      = .ok (.array vs, rest) := by
  have helements := elements_written h (by simpa using hne) n [] rest
  obtain ⟨first, more, rfl⟩ := List.exists_cons_of_ne_nil hne
  obtain ⟨tail, htail⟩ := exists_commas_cons (onLine (braced first)) ((more.map braced).map onLine)
  have hskip (rest : List Char) : skip (onLine (braced first) ++ rest) = braced first ++ rest := rfl
  rw [List.length_map, List.map_cons, List.map_cons, htail, List.append_assoc, hskip] at helements
  rw [List.map_cons, List.map_cons, htail, List.append_assoc, Json.value, hskip]
  exact helements

/-- **Reports for programs are one array**, which holds a table for each
diagnostic, in order. -/
theorem read_toJson {reports : List Report} {tail : List Char} (htail : skip tail = [])
    (h : ∀ r d, (r, d) ∈ all reports → Legible r d) :
    Json.read ((toJson reports).toList ++ tail) = .ok (.array (tables reports)) := by
  by_cases hnil : all reports = []
  · have hempty : (toJson reports).toList = ['[', ']'] := by
      rw [toJson, hnil]
      rfl
    rw [hempty, tables, hnil]
    exact read_of_value rfl htail
  · have hreads : List.Forall₂ (ReadsBack 11) ((objects reports).map braced) (tables reports) := by
      rw [objects, tables, List.map_map, List.forall₂_map_left_iff, List.forall₂_map_right_iff,
        List.forall₂_same]
      exact fun rd hrd => readsBack_object (h rd.1 rd.2 hrd)
    have hne : objects reports ≠ [] := mt List.map_eq_nil_iff.mp hnil
    obtain ⟨n, hn⟩ := Nat.exists_eq_add_of_le' (le_length_toJson hnil)
    have hlength : 2 * ((toJson reports).toList ++ tail).length
        = 2 * (n + tail.length) + (objects reports).length + 11
          + (objects reports).length + 11 := by
      rw [List.length_append, hn]
      omega
    rw [toJson_eq hnil, List.cons_append, List.append_assoc] at hlength ⊢
    refine read_of_value ?_ htail
    rw [hlength]
    exact value_array hreads hne _ tail

/-- **What is written for programs is what they read.** For all reports whose
numbers have no more digits than a reader of JSON takes, the text is read as
an array with one table for each diagnostic, report by report and in the
order in which a report has them. A table holds the path of the report, the
line and the column of the diagnostic in the text of the report, and what the
diagnostic itself holds. Lines and columns have too many digits only in a text
with about as many characters as the least such number. -/
theorem read_toJson_toList {reports : List Report}
    (h : ∀ r ∈ reports, ∀ d ∈ r.diagnostics, Legible r d) :
    Json.read (toJson reports).toList = .ok (.array (reports.flatMap fun r =>
      r.diagnostics.map fun d => .table [
        ("file", .text r.path),
        ("start", .int d.start),
        ("length", .int d.length),
        ("line", .int (lineColumn r.text.toList d.start).1),
        ("column", .int (lineColumn r.text.toList d.start).2),
        ("category", .text d.category.name),
        ("code", .int d.code),
        ("source", d.source.elim .null .text),
        ("message", .text d.message)])) := by
  have hread := @read_toJson reports [] rfl fun r d hmem =>
    h r (of_mem_all hmem).1 d (of_mem_all hmem).2
  rw [List.append_nil] at hread
  rw [hread, tables, all, List.map_flatMap]
  congr 2
  refine List.flatMap_congr fun r _ => ?_
  rw [List.map_map]
  refine List.map_congr_left fun d _ => ?_
  show Value.table (r.table d) = _
  unfold table
  cases d.source with
  | none => rfl
  | some source => rfl

/-- A report with the characters that a writer and a reader are most likely to
treat differently, and with the longest numbers that can be read. -/
def awkwardReport : Report where
  path := "a \"b\\c\".py"
  text := "x\n\u2028\x7fy\n"
  diagnostics := [
    { file := "a.py", start := 3, length := -Int.ofNat (Value.leastLong - 1),
      message := "\x00\x1f\x7f\u2028😀\t\"\\/", category := .warning,
      code := Int.ofNat (Value.leastLong - 1), source := none },
    { file := "", start := -Int.ofNat (Value.leastLong - 1), length := 0,
      message := "", category := .error, code := -1, source := some "\r\n" }]

theorem legible_awkwardReport : ∀ d ∈ awkwardReport.diagnostics, Legible awkwardReport d := by
  have hlegible : ∀ d ∈ awkwardReport.diagnostics,
      d.start.natAbs < Value.leastLong ∧ d.length.natAbs < Value.leastLong
        ∧ (lineColumn awkwardReport.text.toList d.start).1 < Value.leastLong
        ∧ (lineColumn awkwardReport.text.toList d.start).2 < Value.leastLong
        ∧ d.code.natAbs < Value.leastLong := by decide +kernel
  intro d hd
  obtain ⟨hstart, hlength, hline, hcolumn, hcode⟩ := hlegible d hd
  exact ⟨hstart, hlength, hline, hcolumn, hcode⟩

/-- The awkward report comes back as it was, behind one that says nothing. -/
theorem read_toJson_toList_awkward :
    Json.read (toJson [⟨"b.py", "y", []⟩, awkwardReport]).toList = .ok (.array [
      .table [("file", .text "a \"b\\c\".py"), ("start", .int 3),
        ("length", .int (-Int.ofNat (Value.leastLong - 1))), ("line", .int 2), ("column", .int 2),
        ("category", .text "warning"), ("code", .int (Int.ofNat (Value.leastLong - 1))),
        ("source", .null), ("message", .text "\x00\x1f\x7f\u2028😀\t\"\\/")],
      .table [("file", .text "a \"b\\c\".py"), ("start", .int (-Int.ofNat (Value.leastLong - 1))),
        ("length", .int 0), ("line", .int 1), ("column", .int 1),
        ("category", .text "error"), ("code", .int (-1)),
        ("source", .text "\r\n"), ("message", .text "")]]) := by
  have hlegible : ∀ r ∈ [⟨"b.py", "y", []⟩, awkwardReport], ∀ d ∈ r.diagnostics, Legible r d := by
    intro r hr d hd
    simp only [List.mem_cons, List.not_mem_nil, or_false] at hr
    obtain rfl | rfl := hr
    · cases hd
    · exact legible_awkwardReport d hd
  have hfirst : lineColumn "x\n\u2028\x7fy\n".toList 3 = (2, 2) := by decide +kernel
  have hsecond : lineColumn "x\n\u2028\x7fy\n".toList (-Int.ofNat (Value.leastLong - 1))
      = (1, 1) := by decide +kernel
  rw [read_toJson_toList hlegible]
  simp only [awkwardReport, List.flatMap_cons, List.flatMap_nil, List.map_cons, List.map_nil,
    hfirst, hsecond]
  rfl

end ImportPolicy.Report
