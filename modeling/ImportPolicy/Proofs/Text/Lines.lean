import ImportPolicy.Text.Lines
import ImportPolicy.Text.Ranges

/-!
# Pieces and lines of a text

Two functions cut a text. `pieces` leaves the cuts out, and it is the
library's `splitOn` under another name, so what is known of that carries
over; what is added here is how the pieces make up the text again. `Lines.split`
keeps a break with the line before it and loses nothing, which is all that is
needed to see that an offset never leads out of the text.
-/

namespace ImportPolicy.Text

/-! ## Pieces -/

variable {cut : Char}

theorem pieces_ne_nil (isCut : Char → Bool) (text : List Char) : pieces isCut text ≠ [] := by
  fun_cases pieces isCut text <;> simp

theorem pieces_cons_self (cut : Char) (rest : List Char) :
    pieces (· == cut) (cut :: rest) = [] :: pieces (· == cut) rest :=
  if_pos (beq_self_eq_true cut)

/-- A character that is no cut joins the first piece of what follows. -/
theorem pieces_cons_of_ne {c : Char} (hc : c ≠ cut) (rest : List Char) :
    ∃ piece more, pieces (· == cut) rest = piece :: more
      ∧ pieces (· == cut) (c :: rest) = (c :: piece) :: more := by
  obtain ⟨piece, more, h⟩ := List.exists_cons_of_ne_nil (pieces_ne_nil (· == cut) rest)
  refine ⟨piece, more, h, ?_⟩
  rw [pieces, h]
  simp [hc]

theorem pieces_eq_splitOn (cut : Char) (text : List Char) :
    pieces (· == cut) text = text.splitOn cut := by
  induction text with
  | nil => rfl
  | cons c rest ih =>
    rw [List.splitOn_cons_eq_if_modifyHead, ← ih]
    by_cases hc : c = cut
    · rw [hc, pieces_cons_self, if_pos (beq_self_eq_true cut)]
    · obtain ⟨piece, more, hrest, h⟩ := pieces_cons_of_ne hc rest
      rw [h, hrest, if_neg (by simpa using hc), List.modifyHead_cons]

/-- Characters that are no cuts join the first piece of what follows. -/
theorem pieces_append_of_not_mem {chars rest piece : List Char} {more : List (List Char)}
    (hchars : cut ∉ chars) (hrest : pieces (· == cut) rest = piece :: more) :
    pieces (· == cut) (chars ++ rest) = (chars ++ piece) :: more := by
  induction chars with
  | nil => exact hrest
  | cons c chars ih =>
    have hc : c ≠ cut := fun hc => hchars (hc ▸ List.mem_cons_self)
    have hmore := ih (fun hmem => hchars (List.mem_cons_of_mem _ hmem))
    obtain ⟨first, others, hfirst, heq⟩ := pieces_cons_of_ne hc (chars ++ rest)
    obtain ⟨rfl, rfl⟩ := List.cons.inj (hmore.symm.trans hfirst)
    exact heq

/-- There is no cut in a piece. -/
theorem not_mem_of_mem_pieces {text piece : List Char} (h : piece ∈ pieces (· == cut) text) :
    cut ∉ piece := by
  induction text generalizing piece with
  | nil =>
    rw [List.mem_singleton.mp h]
    exact List.not_mem_nil
  | cons c rest ih =>
    by_cases hc : c = cut
    · rw [hc, pieces_cons_self] at h
      obtain rfl | h := List.mem_cons.mp h
      · exact List.not_mem_nil
      · exact ih h
    · obtain ⟨first, more, hrest, heq⟩ := pieces_cons_of_ne hc rest
      rw [heq] at h
      rw [hrest] at ih
      obtain rfl | h := List.mem_cons.mp h
      · have hfirst := ih List.mem_cons_self
        simp [hfirst, Ne.symm hc]
      · exact ih (List.mem_cons_of_mem _ h)

/-- There is one more piece than there are cuts. -/
theorem length_pieces (cut : Char) (text : List Char) :
    (pieces (· == cut) text).length = text.count cut + 1 := by
  induction text with
  | nil => rfl
  | cons c rest ih =>
    by_cases hc : c = cut
    · rw [hc, pieces_cons_self, List.length_cons, List.count_cons_self, ih]
    · obtain ⟨first, more, hrest, heq⟩ := pieces_cons_of_ne hc rest
      rw [heq, List.count_cons_of_ne hc, ← ih, hrest, List.length_cons, List.length_cons]

/-- The pieces with a cut behind each of them are the text with a cut behind
it. -/
theorem flatMap_pieces (cut : Char) (text : List Char) :
    (pieces (· == cut) text).flatMap (· ++ [cut]) = text ++ [cut] := by
  induction text with
  | nil => rfl
  | cons c rest ih =>
    by_cases hc : c = cut
    · rw [hc, pieces_cons_self, List.flatMap_cons, ih]
      rfl
    · obtain ⟨first, more, hrest, heq⟩ := pieces_cons_of_ne hc rest
      rw [hrest, List.flatMap_cons] at ih
      rw [heq, List.flatMap_cons, List.cons_append, List.cons_append, ih]
      rfl

namespace Lines

/-! ## Lines -/

/-- Nothing of a text is lost between its lines. -/
theorem flatten_split (text : List Char) : (split text).flatten = text := by
  fun_induction split text with
  | case1 => rfl
  | case2 rest ih => simp [ih]
  | case3 c rest _ hc ih => simp [ih]
  | case4 c rest _ hc hrest ih => simpa [hrest] using ih
  | case5 c rest _ hc line more hrest ih => simpa [hrest] using ih

theorem wholeCharacters_le (line : List Char) (bytes : Nat) :
    wholeCharacters line bytes ≤ line.length := by
  fun_induction wholeCharacters line bytes with
  | case1 => exact Nat.zero_le _
  | case2 bytes c rest hc ih => simpa using ih
  | case3 bytes c rest hc => exact Nat.zero_le _

/-- An offset never leads out of the text, whatever line and column are
asked for. -/
theorem offset_le_length (text : List Char) (line column : Nat) :
    offset text line column ≤ text.length := by
  have hlength : ((split text).take (line - 1)).flatten.length
      + ((split text).drop (line - 1)).flatten.length = text.length := by
    rw [← List.length_append, ← List.flatten_append, List.take_append_drop, flatten_split]
  have hline : ((split text).getD (line - 1) []).length
      ≤ ((split text).drop (line - 1)).flatten.length := by
    rw [List.getD_eq_getElem?_getD, ← List.head?_drop]
    cases (split text).drop (line - 1) with
    | nil => exact Nat.zero_le _
    | cons first more => simp
  have hwhole := wholeCharacters_le ((split text).getD (line - 1) []) column
  show ((split text).take (line - 1)).flatten.length
    + wholeCharacters ((split text).getD (line - 1) []) column ≤ text.length
  omega

/-- A text whose line breaks are unified holds no carriage return. -/
theorem return_not_mem_unify (text : List Char) : '\r' ∉ unify text := by
  fun_induction unify text with
  | case1 => exact List.not_mem_nil
  | case2 rest ih => simpa using ih
  | case3 c rest _ ih =>
    by_cases hc : c = '\r'
    · simpa [hc] using ih
    · simpa [hc, eq_comm] using ih

end Lines

end ImportPolicy.Text
