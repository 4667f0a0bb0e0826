import Mathlib.Order.Monotone.Defs
import ImportPolicy.Proofs.Text.Decoding
import ImportPolicy.Proofs.Text.LineStarts

/-!
# Byte columns and characters

A syntax tree gives a place as a line and a column counted in bytes, and
`Lines.offset` says which character of the text that is, by adding up the
sizes of characters. The column is a number of bytes, so what it stands for is
found with the bytes themselves: encode the line, take as many bytes as the
column says, decode them and leave out what cannot be decoded. Only the
character that the cut goes through is lost by that
(`decodeLossy_take_encode`), so both ways count the same characters.

How many characters lie in some bytes of a line is settled by its neighbours
(`wholeCharacters_eq`): the first `k` of them fit, and one more would not.
Columns at the start of a character, inside one, and behind the line are the
three cases of this.
-/

namespace ImportPolicy.Text

open Utf8 (encode decodeLossy)

namespace Lines

variable {line : List Char} {k column : Nat}

/-! ## Characters in some bytes of a line -/

/-- One more character has more bytes. -/
theorem length_encode_take_lt {chars : List Char} (h : k < chars.length) :
    (encode (chars.take k)).length < (encode (chars.take (k + 1))).length := by
  have hsize := (chars[k]).utf8Size_pos
  rw [List.take_succ_eq_append_getElem h, Utf8.encode_append, List.length_append,
    Utf8.encode_cons, Utf8.encode_nil, List.append_nil, String.length_utf8EncodeChar]
  omega

/-- As many characters lie in some bytes of a line as fit into them. -/
theorem wholeCharacters_eq (hk : k ≤ line.length) (hfits : (encode (line.take k)).length ≤ column)
    (hmore : k < line.length → column < (encode (line.take (k + 1))).length) :
    wholeCharacters line column = k := by
  induction line generalizing k column with
  | nil => exact (Nat.le_zero.mp hk).symm
  | cons c rest ih => cases k with
    | zero =>
      have hcut := hmore (Nat.zero_lt_succ _)
      rw [Nat.zero_add, List.take_succ_cons, List.take_zero, Utf8.encode_cons, Utf8.encode_nil,
        List.append_nil, String.length_utf8EncodeChar] at hcut
      rw [wholeCharacters, if_neg (by omega)]
    | succ k =>
      rw [List.take_succ_cons, Utf8.encode_cons, List.length_append,
        String.length_utf8EncodeChar] at hfits
      rw [wholeCharacters, if_pos (by omega)]
      refine congrArg (· + 1) (ih (Nat.le_of_succ_le_succ hk) (by omega) fun hlt => ?_)
      have hcut := hmore (Nat.succ_lt_succ hlt)
      rw [List.take_succ_cons, Utf8.encode_cons, List.length_append,
        String.length_utf8EncodeChar] at hcut
      omega

theorem wholeCharacters_mono (line : List Char) {a b : Nat} (h : a ≤ b) :
    wholeCharacters line a ≤ wholeCharacters line b := by
  induction line generalizing a b with
  | nil => exact Nat.le_refl 0
  | cons c rest ih =>
    rw [wholeCharacters, wholeCharacters]
    by_cases hc : c.utf8Size ≤ a
    · rw [if_pos hc, if_pos (Nat.le_trans hc h)]
      exact Nat.succ_le_succ (ih (Nat.sub_le_sub_right h _))
    · rw [if_neg hc]
      exact Nat.zero_le _

/-- Some bytes of a line are those of its whole characters, and what is left of
the next one. -/
theorem take_encode (line : List Char) (column : Nat) :
    (encode line).take column = encode (line.take (wholeCharacters line column))
    ∨ ∃ c k, 0 < k ∧ k < (String.utf8EncodeChar c).length ∧ (encode line).take column
      = encode (line.take (wholeCharacters line column)) ++ (String.utf8EncodeChar c).take k := by
  fun_induction wholeCharacters line column with
  | case1 column => exact .inl (List.take_nil)
  | case2 c rest column hc ih =>
    have hcut : (encode (c :: rest)).take column
        = String.utf8EncodeChar c ++ (encode rest).take (column - c.utf8Size) := by
      rw [Utf8.encode_cons, List.take_append, String.length_utf8EncodeChar,
        List.take_of_length_le (by rwa [String.length_utf8EncodeChar])]
    rw [hcut, List.take_succ_cons, Utf8.encode_cons]
    obtain heq | ⟨next, k, hpos, hk, heq⟩ := ih
    · exact .inl (by rw [heq])
    · exact .inr ⟨next, k, hpos, hk, by rw [heq, List.append_assoc]⟩
  | case3 c rest column hc =>
    have hlength : column < (String.utf8EncodeChar c).length := by
      rw [String.length_utf8EncodeChar]
      omega
    have hcut : (encode (c :: rest)).take column = (String.utf8EncodeChar c).take column := by
      rw [Utf8.encode_cons, List.take_append_of_le_length (Nat.le_of_lt hlength)]
    rw [hcut, List.take_zero, Utf8.encode_nil]
    cases column with
    | zero => exact .inl List.take_zero
    | succ column => exact .inr ⟨c, column + 1, Nat.succ_pos column, hlength, rfl⟩

/-- **Decoding some bytes of a line gives its whole characters**: only the
character that the cut goes through is lost. -/
theorem decodeLossy_take_encode (line : List Char) (column : Nat) :
    decodeLossy ((encode line).take column) = line.take (wholeCharacters line column) := by
  obtain heq | ⟨c, k, hpos, hk, heq⟩ := take_encode line column
  · rw [heq, Utf8.decodeLossy_encode]
  · rw [heq, Utf8.decodeLossy_encode_cut _ c hpos hk]

/-! ## Offsets -/

/-- Columns of a line that starts at an offset of the text, counted in bytes,
lead to the characters of the line. -/
structure Converts (text : List Char) (number start : Nat) (line : List Char) : Prop where
  /-- A column leads behind the characters that its bytes hold. -/
  decoded : ∀ column,
    offset text number column = start + (decodeLossy ((encode line).take column)).length
  /-- A column at the start of a character leads to the character. -/
  exact : ∀ k ≤ line.length, offset text number (encode (line.take k)).length = start + k
  /-- A column inside a character leads to the character. -/
  inside : ∀ k < line.length, ∀ column, (encode (line.take k)).length < column →
    column < (encode (line.take (k + 1))).length → offset text number column = start + k
  /-- A column behind the line leads to its end. -/
  behind : ∀ column, (encode line).length ≤ column →
    offset text number column = start + line.length
  /-- Larger columns lead further. -/
  monotone : Monotone (offset text number)

theorem offset_eq {text : List Char} {number : Nat} (hline : (split text)[number - 1]? = some line)
    (column : Nat) : offset text number column
      = ((split text).take (number - 1)).flatten.length + wholeCharacters line column := by
  rw [offset, List.getD_eq_getElem?_getD, hline, Option.getD_some]

/-- Every line of a text starts behind the lines before it, and its columns
convert. -/
theorem converts_of_split {text : List Char} {number : Nat}
    (hline : (split text)[number - 1]? = some line) :
    Converts text number ((split text).take (number - 1)).flatten.length line where
  decoded column := by
    rw [offset_eq hline, decodeLossy_take_encode,
      List.length_take_of_le (wholeCharacters_le line column)]
  exact k hk := by
    rw [offset_eq hline, wholeCharacters_eq hk (Nat.le_refl _) length_encode_take_lt]
  inside k hk column hbehind hbefore := by
    rw [offset_eq hline,
      wholeCharacters_eq (Nat.le_of_lt hk) (Nat.le_of_lt hbehind) fun _ => hbefore]
  behind column hcolumn := by
    have hfits : (encode (line.take line.length)).length ≤ column := by rwa [List.take_length]
    rw [offset_eq hline,
      wholeCharacters_eq (Nat.le_refl _) hfits fun h => absurd h (Nat.lt_irrefl _)]
  monotone a b hab := by
    rw [offset_eq hline, offset_eq hline]
    exact Nat.add_le_add_left (wholeCharacters_mono line hab) _

/-- **Byte columns convert exactly to characters.** For every text, with any
mixture of line breaks: the columns of each line in the table of line starts
lead to its characters, the lines that the table delimits make up the text,
and no break of two characters is split between two of them. -/
theorem offset_converts (text : List Char) :
    (∀ number, 1 ≤ number → number ≤ (starts text).length → ∃ start,
      (starts text)[number - 1]? = some start ∧ Converts text number start (lineAt text number))
    ∧ ((List.range (starts text).length).map fun i => lineAt text (i + 1)).flatten = text
    ∧ ((List.range (starts text).length).map fun i => lineAt text (i + 1)).IsChain Unbroken := by
  rw [map_lineAt]
  refine ⟨fun number hpos hle => ?_, flatten_split text, unbroken_split text⟩
  have hlt : number - 1 < (starts text).length := by omega
  have hline : (split text)[number - 1]? = some (lineAt text number) := by
    rw [getElem?_split hlt, Nat.sub_add_cancel hpos]
  exact ⟨_, getElem?_starts hlt, converts_of_split hline⟩

/-- The third byte of the second line is inside its first character, the
fourth is behind it. -/
example : starts "é\r\n€x".toList = [0, 3] ∧ offset "é\r\n€x".toList 2 2 = 3
    ∧ offset "é\r\n€x".toList 2 3 = 4 := by
  decide

end Lines

end ImportPolicy.Text
