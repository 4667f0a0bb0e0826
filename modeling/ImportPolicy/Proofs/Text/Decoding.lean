import ImportPolicy.Text.Utf8
import ImportPolicy.Proofs.Answer

/-!
# Encoding and decoding

`Utf8.decode` looks at the first byte of a character to tell how many bytes go
on behind it, and in which range the first of them has to be. The bytes that
the library writes for a character are of this shape (`exists_encoded`), with
the ranges that rule out overlong forms and surrogates. So what was encoded is
decoded again (`decode_encode`), and where the bytes of a character are cut
short, the fault is that they are unfinished, and it names exactly the bytes
that are left of the character (`decode_encode_cut`).
-/

namespace ImportPolicy.Text.Utf8

/-- The bytes of some characters. -/
def encode (chars : List Char) : List UInt8 := chars.flatMap String.utf8EncodeChar

@[simp] theorem encode_nil : encode [] = [] := rfl

@[simp] theorem encode_cons (c : Char) (chars : List Char) :
    encode (c :: chars) = String.utf8EncodeChar c ++ encode chars := rfl

theorem encode_append (front back : List Char) :
    encode (front ++ back) = encode front ++ encode back :=
  List.flatMap_append

/-! ## The bytes of a character -/

/-- Bytes that go on with a character, the first of them in the given
range. -/
def GoesOn (low high : UInt8) : List UInt8 → Prop
  | [] => True
  | b :: rest => (low ≤ b ∧ b ≤ high) ∧ GoesOn 0x80 0xBF rest

variable {low high : UInt8} {more : List UInt8} {n : Nat}

theorem goingOn_append (h : GoesOn low high more) (rest : List UInt8) :
    goingOn low high more.length (more ++ rest) = more := by
  induction more generalizing low high with
  | nil => rfl
  | cons b more ih =>
    obtain ⟨⟨hlow, hhigh⟩, hmore⟩ := h
    rw [List.length_cons, List.cons_append, goingOn, ih hmore]
    simp [hlow, hhigh]

/-- What is left of such bytes goes on as far as it does. -/
theorem goingOn_take (h : GoesOn low high more) {k : Nat} (hk : k ≤ n) :
    goingOn low high n (more.take k) = more.take k := by
  induction more generalizing low high n k with
  | nil => cases n <;> simp [goingOn]
  | cons b more ih =>
    obtain ⟨⟨hlow, hhigh⟩, hmore⟩ := h
    cases k with
    | zero => cases n <;> rfl
    | succ k => cases n with
      | zero => cases hk
      | succ n =>
        rw [List.take_succ_cons, goingOn, ih hmore (Nat.le_of_succ_le_succ hk)]
        simp [hlow, hhigh]

theorem shape?_one : ∀ v < 0x80, shape? (UInt8.ofNat v) = some (0, 0, 0) := by
  decide +kernel

theorem shape?_two :
    ∀ v < 0xE0, 0xC2 ≤ v → shape? (UInt8.ofNat v) = some (1, 0x80, 0xBF) := by
  decide +kernel

theorem shape?_three : ∀ v < 0xF0, 0xE0 ≤ v → shape? (UInt8.ofNat v)
    = some (2, if v = 0xE0 then 0xA0 else 0x80, if v = 0xED then 0x9F else 0xBF) := by
  decide +kernel

theorem shape?_four : ∀ v < 0xF5, 0xF0 ≤ v → shape? (UInt8.ofNat v)
    = some (3, if v = 0xF0 then 0x90 else 0x80, if v = 0xF4 then 0x8F else 0xBF) := by
  decide +kernel

theorem le_ofNat {v : Nat} (hlow : low.toNat ≤ v) (hv : v < 256) : low ≤ UInt8.ofNat v := by
  rw [UInt8.le_iff_toNat_le, UInt8.toNat_ofNat_of_lt' hv]
  exact hlow

theorem ofNat_le {v : Nat} (hhigh : v ≤ high.toNat) : UInt8.ofNat v ≤ high := by
  have hv : v < 256 := Nat.lt_of_le_of_lt hhigh high.toNat_lt
  rw [UInt8.le_iff_toNat_le, UInt8.toNat_ofNat_of_lt' hv]
  exact hhigh

/-- A byte that goes on with a character without further restriction. -/
theorem tail_ofNat (v : Nat) :
    0x80 ≤ UInt8.ofNat (v % 0x40 + 0x80) ∧ UInt8.ofNat (v % 0x40 + 0x80) ≤ 0xBF :=
  ⟨le_ofNat (by show 128 ≤ _; omega) (by omega), ofNat_le (by show _ ≤ 191; omega)⟩

/-- The bytes of a character are of the shape that its first byte tells, and
its code point is read off them. -/
theorem exists_encoded (c : Char) :
    ∃ first more low high, String.utf8EncodeChar c = first :: more
      ∧ shape? first = some (more.length, low, high) ∧ GoesOn low high more
      ∧ codePoint first more = c.toNat := by
  have hvalid : c.val.toNat < 0xD800 ∨ (0xDFFF < c.val.toNat ∧ c.val.toNat < 0x110000) := c.valid
  unfold String.utf8EncodeChar Char.toNat
  dsimp only
  generalize c.val.toNat = v at hvalid ⊢
  split
  · refine ⟨_, _, _, _, rfl, shape?_one v (by omega), trivial, ?_⟩
    simp only [codePoint, List.length, List.foldl, UInt8.toNat_ofNat']
    omega
  split
  · refine ⟨_, _, _, _, rfl, shape?_two _ (by omega) (by omega), ⟨tail_ofNat v, trivial⟩, ?_⟩
    simp only [codePoint, List.length, List.foldl, UInt8.toNat_ofNat']
    omega
  split
  · -- the second byte is restricted behind the bytes 0xE0 and 0xED
    refine ⟨_, _, _, _, rfl, shape?_three _ (by omega) (by omega),
      ⟨?_, tail_ofNat v, trivial⟩, ?_⟩
    · refine ⟨le_ofNat ?_ (by omega), ofNat_le ?_⟩
      · split
        · show 160 ≤ _
          omega
        · show 128 ≤ _
          omega
      · split
        · show _ ≤ 159
          omega
        · show _ ≤ 191
          omega
    · simp only [codePoint, List.length, List.foldl, UInt8.toNat_ofNat']
      omega
  · -- the second byte is restricted behind the bytes 0xF0 and 0xF4
    refine ⟨_, _, _, _, rfl, shape?_four _ (by omega) (by omega),
      ⟨?_, tail_ofNat (v / 64), tail_ofNat v, trivial⟩, ?_⟩
    · refine ⟨le_ofNat ?_ (by omega), ofNat_le ?_⟩
      · split
        · show 144 ≤ _
          omega
        · show 128 ≤ _
          omega
      · split
        · show _ ≤ 143
          omega
        · show _ ≤ 191
          omega
    · simp only [codePoint, List.length, List.foldl, UInt8.toNat_ofNat']
      omega

/-! ## Decoding -/

/-- A character that was encoded is decoded. -/
theorem decodeFrom_encodeChar (c : Char) (n position : Nat) (rest : List UInt8) :
    decodeFrom (n + 1) position (String.utf8EncodeChar c ++ rest) = (do
      let chars ← decodeFrom n (position + (String.utf8EncodeChar c).length) rest
      .ok (c :: chars)) := by
  obtain ⟨first, more, low, high, hbytes, hshape, hmore, hcode⟩ := exists_encoded c
  rw [hbytes, List.cons_append, decodeFrom, hshape]
  dsimp only
  rw [goingOn_append hmore, if_pos rfl, List.drop_left, hcode, Char.ofNat_toNat, List.length_cons,
    Nat.add_assoc, Nat.add_comm 1]

/-- What is left of a character that was cut short is a fault. -/
theorem decodeFrom_take (c : Char) (n position : Nat) {k : Nat} (hpos : 0 < k)
    (hk : k < (String.utf8EncodeChar c).length) :
    ∃ byte, decodeFrom (n + 1) position ((String.utf8EncodeChar c).take k)
      = .error ⟨.unfinished, position, k, byte⟩ := by
  obtain ⟨first, more, low, high, hbytes, hshape, hmore, -⟩ := exists_encoded c
  obtain ⟨k, rfl⟩ : ∃ j, k = j + 1 := ⟨k - 1, by omega⟩
  rw [hbytes, List.length_cons] at hk
  have hlength : (more.take k).length = k := List.length_take_of_le (by omega)
  refine ⟨first, ?_⟩
  rw [hbytes, List.take_succ_cons, decodeFrom, hshape]
  dsimp only
  rw [goingOn_take hmore (Nat.le_of_lt (by omega)), hlength, if_neg (by omega), if_pos rfl]

/-- Characters that were encoded are decoded one after the other. -/
theorem decodeFrom_encode (chars : List Char) {n : Nat} (hn : chars.length ≤ n) (position : Nat)
    (rest : List UInt8) : decodeFrom n position (encode chars ++ rest) = (do
      let more ← decodeFrom (n - chars.length) (position + (encode chars).length) rest
      .ok (chars ++ more)) := by
  induction chars generalizing n position with
  | nil =>
    rw [encode_nil, List.nil_append, List.length_nil, Nat.sub_zero, List.length_nil, Nat.add_zero]
    cases decodeFrom n position rest with
    | ok more => rfl
    | error f => rfl
  | cons c chars ih => cases n with
    | zero => cases hn
    | succ n =>
      rw [encode_cons, List.append_assoc, decodeFrom_encodeChar, ih (Nat.le_of_succ_le_succ hn),
        List.length_append, Nat.add_assoc, List.length_cons, Nat.add_sub_add_right]
      cases decodeFrom (n - chars.length) _ rest with
      | ok more => rfl
      | error f => rfl

theorem length_le_length_encode (chars : List Char) : chars.length ≤ (encode chars).length := by
  induction chars with
  | nil => exact Nat.le_refl 0
  | cons c chars ih =>
    have hpos := c.utf8Size_pos
    rw [encode_cons, List.length_append, String.length_utf8EncodeChar, List.length_cons]
    omega

/-- **What was encoded is decoded.** -/
theorem decode_encode (chars : List Char) : decode (encode chars) = .ok chars := by
  have hdecode := decodeFrom_encode chars (length_le_length_encode chars) 0 []
  rw [List.append_nil] at hdecode
  rw [decode, hdecode]
  cases (encode chars).length - chars.length with
  | zero => simp [decodeFrom]
  | succ n => simp [decodeFrom]

/-- **A character that is cut short is unfinished**: the fault names the bytes
that are left of it. -/
theorem decode_encode_cut (chars : List Char) (c : Char) {k : Nat} (hpos : 0 < k)
    (hk : k < (String.utf8EncodeChar c).length) :
    ∃ byte, decode (encode chars ++ (String.utf8EncodeChar c).take k)
      = .error ⟨.unfinished, (encode chars).length, k, byte⟩ := by
  have hchars := length_le_length_encode chars
  have hlength : (encode chars ++ (String.utf8EncodeChar c).take k).length
      = (encode chars).length + k := by
    rw [List.length_append, List.length_take_of_le (Nat.le_of_lt hk)]
  obtain ⟨n, hn⟩ : ∃ n, (encode chars).length + k - chars.length = n + 1 :=
    ⟨(encode chars).length + k - chars.length - 1, by omega⟩
  obtain ⟨byte, hbyte⟩ := decodeFrom_take c n (0 + (encode chars).length) hpos hk
  refine ⟨byte, ?_⟩
  rw [decode, hlength, decodeFrom_encode chars (by omega), hn, hbyte, Nat.zero_add]
  rfl

/-! ## Decoding with losses -/

/-- Where bytes cannot be decoded there are some, and the fault names some of
them. -/
theorem decodeFrom_eq_error {n position : Nat} {bytes : List UInt8} {f : Fault}
    (h : decodeFrom n position bytes = .error f) : bytes ≠ [] ∧ 0 < f.count := by
  induction n generalizing position bytes with
  | zero => cases h
  | succ n ih => cases bytes with
    | nil => cases h
    | cons b rest =>
      refine ⟨List.cons_ne_nil b rest, ?_⟩
      rw [decodeFrom] at h
      split at h
      · cases h
        exact Nat.one_pos
      · dsimp only at h
        split at h
        · obtain h | ⟨chars, -, h⟩ := bind_eq_error.mp h
          · exact (ih h).2
          · cases h
        · cases h
          exact Nat.succ_pos _

/-- Decodes bytes and leaves out those that cannot be decoded: what stands
before a fault is decoded, the bytes that the fault names are passed over, and
decoding goes on behind them. -/
def decodeLossy (bytes : List UInt8) : List Char :=
  match _h : decode bytes with
  | .ok chars => chars
  | .error f =>
    (decode (bytes.take f.position)).toOption.getD []
      ++ decodeLossy (bytes.drop (f.position + f.count))
termination_by bytes.length
decreasing_by
  obtain ⟨hbytes, hcount⟩ := decodeFrom_eq_error _h
  have hpos := List.length_pos_iff.mpr hbytes
  rw [List.length_drop]
  omega

theorem decodeLossy_of_ok {bytes : List UInt8} {chars : List Char} (h : decode bytes = .ok chars) :
    decodeLossy bytes = chars := by
  rw [decodeLossy]
  split
  · rename_i hok
    cases h.symm.trans hok
    rfl
  · rename_i herror
    cases h.symm.trans herror

theorem decodeLossy_of_error {bytes : List UInt8} {f : Fault} (h : decode bytes = .error f) :
    decodeLossy bytes = (decode (bytes.take f.position)).toOption.getD []
      ++ decodeLossy (bytes.drop (f.position + f.count)) := by
  rw [decodeLossy]
  split
  · rename_i hok
    cases h.symm.trans hok
  · rename_i herror
    cases h.symm.trans herror
    rfl

theorem decodeLossy_encode (chars : List Char) : decodeLossy (encode chars) = chars :=
  decodeLossy_of_ok (decode_encode chars)

/-- What is left of a character that was cut short is passed over. -/
theorem decodeLossy_encode_cut (chars : List Char) (c : Char) {k : Nat} (hpos : 0 < k)
    (hk : k < (String.utf8EncodeChar c).length) :
    decodeLossy (encode chars ++ (String.utf8EncodeChar c).take k) = chars := by
  obtain ⟨byte, hdecode⟩ := decode_encode_cut chars c hpos hk
  have hlength : (encode chars ++ (String.utf8EncodeChar c).take k).length
      = (encode chars).length + k := by
    rw [List.length_append, List.length_take_of_le (Nat.le_of_lt hk)]
  rw [decodeLossy_of_error hdecode]
  dsimp only
  rw [List.take_left, decode_encode, List.drop_of_length_le (Nat.le_of_eq hlength)]
  show chars ++ decodeLossy (encode []) = chars
  rw [decodeLossy_encode, List.append_nil]

end ImportPolicy.Text.Utf8
