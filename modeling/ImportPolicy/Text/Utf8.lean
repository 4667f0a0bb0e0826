/-!
# Decoding UTF-8

Bytes are read as UTF-8 in the strict sense: no overlong forms, no
surrogates, nothing behind the last code point. A fault names the bytes that
cannot be decoded: those that could have started a character, up to the
first byte that does not go on with it.
-/

namespace ImportPolicy.Text.Utf8

/-- Why bytes cannot be decoded. -/
inductive Reason where
  | start
  | continuation
  | unfinished
  deriving DecidableEq, Repr

/-- The wording of a reason. -/
def Reason.message : Reason → String
  | .start => "invalid start byte"
  | .continuation => "invalid continuation byte"
  | .unfinished => "unexpected end of data"

/-- Bytes that cannot be decoded. -/
structure Fault where
  /-- Why. -/
  reason : Reason
  /-- The number of the first of these bytes, from zero. -/
  position : Nat
  /-- How many bytes there are. -/
  count : Nat
  /-- The first of these bytes. -/
  byte : UInt8
  deriving DecidableEq, Repr

/-- Two lower case hexadecimal digits. -/
def hexByte (b : UInt8) : String :=
  let digits := Nat.toDigits 16 b.toNat
  String.ofList (List.replicate (2 - digits.length) '0' ++ digits)

/-- The wording of a fault. -/
def Fault.message (f : Fault) : String :=
  let where_ :=
    if f.count = 1 then
      "byte 0x" ++ hexByte f.byte ++ " in position " ++ toString f.position
    else
      "bytes in position " ++ toString f.position ++ "-" ++ toString (f.position + f.count - 1)
  "'utf-8' codec can't decode " ++ where_ ++ ": " ++ f.reason.message

/-- Whether a byte goes on with a character. -/
def isContinuation (b : UInt8) : Bool := 0x80 ≤ b && b ≤ 0xBF

/-- How many bytes go on behind a first byte, and the range that the first
of them has to be in; nothing if no character starts with the byte. -/
def shape? (b : UInt8) : Option (Nat × UInt8 × UInt8) :=
  if b < 0x80 then some (0, 0, 0)
  else if b < 0xC2 then none
  else if b < 0xE0 then some (1, 0x80, 0xBF)
  else if b = 0xE0 then some (2, 0xA0, 0xBF)
  else if b = 0xED then some (2, 0x80, 0x9F)
  else if b < 0xF0 then some (2, 0x80, 0xBF)
  else if b = 0xF0 then some (3, 0x90, 0xBF)
  else if b < 0xF4 then some (3, 0x80, 0xBF)
  else if b = 0xF4 then some (3, 0x80, 0x8F)
  else none

/-- The bytes that go on with a character, as far as they do: at most
`count`, of which the first is in the given range. -/
def goingOn (low high : UInt8) : Nat → List UInt8 → List UInt8
  | 0, _ => []
  | _ + 1, [] => []
  | n + 1, b :: rest => if low ≤ b && b ≤ high then b :: goingOn 0x80 0xBF n rest else []

/-- The code point of a first byte and the bytes that go on with it. -/
def codePoint (first : UInt8) (more : List UInt8) : Nat :=
  let lead := match more.length with
    | 0 => first.toNat
    | 1 => first.toNat % 0x20
    | 2 => first.toNat % 0x10
    | _ => first.toNat % 0x08
  more.foldl (fun n b => n * 0x40 + b.toNat % 0x40) lead

/-- Decodes bytes in at most the given number of steps. `position` is the
number of the first one. -/
def decodeFrom : Nat → Nat → List UInt8 → Except Fault (List Char)
  | 0, _, _ => .ok []
  | _ + 1, _, [] => .ok []
  | n + 1, position, b :: rest =>
    match shape? b with
    | none => .error ⟨.start, position, 1, b⟩
    | some (count, low, high) =>
      let more := goingOn low high count rest
      if more.length = count then do
        let chars ← decodeFrom n (position + 1 + count) (rest.drop count)
        .ok (Char.ofNat (codePoint b more) :: chars)
      else
        let reason := if more.length = rest.length then Reason.unfinished else .continuation
        .error ⟨reason, position, more.length + 1, b⟩

/-- Decodes bytes. -/
def decode (bytes : List UInt8) : Except Fault (List Char) :=
  decodeFrom bytes.length 0 bytes

/-- The bytes of a byte order mark. -/
def mark : List UInt8 := [0xEF, 0xBB, 0xBF]

/-- Decodes bytes without the byte order mark that may stand before them. A
mark that is cut short counts as one. -/
def decodeMarked (bytes : List UInt8) : Except Fault (List Char) :=
  if mark.isPrefixOf bytes then decode (bytes.drop mark.length)
  else if bytes.isPrefixOf mark then .ok []
  else decode bytes

end ImportPolicy.Text.Utf8
