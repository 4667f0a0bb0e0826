/-!
# Blank characters

The characters that count as white space in every script, and the removal of
blanks around a text.
-/

namespace ImportPolicy.Text

/-- Whether a character is white space. -/
def isBlank (c : Char) : Bool :=
  let n := c.toNat
  (0x09 ≤ n && n ≤ 0x0D) || (0x1C ≤ n && n ≤ 0x20) || n == 0x85 || n == 0xA0 || n == 0x1680
    || (0x2000 ≤ n && n ≤ 0x200A) || n == 0x2028 || n == 0x2029 || n == 0x202F || n == 0x205F
    || n == 0x3000

/-- A text without the blanks at its start. -/
def trimLeft (text : List Char) : List Char := text.dropWhile isBlank

/-- A text without the blanks at its end. -/
def trimRight (text : List Char) : List Char := (trimLeft text.reverse).reverse

/-- A text without the blanks around it. -/
def trim (text : List Char) : List Char := trimRight (trimLeft text)

/-- Whether a text is blank altogether. -/
def isBlankText (text : String) : Bool := text.toList.all isBlank

end ImportPolicy.Text
