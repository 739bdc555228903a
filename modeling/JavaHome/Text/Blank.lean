/-!
# Blanks

The characters that count as white space around a text.
-/

namespace JavaHome.Text

/-- Whether a character is white space in any script. -/
def isBlank (c : Char) : Bool :=
  let code := c.toNat
  (0x09 ≤ code && code ≤ 0x0D) || (0x1C ≤ code && code ≤ 0x20) || code == 0x85 || code == 0xA0
    || code == 0x1680 || (0x2000 ≤ code && code ≤ 0x200A) || code == 0x2028 || code == 0x2029
    || code == 0x202F || code == 0x205F || code == 0x3000

/-- Whether a text is empty or white space throughout. -/
def isBlankText (s : String) : Bool :=
  s.toList.all isBlank

/-- A text without the white space at its end. -/
def trimEnd (s : List Char) : List Char :=
  (s.reverse.dropWhile isBlank).reverse

end JavaHome.Text
