import ApiDesign.Text.Ranges

/-!
Contract: white space, and a text without the white space at its two ends.

White space is the property White_Space, which is wider than the blanks of ASCII. `trim` removes it at the ends
only; a text that trims to nothing is blank.
-/

namespace ApiDesign.Text

/-- The code points with the property White_Space, as ascending ranges. -/
def blankRanges : List (Nat × Nat) :=
  [(0x9, 0xd), (0x20, 0x20), (0x85, 0x85), (0xa0, 0xa0), (0x1680, 0x1680), (0x2000, 0x200a), (0x2028, 0x2029),
   (0x202f, 0x202f), (0x205f, 0x205f), (0x3000, 0x3000)]

/-- Whether a character is white space. -/
def isBlank (character : Char) : Bool :=
  inRanges blankRanges character

/-- A text without the white space before its first and after its last other character. -/
def trim (text : List Char) : List Char :=
  ((text.dropWhile isBlank).reverse.dropWhile isBlank).reverse

/-- Whether a text holds nothing but white space. -/
def isBlankText (text : String) : Bool :=
  text.toList.all isBlank

end ApiDesign.Text
