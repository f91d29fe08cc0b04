/-!
Contract: membership of a character in a table of code point ranges.

A table lists ranges by their first and last code point. The tables of character properties are stated over it.
-/

namespace ApiDesign.Text

/-- Whether some range of the table holds the character. -/
def inRanges (ranges : List (Nat × Nat)) (character : Char) : Bool :=
  ranges.any fun (first, last) => first ≤ character.toNat && character.toNat ≤ last

end ApiDesign.Text
