import LinkedData.Text.Ranges

/-!
# LinkedData.Text.Blank -- white space, and texts freed of it at both ends

`isBlank` is Unicode's `White_Space` property, so a no-break space or an ideographic space
counts, while a zero-width space or a byte order mark does not.
-/

namespace LinkedData.Text

/-- The code points with the `White_Space` property. -/
def blankRanges : List CodeRange :=
  [(0x9, 0xD), (0x20, 0x20), (0x85, 0x85), (0xA0, 0xA0), (0x1680, 0x1680), (0x2000, 0x200A),
   (0x2028, 0x2029), (0x202F, 0x202F), (0x205F, 0x205F), (0x3000, 0x3000)]

/-- White space of any kind. -/
def isBlank (c : Char) : Bool :=
  inRanges blankRanges c.toNat

/-- Drops the longest tail of characters that satisfy `p`. -/
def dropTailWhile (p : Char → Bool) (cs : List Char) : List Char :=
  (cs.reverse.dropWhile p).reverse

/-- A text without the white space at its ends. -/
def trim (cs : List Char) : List Char :=
  dropTailWhile isBlank (cs.dropWhile isBlank)

end LinkedData.Text
