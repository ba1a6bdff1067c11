import WireSchema.Text.Ranges

/-!
# Text/Blank — white space, and text without it at either end

White space is the property `White_Space` of Unicode.  `trim` takes it off both ends of a text.
-/

namespace WireSchema.Text

/-- The code points of the property `White_Space`. -/
def blankRanges : List (Nat × Nat) :=
  [(0x9, 0xd), (0x20, 0x20), (0x85, 0x85), (0xa0, 0xa0), (0x1680, 0x1680), (0x2000, 0x200a),
   (0x2028, 0x2029), (0x202f, 0x202f), (0x205f, 0x205f), (0x3000, 0x3000)]

/-- **Whether a character is white space.** -/
def isBlank (c : Char) : Bool := inRanges blankRanges c.toNat

/-- A list of characters without the white space at either end. -/
def trimList (cs : List Char) : List Char :=
  ((cs.dropWhile isBlank).reverse.dropWhile isBlank).reverse

/-- **The text without the white space at either end.** -/
def trim (s : String) : String := String.ofList (trimList s.toList)

end WireSchema.Text
