/-!
# White space

The characters with Unicode's property `White_Space`, and trimming by them. The class is wider than
the blanks of ASCII: it has the no-break space, the quads and spaces of the general punctuation
block, both separators and the ideographic space.

## Main definitions

* `isBlank`: membership in the property
* `trim`: a text without the blanks at either end
-/

namespace RoundTable.Text

/-- The code points with the property `White_Space`, as ascending ranges. -/
def blankRanges : List (Nat × Nat) :=
  [(0x9, 0xD), (0x20, 0x20), (0x85, 0x85), (0xA0, 0xA0), (0x1680, 0x1680), (0x2000, 0x200A),
    (0x2028, 0x2029), (0x202F, 0x202F), (0x205F, 0x205F), (0x3000, 0x3000)]

/-- A white-space character. -/
def isBlank (c : Char) : Bool :=
  blankRanges.any fun r => r.1 ≤ c.toNat && c.toNat ≤ r.2

/-- The text without the white space at its start and its end. -/
def trim (text : List Char) : List Char :=
  ((text.dropWhile isBlank).reverse.dropWhile isBlank).reverse

end RoundTable.Text
