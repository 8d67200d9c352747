/-!
# RoadNet.Text.Blank

White space: the twenty-five code points of the Unicode property `White_Space`, and trimming
by that class. The text helpers of this library work on lists of characters.
-/

namespace RoadNet.Text

/-- The ranges of code points that are white space, in ascending order. -/
def blankRanges : List (Nat × Nat) :=
  [(0x9, 0xD), (0x20, 0x20), (0x85, 0x85), (0xA0, 0xA0), (0x1680, 0x1680), (0x2000, 0x200A),
   (0x2028, 0x2029), (0x202F, 0x202F), (0x205F, 0x205F), (0x3000, 0x3000)]

/-- Whether a code point lies in one of the given ranges, ends included. -/
def inRanges (ranges : List (Nat × Nat)) (n : Nat) : Bool :=
  ranges.any fun r => r.1 ≤ n && n ≤ r.2

/-- White space: a code point in the `blankRanges`. -/
def isBlank (c : Char) : Bool := inRanges blankRanges c.toNat

/-- Drop white space at the start. -/
def trimStart (cs : List Char) : List Char := cs.dropWhile isBlank

/-- Drop white space at the end. -/
def trimEnd (cs : List Char) : List Char := (cs.reverse.dropWhile isBlank).reverse

/-- Drop white space at both ends. -/
def trim (cs : List Char) : List Char := trimEnd (trimStart cs)

end RoadNet.Text
