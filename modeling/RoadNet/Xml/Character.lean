import RoadNet.Text.Blank

/-!
# RoadNet.Xml.Character

The character classes of XML 1.0: what a document may hold at all, white space, and the
characters of names.
-/

namespace RoadNet.Xml

open Text (inRanges)

/-- Whether a document may hold the character. -/
def isXmlChar (c : Char) : Bool :=
  c = '\t' || c = '\n' || c = '\r' || (0x20 ≤ c.toNat && c.toNat ≠ 0xFFFE && c.toNat ≠ 0xFFFF)

/-- The ranges of code points of the characters that a document can carry. -/
def textRanges : List (Nat × Nat) :=
  [(0x9, 0xA), (0xD, 0xD), (0x20, 0xD7FF), (0xE000, 0xFFFD), (0x10000, 0x10FFFF)]

/-- Whether a document can carry the text, escaped or not. -/
def isXmlText (s : String) : Bool := s.toList.all fun c => inRanges textRanges c.toNat

/-- A document can carry exactly the characters that it may hold. -/
theorem inRanges_textRanges (c : Char) : inRanges textRanges c.toNat = isXmlChar c := by
  have hvalid : c.toNat < 0xD800 ∨ 0xDFFF < c.toNat ∧ c.toNat < 0x110000 := c.valid
  have heq : ∀ d : Char, c = d ↔ c.toNat = d.toNat := fun d => Char.toNat_inj.symm
  rw [Bool.eq_iff_iff]
  simp [inRanges, textRanges, isXmlChar, heq]
  omega

/-- A document can carry a text (`isXmlText`) exactly if it may hold each of its characters. -/
theorem isXmlText_iff {s : String} : isXmlText s = true ↔ ∀ c ∈ s.toList, isXmlChar c = true := by
  simp only [isXmlText, inRanges_textRanges, List.all_eq_true]

/-- White space between the parts of a tag. -/
def isSpace (c : Char) : Bool := c = ' ' || c = '\t' || c = '\n' || c = '\r'

/-- Drop white space at the start. -/
def dropSpaces (cs : List Char) : List Char := cs.dropWhile isSpace

/-- The code points beyond ASCII that a name can start with. -/
def nameStartRanges : List (Nat × Nat) :=
  [(0xC0, 0xD6), (0xD8, 0xF6), (0xF8, 0x2FF), (0x370, 0x37D), (0x37F, 0x1FFF),
   (0x200C, 0x200D), (0x2070, 0x218F), (0x2C00, 0x2FEF), (0x3001, 0xD7FF), (0xF900, 0xFDCF),
   (0xFDF0, 0xFFFD), (0x10000, 0xEFFFF)]

/-- The code points beyond ASCII that only the rest of a name can hold. -/
def nameRestRanges : List (Nat × Nat) := [(0xB7, 0xB7), (0x300, 0x36F), (0x203F, 0x2040)]

/-- Whether a name can start with the character. -/
def isNameStart (c : Char) : Bool :=
  c.isAlpha || c = ':' || c = '_' || inRanges nameStartRanges c.toNat

/-- Whether a name can hold the character. -/
def isNameChar (c : Char) : Bool :=
  isNameStart c || c.isDigit || c = '-' || c = '.' || inRanges nameRestRanges c.toNat

end RoadNet.Xml
