import RoadNet.Xml.Character

/-!
# RoadNet.Xml.Escape

Text inside double-quoted attributes. Writing escapes the characters that markup, quotes and
the normalisation of white space would change; reading resolves references and turns raw line
ends and tabs into spaces.
-/

namespace RoadNet.Xml

/-! ## Writing -/

/-- The escape of a character, if it needs one. -/
def escapes : List (Char × String) :=
  [('<', "&lt;"), ('>', "&gt;"), ('&', "&amp;"), ('"', "&quot;"), ('\'', "&apos;"),
   ('\n', "&#10;"), ('\t', "&#9;"), ('\r', "&#13;")]

/-- One character as it is written in an attribute, by the `escapes`. -/
def escapeChar (c : Char) : List Char :=
  match escapes.lookup c with
  | some s => s.toList
  | none => [c]

/-- A text with `escapeChar` of each of its characters. -/
def escapeAll (s : String) : String := String.ofList (s.toList.flatMap escapeChar)

/-- The characters that do not stand for themselves in an attribute. -/
def markup : List Char := ['<', '>', '&', '"', '\'', '\n', '\t', '\r']

/-- A text as it is written in an attribute; one without `markup` is taken as it is. -/
def escape (s : String) : String := if s.toList.any markup.contains then escapeAll s else s

/-! ## Reading -/

/-- The value of a hexadecimal digit. -/
def hexValue (c : Char) : Nat :=
  if c.isDigit then c.toNat - '0'.toNat else c.toLower.toNat - 'a'.toNat + 10

/-- Whether a character is a hexadecimal digit. -/
def isHexDigit (c : Char) : Bool :=
  c.isDigit || ('a' ≤ c && c ≤ 'f') || ('A' ≤ c && c ≤ 'F')

/-- The number that digits denote in a base. -/
def numberIn (base : Nat) (cs : List Char) : Nat :=
  cs.foldl (fun n c => base * n + hexValue c) 0

/-- The character of a code point. Code points that are no characters stand for U+FFFD; numbers
beyond 32 bits and characters that a document cannot hold are refused. -/
def charOfCode? (n : Nat) : Option Char :=
  let c := if n.isValidChar then Char.ofNat n else '\uFFFD'
  if n < UInt32.size && isXmlChar c then some c else none

/-- The character that the body of a reference, between `&` and `;`, stands for. -/
def referenceChar? (body : List Char) : Option Char :=
  match body with
  | '#' :: 'x' :: digits =>
    if !digits.isEmpty && digits.all isHexDigit then charOfCode? (numberIn 16 digits) else none
  | '#' :: digits =>
    if !digits.isEmpty && digits.all Char.isDigit then charOfCode? (numberIn 10 digits) else none
  | name =>
    [("lt", '<'), ("gt", '>'), ("amp", '&'), ("quot", '"'), ("apos", '\'')].lookup
      (String.ofList name)

/-- Resolve the references of a text. The first argument is the body, in reverse, of the
reference that is being read, if any. -/
def resolve? : Option (List Char) → List Char → Option (List Char)
  | none, [] => some []
  | some _, [] => none
  | none, '&' :: cs => resolve? (some []) cs
  | none, c :: cs => (resolve? none cs).map (c :: ·)
  | some body, ';' :: cs => do
    let c ← referenceChar? body.reverse
    return c :: (← resolve? none cs)
  | some body, c :: cs => resolve? (some (c :: body)) cs

/-- Turn raw line ends and tabs into spaces; a carriage return and a line feed make one. -/
def normalizeSpaces : List Char → List Char
  | [] => []
  | '\r' :: '\n' :: cs => ' ' :: normalizeSpaces cs
  | c :: cs => (if isSpace c then ' ' else c) :: normalizeSpaces cs

/-- The value of an attribute, from what stands between its quotes: `normalizeSpaces`, then
`resolve?`. -/
def attributeValue? (raw : List Char) : Option String :=
  (resolve? none (normalizeSpaces raw)).map String.ofList

end RoadNet.Xml
