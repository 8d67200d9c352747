/-!
# RoadNet.Text.Numeral

Whole numbers written in decimal: digits with an optional sign in front, nothing else.
-/

namespace RoadNet.Text

/-- The value of an ASCII digit. -/
def digitValue (c : Char) : Nat := c.toNat - '0'.toNat

/-- The number a list of digits denotes by their `digitValue`, most significant first. -/
def ofDigits (cs : List Char) : Nat := cs.foldl (fun n c => 10 * n + digitValue c) 0

/-- The digits at the start of a text, and the rest. -/
def spanDigits (cs : List Char) : List Char × List Char := cs.span Char.isDigit

/-- Take an optional sign off; `true` means a minus sign. -/
def splitSign : List Char → Bool × List Char
  | '-' :: cs => (true, cs)
  | '+' :: cs => (false, cs)
  | cs => (false, cs)

/-- Read a non-empty run of digits that fills the whole text. -/
def readNat? (cs : List Char) : Option Nat :=
  if !cs.isEmpty && cs.all Char.isDigit then some (ofDigits cs) else none

/-- Read a whole number with an optional sign. -/
def readInt? (cs : List Char) : Option Int :=
  let (negative, digits) := splitSign cs
  (readNat? digits).map fun n => if negative then -(n : Int) else n

/-- Read a whole number between 0 and 255. A plus sign is allowed, a minus sign is not. -/
def readByte? (cs : List Char) : Option UInt8 :=
  let digits := match cs with
    | '+' :: rest => rest
    | _ => cs
  (readNat? digits).bind fun n => if n < 256 then some n.toUInt8 else none

/-- Read `true` or `false`, in lower case only. -/
def readBool? (cs : List Char) : Option Bool :=
  if cs = "true".toList then some true
  else if cs = "false".toList then some false
  else none

/-- Read a single character. -/
def readChar? : List Char → Option Char
  | [c] => some c
  | _ => none

end RoadNet.Text
