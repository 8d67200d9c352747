import RoadNet.Yaml.BlockScalar
import RoadNet.Yaml.FlowScalar

/-!
# RoadNet.Yaml.Property

Anchors, aliases, tags and directives: the marks that stand in front of a node or of a whole
document.
-/

namespace RoadNet.Yaml

/-- Read the word characters at the start of a text. -/
def takeWordChars (cells : List Cell) : List Char × List Cell :=
  let (word, rest) := cells.span fun x => isWordChar x.char
  (cellChars word, rest)

/-! ## Anchors -/

/-- Read the name of an anchor or alias; a gap or one of a few marks follows it. -/
def takeAnchor? (cells : List Cell) : Option (String × List Cell) :=
  let (name, rest) := takeWordChars cells
  if name.isEmpty then none
  else if atGap rest || atOneOf ['?', ':', ',', ']', '}', '%', '@', '\x60'] rest then
    some (String.ofList name, rest)
  else none

/-! ## Tags -/

/-- The characters of tags that are no word characters. -/
def tagMarks : List Char :=
  [';', '/', '?', ':', '@', '&', '=', '+', '$', '.', '!', '~', '*', '\'', '(', ')']

/-- Read one byte written as a percent sign and two hexadecimal digits. -/
def takeByte? : List Cell → Option (Nat × List Cell)
  | x :: y :: z :: rest =>
    if x.char = '%' then (hexNumber? [y.char, z.char]).map fun n => (n, rest) else none
  | _ => none

/-- How many bytes follow the first byte of a character in UTF-8. -/
def followers? (byte : Nat) : Option Nat :=
  if byte < 0x80 then some 0
  else if byte < 0xC0 then none
  else if byte < 0xE0 then some 1
  else if byte < 0xF0 then some 2
  else if byte < 0xF8 then some 3
  else none

/-- Read the following bytes of a character. -/
def takeFollowers? : Nat → List Cell → Option (List Nat × List Cell)
  | 0, cells => some ([], cells)
  | n + 1, cells => do
    let (byte, rest) ← takeByte? cells
    if byte / 64 ≠ 2 then none
    let (more, rest) ← takeFollowers? n rest
    return (byte :: more, rest)

/-- Read a character written as the bytes of its UTF-8 form. -/
def takeEscapedChar? (cells : List Cell) : Option (Char × List Cell) := do
  let (byte, rest) ← takeByte? cells
  let (more, rest) ← takeFollowers? (← followers? byte) rest
  let bytes := ByteArray.mk ((byte :: more).map Nat.toUInt8).toArray
  match (← String.fromUTF8? bytes).toList with
  | [c] => return (c, rest)
  | _ => none

/-- Read the text of a tag, of at most `fuel` characters. Inside of angle brackets more
characters may occur. -/
def takeTagText? (bracketed : Bool) : Nat → List Cell → Option (List Char × List Cell)
  | 0, _ => none
  | _, [] => some ([], [])
  | fuel + 1, x :: rest =>
    if x.char = '%' then do
      let (c, rest) ← takeEscapedChar? (x :: rest)
      let (more, rest) ← takeTagText? bracketed fuel rest
      return (c :: more, rest)
    else if isWordChar x.char || x.char ∈ tagMarks ||
        (bracketed && x.char ∈ [',', '[', ']']) then
      (takeTagText? bracketed fuel rest).map fun p => (x.char :: p.1, p.2)
    else some ([], x :: rest)

/-- A tag: a handle, which stands for the start of the tag, and the rest of it. -/
structure TagName where
  handle : String
  suffix : String
deriving DecidableEq, Repr

/-- The handle of local tags. -/
def localHandle : String := "!"

/-- Read a tag behind its exclamation mark: in angle brackets, with a handle that a second
exclamation mark ends, or local. A single exclamation mark is a tag without a handle. -/
def takeTagName? (cells : List Cell) : Option (TagName × List Cell) := do
  match cells with
  | ⟨'<', _, _⟩ :: rest =>
    let (text, rest) ← takeTagText? true (rest.length + 1) rest
    if text.isEmpty || !atOneOf ['>'] rest then none
    return (⟨"", String.ofList text⟩, rest.drop 1)
  | _ =>
    let (word, rest) := takeWordChars cells
    if atOneOf ['!'] rest then
      let (text, rest) ← takeTagText? false rest.length (rest.drop 1)
      if text.isEmpty then none
      return (⟨String.ofList ('!' :: word ++ ['!']), String.ofList text⟩, rest)
    else
      let (text, rest) ← takeTagText? false (rest.length + 1) rest
      if word.isEmpty && text.isEmpty then return (⟨"", localHandle⟩, rest)
      return (⟨localHandle, String.ofList (word ++ text)⟩, rest)

/-- Read a tag behind its exclamation mark, with the gap behind it. Inside a flow collection a
comma may follow as well. -/
def takeTag? (flow : Bool) (cells : List Cell) : Option (TagName × List Cell) := do
  let (tag, rest) ← takeTagName? cells
  if atGap rest || (flow && atOneOf [','] rest) then return (tag, rest) else none

/-! ## Directives -/

/-- A directive in front of a document. -/
inductive Directive where
  | version (major minor : Nat)
  /-- A handle stands for the start of a tag. -/
  | tagHandle (handle start : String)
deriving DecidableEq, Repr

/-- Read a number of one to nine digits. -/
def takeVersionNumber? (cells : List Cell) : Option (Nat × List Cell) :=
  let (digits, rest) := cells.span fun x => x.char.isDigit
  if digits.isEmpty || 9 < digits.length then none
  else some ((cellChars digits).foldl (fun n c => 10 * n + (c.toNat - 48)) 0, rest)

/-- Read the body of a version directive. -/
def takeVersion? (cells : List Cell) : Option (Directive × List Cell) := do
  let (major, rest) ← takeVersionNumber? (dropGaps cells)
  if !atOneOf ['.'] rest then none
  let (minor, rest) ← takeVersionNumber? (rest.drop 1)
  return (.version major minor, rest)

/-- Read a tag handle as it stands in a directive. -/
def takeHandle? (cells : List Cell) : Option (String × List Cell) :=
  if !atOneOf ['!'] cells then none
  else
    let (word, rest) := takeWordChars (cells.drop 1)
    if atOneOf ['!'] rest then some (String.ofList ('!' :: word ++ ['!']), rest.drop 1)
    else if word.isEmpty then some (localHandle, rest)
    else none

/-- Read the body of a tag directive. -/
def takeTagHandle? (cells : List Cell) : Option (Directive × List Cell) := do
  let (handle, rest) ← takeHandle? (dropGaps cells)
  if !atOneOf [' ', '\t'] rest then none
  let (start, rest) ← takeTagText? true (rest.length + 1) (dropGaps rest)
  if start.isEmpty || !atGap rest then none
  return (.tagHandle handle (String.ofList start), rest)

/-- Read a directive behind its percent sign, with the line it stands on. -/
def takeDirective? (cells : List Cell) : Option (Directive × List Cell) := do
  let (name, rest) := takeWordChars cells
  if !atGap rest then none
  let (directive, rest) ←
    if name = "YAML".toList then takeVersion? rest
    else if name = "TAG".toList then takeTagHandle? rest
    else none
  return (directive, ← takeLineEnd? rest)

end RoadNet.Yaml
