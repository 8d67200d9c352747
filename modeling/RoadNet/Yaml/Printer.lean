import RoadNet.Yaml.Value

/-!
# RoadNet.Yaml.Printer

Writing values as YAML in block style. Text is written plain where it reads back as the same
text; else in single quotes, as a block scalar if it has line feeds, or in double quotes where
nothing else can carry it.
-/

namespace RoadNet.Yaml

/-! ## Text -/

/-- How text is written. -/
inductive TextStyle where
  | plain
  | singleQuoted
  | doubleQuoted
  | literal
deriving DecidableEq, Repr

/-- Whether a character may be written as it is. -/
def isWritable (c : Char) : Bool :=
  let n := c.toNat
  n = 0xA || (0x20 ≤ n && n ≤ 0x7E) || (0xA0 ≤ n && n ≤ 0xFFFD && n ≠ 0xFEFF) || 0x10000 ≤ n

/-- A line end of any kind. -/
def isLineEnd (c : Char) : Bool := isBreak c || c = '\r' || c = '\u0085'

/-- Whether a character is a space, a tab or a line end. -/
def isSpacer (c : Char) : Bool := isGap c || isLineEnd c

/-- Whether some character with one property stands right before one with another. -/
def hasPair (p q : Char → Bool) : List Char → Bool
  | a :: b :: rest => (p a && q b) || hasPair p q (b :: rest)
  | _ => false

/-- Whether a character with a property stands first or last. -/
def hasAtEnd (p : Char → Bool) (cs : List Char) : Bool :=
  (cs.head?.map p).getD false || (cs.getLast?.map p).getD false

/-- The characters that mean something else at the start of plain text. -/
def leadingMarks : List Char :=
  ['#', ',', '[', ']', '{', '}', '&', '*', '!', '|', '>', '\'', '"', '%', '@', '\x60']

/-- Whether plain text would be taken for something that is no scalar, or for one that ends
early. -/
def hasMark (cs : List Char) : Bool :=
  let startsMark : Bool := match cs with
    | [] => false
    | c :: rest =>
      c ∈ leadingMarks || (c ∈ ['?', '-'] && (rest.head?.map isSpacer).getD true)
  startsMark || ['-', '-', '-'].isPrefixOf cs || ['.', '.', '.'].isPrefixOf cs ||
    hasPair (· = ':') isSpacer cs || cs.getLast? = some ':' || hasPair isSpacer (· = '#') cs

/-- Whether text can be written plain. -/
def canBePlain (cs : List Char) : Bool :=
  cs.all isWritable && !cs.any isBreak && !hasAtEnd (· = ' ') cs && !hasMark cs

/-- Whether text can be written in single quotes. -/
def canBeSingleQuoted (cs : List Char) : Bool :=
  cs.all isWritable && !hasPair (· = ' ') isBreak cs && !hasPair isBreak (· = ' ') cs

/-- Whether text can be written as a block scalar. -/
def canBeLiteral (cs : List Char) : Bool :=
  cs.all isWritable && !hasPair (· = ' ') isBreak cs && cs.getLast? != some ' '

/-- Whether plain text would not be read as text, or looks like a number. -/
def isAmbiguous (s : String) : Bool :=
  match Scalar.ofPlain s with
  | .text _ => hasLeadingZero s.toList
  | _ => true

/-- How a text is written. -/
def textStyle (s : String) : TextStyle :=
  let cs := s.toList
  if cs.contains '\n' then
    if canBeLiteral cs then .literal else .doubleQuoted
  else if !isAmbiguous s && canBePlain cs then .plain
  else if canBeSingleQuoted cs then .singleQuoted
  else .doubleQuoted

/-! ## Quoted text and block scalars -/

/-- Spaces up to a column. -/
def pad (indent : Nat) : List Char := List.replicate indent ' '

/-- Write characters with every line but the first indented. A line that is empty stays so. -/
def indented (indent : Nat) : Bool → List Char → List Char
  | _, [] => []
  | atStart, c :: cs =>
    if isBreak c then c :: indented indent true cs
    else (if atStart then pad indent else []) ++ c :: indented indent false cs

/-- Write a quote twice. -/
def doubleQuotes : List Char → List Char
  | [] => []
  | '\'' :: cs => '\'' :: '\'' :: doubleQuotes cs
  | c :: cs => c :: doubleQuotes cs

/-- Whether the last character is a line end. -/
def endsLine (cs : List Char) : Bool := (cs.getLast?.map isBreak).getD false

/-- Text in single quotes. -/
def singleQuoted (indent : Nat) (cs : List Char) : List Char :=
  '\'' :: indented indent false (doubleQuotes cs) ++ (if endsLine cs then pad indent else []) ++
    ['\'']

/-- A number with a set count of hexadecimal digits in upper case. -/
def hexText (count n : Nat) : List Char :=
  let digits := (Nat.toDigits 16 n).map Char.toUpper
  List.replicate (count - digits.length) '0' ++ digits

/-- The letters of escapes in writing, by the character they stand for. -/
def escapeLetters : List (Char × Char) :=
  [('\x00', '0'), ('\x07', 'a'), ('\x08', 'b'), ('\t', 't'), ('\n', 'n'), ('\x0B', 'v'),
   ('\x0C', 'f'), ('\r', 'r'), ('\x1B', 'e'), ('"', '"'), ('\\', '\\'), ('\u0085', 'N'),
   ('\u2028', 'L'), ('\u2029', 'P')]

/-- A character inside of double quotes. -/
def doubleQuotedChar (c : Char) : List Char :=
  if isWritable c && !isBreak c && c ≠ '"' && c ≠ '\\' then [c]
  else
    match escapeLetters.lookup c with
    | some letter => ['\\', letter]
    | none =>
      if c.toNat < 0x100 then '\\' :: 'x' :: hexText 2 c.toNat
      else if c.toNat < 0x10000 then '\\' :: 'u' :: hexText 4 c.toNat
      else '\\' :: 'U' :: hexText 8 c.toNat

/-- Text in double quotes. -/
def doubleQuoted (cs : List Char) : List Char := '"' :: cs.flatMap doubleQuotedChar ++ ['"']

/-- The sign for the line ends at the bottom of a block scalar. -/
def chompingSign (cs : List Char) : List Char :=
  match cs.reverse with
  | [] => ['-']
  | [c] => if isBreak c then ['+'] else ['-']
  | c :: before :: _ => if !isBreak c then ['-'] else if isBreak before then ['+'] else []

/-- The step of indentation. -/
def indentStep : Nat := 2

/-- Text as a block scalar, with the line end behind it. The header gives the indentation if
the text starts with white space. -/
def literal (indent : Nat) (cs : List Char) : List Char :=
  let step : List Char := match cs with
    | c :: _ => if c = ' ' || isBreak c then Nat.toDigits 10 indentStep else []
    | [] => []
  '|' :: step ++ chompingSign cs ++ '\n' :: indented indent true cs ++
    (if endsLine cs then [] else ['\n'])

/-- Text in its style, with the line end behind it; further lines are indented. -/
def textLines (indent : Nat) (s : String) : List Char :=
  match textStyle s with
  | .plain => s.toList ++ ['\n']
  | .singleQuoted => singleQuoted indent s.toList ++ ['\n']
  | .doubleQuoted => doubleQuoted s.toList ++ ['\n']
  | .literal => literal indent s.toList

/-! ## Values -/

/-- The number of bytes that a key of the short form may be long. -/
def shortKeyLimit : Nat := 128

/-- Whether a key can stand on one line with its colon. -/
def isShortKey (s : String) : Bool :=
  !(s.toList.any isLineEnd) && s.utf8ByteSize ≤ shortKeyLimit

/-- A scalar on a line of its own. -/
def lineOf (s : String) : List Char := s.toList ++ ['\n']

mutual

/-- Write a value where its first line starts at column `indent`. -/
def Value.block (indent : Nat) : Value → List Char
  | .null => lineOf "null"
  | .bool b => lineOf (if b then "true" else "false")
  | .int n => lineOf (toString n)
  | .real x => lineOf (numeral x)
  | .text s => textLines indent s
  | .sequence [] => lineOf "[]"
  | .sequence items => itemLines indent items
  | .mapping [] => lineOf "\x7b\x7d"
  | .mapping entries => entryLines indent entries
  | .tagged tag v => '!' :: tag.toList ++ ' ' :: v.block indent

/-- Write the items of a sequence. -/
def itemLines (indent : Nat) : List Value → List Char
  | [] => []
  | v :: rest =>
    '-' :: ' ' :: v.block (indent + indentStep) ++
      (if rest.isEmpty then [] else pad indent ++ itemLines indent rest)

/-- Write the entries of a mapping. A key that is long or runs over lines is set apart from its
value. -/
def entryLines (indent : Nat) : List (Value × Value) → List Char
  | [] => []
  | (key, v) :: rest =>
    (match key with
      | .text s =>
        if isShortKey s then (textLines indent s).dropLast ++ ':' :: v.behindKey indent
        else '?' :: ' ' :: textLines (indent + indentStep) s ++ pad indent ++ ':' :: ' ' ::
          v.block (indent + indentStep)
      | other => '?' :: ' ' :: other.block (indent + indentStep) ++ pad indent ++ ':' :: ' ' ::
          v.block (indent + indentStep)) ++
      (if rest.isEmpty then [] else pad indent ++ entryLines indent rest)

/-- Write a value behind the colon of its key. A sequence is not indented below its key. -/
def Value.behindKey (indent : Nat) : Value → List Char
  | .sequence (v :: rest) => '\n' :: pad indent ++ itemLines indent (v :: rest)
  | .mapping (e :: rest) =>
    '\n' :: pad (indent + indentStep) ++ entryLines (indent + indentStep) (e :: rest)
  | v => ' ' :: v.block (indent + indentStep)

end

/-- Write a value as a document. -/
def Value.document (v : Value) : String := String.ofList (v.block 0)

end RoadNet.Yaml
