/-!
# RoadNet.Yaml.Source

The characters of a YAML text, each with the place where it stands. Line ends are made uniform
first: a carriage return, with or without a line feed, and a next-line character each count as
one line feed, while the two Unicode separators stay as they are.
-/

namespace RoadNet.Yaml

/-- A character and its place; both coordinates count from zero. -/
structure Cell where
  char : Char
  line : Nat
  column : Nat
deriving DecidableEq, Repr

/-! ## Character classes -/

/-- Whether a YAML text may hold a character. -/
def isAllowed (c : Char) : Bool :=
  let n := c.toNat
  n = 0x9 || n = 0xA || n = 0xD || (0x20 ≤ n && n ≤ 0x7E) || n = 0x85 ||
    (0xA0 ≤ n && n ≤ 0xD7FF) || (0xE000 ≤ n && n ≤ 0xFFFD) || 0x10000 ≤ n

/-- A line end, once line ends are uniform. -/
def isBreak (c : Char) : Bool := c = '\n' || c = '\u2028' || c = '\u2029'

/-- A space or a tab. -/
def isGap (c : Char) : Bool := c = ' ' || c = '\t'

/-- The characters of anchor names and tag handles. -/
def isWordChar (c : Char) : Bool := c.isAlphanum || c = '_' || c = '-'

/-! ## Placing characters -/

/-- Make line ends uniform. -/
def uniformBreaks : List Char → List Char
  | [] => []
  | '\r' :: '\n' :: cs => '\n' :: uniformBreaks cs
  | c :: cs => (if c = '\r' || c = '\u0085' then '\n' else c) :: uniformBreaks cs

/-- Place characters from a given place on. -/
def placeFrom (line column : Nat) : List Char → List Cell
  | [] => []
  | c :: cs =>
    ⟨c, line, column⟩ ::
      (if isBreak c then placeFrom (line + 1) 0 cs else placeFrom line (column + 1) cs)

/-- The characters of cells. -/
def cellChars (cells : List Cell) : List Char := cells.map (·.char)

/-- The placed characters of a text (`placeFrom`), unless it holds one that is not `isAllowed`. A
byte order mark at the start is dropped but keeps its column. -/
def source? (s : String) : Option (List Cell) :=
  if s.toList.all isAllowed then
    match placeFrom 0 0 (uniformBreaks s.toList) with
    | ⟨'\uFEFF', _, _⟩ :: cells => some cells
    | cells => some cells
  else none

/-! ## Looking ahead -/

/-- Whether nothing but a line end or the end of the text follows. -/
def atBreak : List Cell → Bool
  | [] => true
  | x :: _ => isBreak x.char

/-- Whether a cell that `isGap` or `isBreak`, or the end of the text, follows. -/
def atGap : List Cell → Bool
  | [] => true
  | x :: _ => isBreak x.char || isGap x.char

/-- Whether one of the given characters follows. -/
def atOneOf (chars : List Char) : List Cell → Bool
  | [] => false
  | x :: _ => x.char ∈ chars

/-- Whether three hyphens or three points stand at the start of a line, with a gap behind. -/
def atDocumentMark : List Cell → Bool
  | x :: y :: z :: rest =>
    x.column = 0 && (x.char = '-' || x.char = '.') && y.char = x.char && z.char = x.char &&
      atGap rest
  | _ => false

/-- Skip the cells that `isGap`. -/
def dropGaps (cells : List Cell) : List Cell := cells.dropWhile fun x => isGap x.char

/-- Skip the rest of a line, but not its end. -/
def dropLine (cells : List Cell) : List Cell := cells.dropWhile fun x => !isBreak x.char

end RoadNet.Yaml
