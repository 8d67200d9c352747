import RoadNet.Yaml.Source

/-!
# RoadNet.Yaml.BlockScalar

Block scalars: indented lines behind `|`, which keeps line ends, or `>`, which folds them. The
header may fix the indentation and says what becomes of the line ends at the bottom.
-/

namespace RoadNet.Yaml

/-- What becomes of the line ends behind the last line. -/
inductive Chomping where
  /-- All are dropped. -/
  | strip
  /-- The one that ends the last line stays. -/
  | clip
  /-- All stay. -/
  | keep
deriving DecidableEq, Repr

/-- The header of a block scalar. -/
structure BlockHeader where
  chomping : Chomping
  /-- How much deeper than its parent the text is indented, if the header says so. -/
  step : Option Nat
deriving DecidableEq, Repr

/-- Read a sign that sets the chomping. -/
def takeChomping : List Cell → Chomping × List Cell
  | [] => (.clip, [])
  | x :: rest =>
    if x.char = '+' then (.keep, rest) else if x.char = '-' then (.strip, rest)
    else (.clip, x :: rest)

/-- Read a digit that sets the indentation; it may not be zero. -/
def takeStep? : List Cell → Option (Option Nat × List Cell)
  | [] => some (none, [])
  | x :: rest =>
    if x.char = '0' then none
    else if x.char.isDigit then some (some (x.char.toNat - 48), rest)
    else some (none, x :: rest)

/-- Read the indicators of a header, `takeChomping` and `takeStep?` in either order. -/
def takeIndicators? (cells : List Cell) : Option (BlockHeader × List Cell) :=
  match takeChomping cells with
  | (.clip, _) => (takeStep? cells).map fun (step, rest) =>
    match step with
    | none => (⟨.clip, none⟩, rest)
    | some _ => let (chomping, rest) := takeChomping rest; (⟨chomping, step⟩, rest)
  | (chomping, rest) => (takeStep? rest).map fun (step, rest) => (⟨chomping, step⟩, rest)

/-- Skip white space and a comment up to the end of the line; nothing else may stand there. -/
def takeLineEnd? (cells : List Cell) : Option (List Cell) :=
  let rest := dropGaps cells
  let rest := if atOneOf ['#'] rest then dropLine rest else rest
  if atBreak rest then some (rest.drop 1) else none

/-! ## Lines -/

/-- Empty lines in front of a line of text. -/
structure EmptyLines where
  breaks : List Char
  /-- The deepest indentation seen. -/
  deepest : Nat
  rest : List Cell

/-- Whether a column is left of the indentation, which may still be open. -/
def isLeftOf (indent : Option Nat) (column : Nat) : Bool :=
  match indent with
  | some n => column < n
  | none => true

/-- Skip indentation and empty lines, at most `fuel` of them. A tab may not stand in the
indentation. -/
def takeEmptyLines? (indent : Option Nat) : Nat → List Cell → Option EmptyLines
  | 0, _ => none
  | fuel + 1, cells =>
    match cells.dropWhile fun x => x.char = ' ' && isLeftOf indent x.column with
    | [] => some ⟨[], 0, []⟩
    | x :: rest =>
      if x.char = '\t' && isLeftOf indent x.column then none
      else if isBreak x.char then
        (takeEmptyLines? indent fuel rest).map fun e =>
          ⟨x.char :: e.breaks, max x.column e.deepest, e.rest⟩
      else some ⟨[], x.column, x :: rest⟩

/-- A line of text with what ends it. -/
structure BlockLine where
  text : List Char
  /-- The end of the line; missing at the end of the text. -/
  lineEnd : List Char
  /-- The ends of the empty lines behind it. -/
  breaks : List Char

/-- Read the lines at an indentation, at most `fuel` of them, with at most as many empty lines
behind each. -/
def takeLines? (indent : Nat) : Nat → List Cell → Option (List BlockLine × List Cell)
  | 0, _ => none
  | _, [] => some ([], [])
  | fuel + 1, x :: cells =>
    if x.column = indent then do
      let (text, rest) := (x :: cells).span fun y => !isBreak y.char
      let empty ← takeEmptyLines? (some indent) (fuel + 1) (rest.drop 1)
      let (more, rest') ← takeLines? indent fuel empty.rest
      return (⟨cellChars text, cellChars (rest.take 1), empty.breaks⟩ :: more, rest')
    else some ([], x :: cells)

/-! ## Text -/

/-- Whether a line starts with a space or a tab. -/
def BlockLine.isIndented (line : BlockLine) : Bool := (line.text.head?.map isGap).getD false

/-- What stands between a line and the next. Folding turns a lone line end between two lines
that are not indented further into a space. -/
def lineSeparator (folded : Bool) (line next : BlockLine) : List Char :=
  if folded && line.lineEnd = ['\n'] && !line.isIndented && !next.isIndented then
    if line.breaks.isEmpty then [' '] else line.breaks
  else line.lineEnd ++ line.breaks

/-- What stays of the line ends behind the last line, by its `Chomping`. -/
def BlockLine.tail (chomping : Chomping) (line : BlockLine) : List Char :=
  match chomping with
  | .strip => []
  | .clip => line.lineEnd
  | .keep => line.lineEnd ++ line.breaks

/-- Join lines to a text, with `lineSeparator` between them. -/
def joinLines (folded : Bool) (chomping : Chomping) : List BlockLine → List Char
  | [] => []
  | [line] => line.text ++ line.tail chomping
  | line :: next :: rest =>
    line.text ++ lineSeparator folded line next ++ joinLines folded chomping (next :: rest)

/-- Read a block scalar of at most `fuel` lines behind its `|` or `>`, below a parent that is
indented by `parent`, or at the top. -/
def takeBlock? (fuel : Nat) (folded : Bool) (parent : Option Nat) (cells : List Cell) :
    Option (List Char × List Cell) := do
  let (header, rest) ← takeIndicators? cells
  let rest ← takeLineEnd? rest
  let fixed := header.step.map fun n => parent.getD 0 + n
  let empty ← takeEmptyLines? fixed fuel rest
  let least := max 1 ((parent.map (· + 1)).getD 0)
  let indent := fixed.getD (max empty.deepest least)
  let (lines, rest) ← takeLines? indent fuel empty.rest
  let text := joinLines folded header.chomping lines
  if lines.isEmpty then return (if header.chomping = .keep then empty.breaks else [], rest)
  return (empty.breaks ++ text, rest)

end RoadNet.Yaml
