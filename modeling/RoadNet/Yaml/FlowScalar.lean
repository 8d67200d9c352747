import RoadNet.Yaml.Source

/-!
# RoadNet.Yaml.FlowScalar

Plain and quoted scalars. Both may run over several lines: a single line end between two words
reads as a space, and of several in a row all but the first are kept.
-/

namespace RoadNet.Yaml

/-! ## Space between words -/

/-- Whether a cell is white space of either kind, `isGap` or `isBreak`. -/
def isSpacing (x : Cell) : Bool := isGap x.char || isBreak x.char

/-- The line ends among cells. -/
def breaksOf (run : List Cell) : List Char := (cellChars run).filter isBreak

/-- What a `run` of white space inside a scalar stands for. -/
def foldSpacing (run : List Cell) : List Char :=
  match breaksOf run with
  | [] => cellChars run
  | ['\n'] => [' ']
  | '\n' :: more => more
  | breaks => breaks

/-! ## Quoted scalars -/

/-- The characters that a backslash and one letter stand for. -/
def shortEscapes : List (Char × Char) :=
  [('0', '\x00'), ('a', '\x07'), ('b', '\x08'), ('t', '\t'), ('\t', '\t'), ('n', '\n'),
   ('v', '\x0B'), ('f', '\x0C'), ('r', '\r'), ('e', '\x1B'), (' ', ' '), ('"', '"'), ('/', '/'),
   ('\\', '\\'), ('N', '\u0085'), ('_', '\u00A0'), ('L', '\u2028'), ('P', '\u2029')]

/-- How many hexadecimal digits follow the letters that announce a code point. -/
def longEscapes : List (Char × Nat) := [('x', 2), ('u', 4), ('U', 8)]

/-- The value of a hexadecimal digit. -/
def hexDigit? (c : Char) : Option Nat :=
  if c.isDigit then some (c.toNat - 48)
  else if 'a' ≤ c ∧ c ≤ 'f' then some (c.toNat - 87)
  else if 'A' ≤ c ∧ c ≤ 'F' then some (c.toNat - 55)
  else none

/-- The number that `hexDigit?` of each character denotes. -/
def hexNumber? (cs : List Char) : Option Nat :=
  cs.foldlM (fun n c => (hexDigit? c).map fun d => 16 * n + d) 0

/-- The character of a code point; surrogates are none. -/
def charOfCode? (n : Nat) : Option Char :=
  if n.isValidChar then some (Char.ofNat n) else none

/-- Read an escape behind its backslash, by `shortEscapes` and `longEscapes`. -/
def takeEscape? : List Cell → Option (Char × List Cell)
  | [] => none
  | x :: rest =>
    match shortEscapes.lookup x.char, longEscapes.lookup x.char with
    | some c, _ => some (c, rest)
    | none, some n => do
      let digits := cellChars (rest.take n)
      if digits.length ≠ n then none
      let c ← charOfCode? (← hexNumber? digits)
      return (c, rest.drop n)
    | none, none => none

/-- Read a quoted scalar behind its opening quote, over at most `fuel` parts. In single quotes a
doubled quote stands for one; in double quotes a backslash escapes, also a line end. -/
def takeQuoted? (double : Bool) : Nat → List Cell → Option (List Char × List Cell)
  | 0, _ => none
  | _, [] => none
  | fuel + 1, x :: rest =>
    let quote := if double then '"' else '\''
    let continued (text : List Char) (after : List Cell) : Option (List Char × List Cell) :=
      (takeQuoted? double fuel after).map fun p => (text ++ p.1, p.2)
    if atDocumentMark (x :: rest) then none
    else if isSpacing x then
      let (run, after) := (x :: rest).span isSpacing
      continued (foldSpacing run) after
    else if x.char = quote then
      match rest with
      | y :: after => if !double && y.char = quote then continued [quote] after else some ([], rest)
      | [] => some ([], [])
    else if double && x.char = '\\' then
      match rest with
      | y :: after =>
        if isBreak y.char then
          let (run, after) := after.span isSpacing
          continued (breaksOf run) after
        else do
          let (c, after) ← takeEscape? rest
          continued [c] after
      | [] => none
    else continued [x.char] rest

/-! ## Plain scalars -/

/-- The characters that end a plain scalar inside a flow collection. -/
def flowMarks : List Char := [',', '[', ']', '{', '}']

/-- Read a word of a plain scalar. It ends at white space and at a colon with a gap behind it,
and inside a flow collection at its marks; there a colon right before such a mark is refused. -/
def takeWord? (flow : Bool) : List Cell → Option (List Char × List Cell)
  | [] => some ([], [])
  | x :: rest =>
    if isSpacing x then some ([], x :: rest)
    else if flow && x.char = ':' && atOneOf ('?' :: flowMarks) rest then none
    else if (x.char = ':' && atGap rest) || (flow && x.char ∈ flowMarks) then some ([], x :: rest)
    else (takeWord? flow rest).map fun p => (x.char :: p.1, p.2)

/-- Whether a tab stands left of a column behind the first line end of a run. -/
def hasEarlyTab (column : Nat) (run : List Cell) : Bool :=
  (run.dropWhile fun x => !isBreak x.char).any fun x => x.char = '\t' && x.column < column

/-- A plain scalar that was read, and what follows it. -/
structure PlainScalar where
  text : List Char
  /-- Whether white space with a line end follows the scalar. -/
  endsLine : Bool
  rest : List Cell

/-- Read a plain scalar of at most `fuel` words. Outside of flow collections it holds only words
that stand at `column` or further right; a comment or a document mark ends it. -/
def takePlain? (flow : Bool) (column : Nat) : Nat → List Cell → Option PlainScalar
  | 0, _ => none
  | fuel + 1, cells => do
    let (word, rest) ← takeWord? flow cells
    let (run, after) := rest.span isSpacing
    let broken := !(breaksOf run).isEmpty
    if hasEarlyTab column run then none
    let ends := match after with
      | [] => true
      | x :: _ => (!flow && x.column < column) || x.char = '#' || atDocumentMark after
    if run.isEmpty || ends then return ⟨word, broken, after⟩
    let more ← takePlain? flow column fuel after
    if more.text.isEmpty then return ⟨word, broken, more.rest⟩
    return { more with text := word ++ foldSpacing run ++ more.text }

end RoadNet.Yaml
