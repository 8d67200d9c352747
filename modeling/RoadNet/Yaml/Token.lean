import RoadNet.Yaml.Property

/-!
# RoadNet.Yaml.Token

The tokens that a YAML text is made of. Most of them stand for marks in the text; the start and
the end of block collections follow from indentation, and a key of the short form is only known
to be one when the colon behind it is reached: its token is then put in front of what was read
since.
-/

namespace RoadNet.Yaml

/-- A token. -/
inductive Token where
  | directive (d : Directive)
  | documentStart
  | documentEnd
  | blockSequenceStart
  | blockMappingStart
  | blockEnd
  | flowSequenceStart
  | flowSequenceEnd
  | flowMappingStart
  | flowMappingEnd
  | blockEntry
  | flowEntry
  | key
  | value
  | alias (name : String)
  | anchor (name : String)
  | tag (name : TagName)
  | scalar (text : String) (plain : Bool)
deriving DecidableEq, Repr

/-- A place where a key of the short form may have started. -/
structure PossibleKey where
  line : Nat
  column : Nat
  /-- Whether only a key can stand there. -/
  required : Bool
  /-- How many tokens come before it. -/
  before : Nat
deriving DecidableEq, Repr

/-- The tokens read so far, and what is needed to read more. -/
structure Scanner where
  /-- The tokens, last first. -/
  tokens : List Token
  /-- The number of tokens. -/
  count : Nat
  /-- The columns of the open block collections, innermost first. -/
  indents : List Nat
  /-- Whether a key of the short form may start here. -/
  keyAllowed : Bool
  /-- The possible key of the innermost collection. -/
  key : Option PossibleKey
  /-- The possible keys around each open flow collection, innermost first. -/
  outerKeys : List (Option PossibleKey)

namespace Scanner

/-- Nothing read yet. -/
def start : Scanner := ⟨[], 0, [], true, none, []⟩

/-- Whether a flow collection is open. -/
def inFlow (s : Scanner) : Bool := !s.outerKeys.isEmpty

/-- Add a token. -/
def push (s : Scanner) (t : Token) : Scanner :=
  { s with tokens := t :: s.tokens, count := s.count + 1 }

/-- Put a token behind the first `n` tokens. -/
def insertAt (s : Scanner) (n : Nat) (t : Token) : Scanner :=
  { s with tokens := s.tokens.insertIdx (s.count - n) t, count := s.count + 1 }

/-! ## Indentation -/

/-- The column from which on text belongs to the innermost block collection's items. -/
def innerColumn (s : Scanner) : Nat := (s.indents.head?.map (· + 1)).getD 0

/-- Open a block collection at a column, its token behind the first `n` tokens, unless one that
deep is open already. -/
def openBlock (s : Scanner) (column n : Nat) (t : Token) : Scanner :=
  if s.inFlow || column < s.innerColumn then s
  else { s.insertAt n t with indents := column :: s.indents }

/-- Close the block collections right of `column`, or all without one. -/
def closeBlocks (s : Scanner) (column : Option Nat) : Scanner :=
  if s.inFlow then s
  else
    let stays (i : Nat) : Bool := (column.map fun c => decide (i ≤ c)).getD false
    let closed := s.indents.takeWhile fun i => !stays i
    { s with
      tokens := List.replicate closed.length Token.blockEnd ++ s.tokens
      count := s.count + closed.length
      indents := s.indents.drop closed.length }

/-! ## Keys of the short form -/

/-- Give up the possible key; a required one may not be given up. -/
def dropKey? (s : Scanner) : Option Scanner :=
  if (s.key.map (·.required)).getD false then none else some { s with key := none }

/-- Note that a key may start at the cell `x`. -/
def noteKey? (s : Scanner) (x : Cell) : Option Scanner :=
  if s.keyAllowed then
    let required := !s.inFlow && s.indents.head? = some x.column
    s.dropKey?.map fun s => { s with key := some ⟨x.line, x.column, required, s.count⟩ }
  else some s

/-- The number of characters that a key of the short form may be long. -/
def keyLimit : Nat := 1024

/-- Whether a possible key lies too far back: on another line, or more than `keyLimit` characters
ago. -/
def isStale (x : Cell) (k : PossibleKey) : Bool :=
  k.line < x.line || k.column + keyLimit < x.column

/-- Give up a possible key that lies too far back. -/
def freshKey? (x : Cell) (key : Option PossibleKey) : Option (Option PossibleKey) :=
  match key with
  | none => some none
  | some k => if !isStale x k then some (some k) else if k.required then none else some none

/-- Give up all possible keys that are `isStale`. -/
def dropStaleKeys? (s : Scanner) (x : Cell) : Option Scanner := do
  let key ← freshKey? x s.key
  let outerKeys ← s.outerKeys.mapM (freshKey? x)
  return { s with key, outerKeys }

/-! ## Reading tokens -/

/-- Skip white space, comments and line ends in front of a token, over at most `fuel` lines.
Behind a line end a key may start again. Tabs may not stand where a key can. -/
def skip : Nat → Scanner → List Cell → Scanner × List Cell
  | 0, s, cells => (s, cells)
  | fuel + 1, s, cells =>
    let rest := cells.dropWhile fun x =>
      x.char = ' ' || (x.char = '\t' && (s.inFlow || !s.keyAllowed))
    let rest := if atOneOf ['#'] rest then dropLine rest else rest
    match rest with
    | [] => (s, [])
    | x :: more =>
      if isBreak x.char then skip fuel { s with keyAllowed := s.keyAllowed || !s.inFlow } more
      else (s, rest)

/-- A token that ends everything that is open in block style. -/
def boundary? (s : Scanner) (t : Token) : Option Scanner :=
  (s.closeBlocks none).dropKey?.map fun s => { s.push t with keyAllowed := false }

/-- The start of a flow collection. -/
def openFlow? (s : Scanner) (x : Cell) (t : Token) : Option Scanner :=
  (s.noteKey? x).map fun s =>
    { s.push t with key := none, outerKeys := s.key :: s.outerKeys, keyAllowed := true }

/-- The end of a flow collection. -/
def closeFlow? (s : Scanner) (t : Token) : Option Scanner :=
  s.dropKey?.map fun s =>
    match s.outerKeys with
    | [] => { s.push t with keyAllowed := false }
    | key :: outer => { s.push t with key, outerKeys := outer, keyAllowed := false }

/-- A hyphen or a question mark that starts an item: in block style it opens a collection of its
kind, and may only stand where a key may. -/
def item? (s : Scanner) (x : Cell) (opening t : Token) (keyAllowed : Bool) : Option Scanner :=
  if !s.inFlow && !s.keyAllowed then none
  else
    (s.openBlock x.column s.count opening).dropKey?.map fun s =>
      { s.push t with keyAllowed }

/-- A colon. If a key of the short form may have come before, it has. -/
def value? (s : Scanner) (x : Cell) : Option Scanner :=
  match s.key with
  | some k =>
    let s := (s.insertAt k.before .key).openBlock k.column k.before .blockMappingStart
    some { s.push .value with key := none, keyAllowed := false }
  | none =>
    if !s.inFlow && !s.keyAllowed then none
    else
      let s := s.openBlock x.column s.count .blockMappingStart
      some { s.push .value with keyAllowed := !s.inFlow }

/-- A token that may start a key of the short form and behind which none can start. -/
def content? (s : Scanner) (x : Cell) (t : Token) : Option Scanner :=
  (s.noteKey? x).map fun s => { s.push t with keyAllowed := false }

/-- A plain scalar of at most `fuel` words. -/
def plain? (fuel : Nat) (s : Scanner) (x : Cell) (cells : List Cell) :
    Option (Scanner × List Cell) := do
  let p ← takePlain? s.inFlow s.innerColumn fuel cells
  let s ← s.content? x (.scalar (String.ofList p.text) true)
  return ({ s with keyAllowed := p.endsLine }, p.rest)

/-- A block scalar of at most `fuel` lines. -/
def block? (fuel : Nat) (s : Scanner) (folded : Bool) (cells : List Cell) :
    Option (Scanner × List Cell) := do
  let s ← s.dropKey?
  let (text, rest) ← takeBlock? fuel folded s.indents.head? cells
  return ({ s.push (.scalar (String.ofList text) false) with keyAllowed := true }, rest)

/-- A quoted scalar of at most `fuel` parts. -/
def quoted? (fuel : Nat) (s : Scanner) (double : Bool) (x : Cell) (cells : List Cell) :
    Option (Scanner × List Cell) := do
  let (text, rest) ← takeQuoted? double fuel cells
  return (← s.content? x (.scalar (String.ofList text) false), rest)

/-- The characters that no plain scalar starts with, unless a rule of its own allows it. -/
def indicators : List Char :=
  ['-', '?', ':', ',', '[', ']', '{', '}', '#', '&', '*', '!', '|', '>', '\'', '"', '%', '@',
    '\x60']

/-- Whether a plain scalar starts here: none of the `indicators`, unless a rule of its own allows
it. -/
def startsPlain (s : Scanner) (x : Cell) (rest : List Cell) : Bool :=
  x.char ∉ indicators && !isGap x.char ||
    (x.char = '-' && !atOneOf [' ', '\t'] rest) ||
    (!s.inFlow && (x.char = '?' || x.char = ':') && !atGap rest)

/-- Read one token of at most `fuel` parts at a cell that is neither a space nor a line end. -/
def token? (fuel : Nat) (s : Scanner) (x : Cell) (rest : List Cell) :
    Option (Scanner × List Cell) :=
  let one (s : Option Scanner) : Option (Scanner × List Cell) := s.map fun s => (s, rest)
  let stands := s.inFlow || atGap rest
  if x.column = 0 && x.char = '%' then do
    let (directive, rest) ← takeDirective? rest
    return (← s.boundary? (.directive directive), rest)
  else if atDocumentMark (x :: rest) then
    (s.boundary? (if x.char = '-' then .documentStart else .documentEnd)).map fun s =>
      (s, rest.drop 2)
  else if x.char = '[' then one (s.openFlow? x .flowSequenceStart)
  else if x.char = '{' then one (s.openFlow? x .flowMappingStart)
  else if x.char = ']' then one (s.closeFlow? .flowSequenceEnd)
  else if x.char = '}' then one (s.closeFlow? .flowMappingEnd)
  else if x.char = ',' then
    one (s.dropKey?.map fun s => { s.push .flowEntry with keyAllowed := true })
  else if x.char = '-' && atGap rest then
    one (s.item? x .blockSequenceStart .blockEntry true)
  else if x.char = '?' && stands then one (s.item? x .blockMappingStart .key !s.inFlow)
  else if x.char = ':' && stands then one (s.value? x)
  else if x.char = '*' then do
    let (name, rest) ← takeAnchor? rest
    return (← s.content? x (.alias name), rest)
  else if x.char = '&' then do
    let (name, rest) ← takeAnchor? rest
    return (← s.content? x (.anchor name), rest)
  else if x.char = '!' then do
    let (name, rest) ← takeTag? s.inFlow rest
    return (← s.content? x (.tag name), rest)
  else if (x.char = '|' || x.char = '>') && !s.inFlow then block? fuel s (x.char = '>') rest
  else if x.char = '\'' || x.char = '"' then quoted? fuel s (x.char = '"') x rest
  else if s.startsPlain x rest then plain? fuel s x (x :: rest)
  else none

/-- Read tokens up to the end of the text, at most `fuel` of them. As each takes a character at
least, one more than there are characters is enough for all of them and for the parts of each. -/
def run? : Nat → Scanner → List Cell → Option Scanner
  | 0, _, _ => none
  | fuel + 1, s, cells =>
    let (s, cells) := skip (fuel + 1) s cells
    match cells with
    | [] => (s.closeBlocks none).dropKey?
    | x :: rest => do
      let s ← s.dropStaleKeys? x
      let (s, rest) ← token? (fuel + 1) (s.closeBlocks (some x.column)) x rest
      run? fuel s rest

end Scanner

/-- The tokens of a text, in order: `source?`, then `Scanner.run?`. -/
def tokens? (s : String) : Option (List Token) := do
  let cells ← source? s
  let scanner ← Scanner.run? (cells.length + 1) .start cells
  return scanner.tokens.reverse

end RoadNet.Yaml
