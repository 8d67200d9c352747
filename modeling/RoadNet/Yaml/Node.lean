import RoadNet.Yaml.Token

/-!
# RoadNet.Yaml.Node

The tree of nodes that the tokens of a YAML text spell out. Tags are written out in full; an
alias holds the number of the anchor it names.
-/

namespace RoadNet.Yaml

/-- A node. -/
inductive Node where
  | alias (target : Nat)
  | scalar (anchor : Option Nat) (tag : Option String) (text : String) (plain : Bool)
  | sequence (anchor : Option Nat) (tag : Option String) (items : List Node)
  | mapping (anchor : Option Nat) (tag : Option String) (entries : List (Node × Node))

/-- The node that stands where none is written. -/
def Node.empty : Node := .scalar none none "" true

/-! ## Reading tokens -/

/-- The tokens still to be read, and the number of each anchor name met so far. -/
structure Progress where
  tokens : List Token
  anchors : List (String × Nat)

/-- A part of the grammar. -/
abbrev Grammar := StateT Progress Option

namespace Grammar

/-- The next token. -/
def peek : Grammar (Option Token) := return (← get).tokens.head?

/-- Step over the next token. -/
def advance : Grammar Unit := modify fun p => { p with tokens := p.tokens.drop 1 }

/-- Whether the next token is one of the given. -/
def nextIn (tokens : List Token) : Grammar Bool := do
  return match ← peek with
    | some t => t ∈ tokens
    | none => false

/-- A `part` that is left out if one of the tokens `stops` comes next. -/
def orEmpty (stops : List Token) (part : Grammar Node) : Grammar Node := do
  if ← nextIn stops then return .empty else part

/-- Number an anchor: by how many names were known before. A name that is set again gets a new
number. -/
def setAnchor (name : String) : Grammar Nat := do
  let p ← get
  let number := p.anchors.length
  set { p with anchors := (name, number) :: p.anchors.filter fun a => a.1 ≠ name }
  return number

/-! ## Properties -/

/-- What tag handles stand for. -/
abbrev Handles := List (String × String)

/-- The handles that are always known. -/
def defaultHandles : Handles := [("!", "!"), ("!!", "tag:yaml.org,2002:")]

/-- Write a tag out in full, by what `handles` stand for. -/
def fullTag? (handles : Handles) (t : TagName) : Option String :=
  if t.handle = "" then some t.suffix
  else (handles.lookup t.handle).map fun start => start ++ t.suffix

/-- Read an anchor, if there is one. -/
def anchorName : Grammar (Option String) := do
  match ← peek with
  | some (.anchor name) => advance; return some name
  | _ => return none

/-- Read a tag, if there is one. -/
def tagName : Grammar (Option TagName) := do
  match ← peek with
  | some (.tag name) => advance; return some name
  | _ => return none

/-- Read the properties of a node: an `anchorName` and a `tagName`, in either order. -/
def properties (handles : Handles) : Grammar (Option Nat × Option String) := do
  let before ← anchorName
  let tag ← tagName
  let anchor ← if before.isSome || tag.isNone then pure before else anchorName
  let tag ← match tag with
    | none => pure none
    | some t => (fullTag? handles t).map some
  let number ← match anchor with
    | none => pure none
    | some name => some <$> setAnchor name
  return (number, tag)

/-! ## Nodes -/

/-- Where a node stands. -/
inductive Place where
  /-- Inside a flow collection. -/
  | flow
  /-- An item of a block sequence, or the whole document. -/
  | item
  /-- A key or value of a block mapping; a sequence need not be indented there. -/
  | entry
deriving DecidableEq, Repr

mutual

/-- Read a node, over at most `fuel` steps. -/
def node (handles : Handles) : Nat → Place → Grammar Node
  | 0, _ => failure
  | fuel + 1, place => do
    if let some (.alias name) ← peek then
      advance
      match (← get).anchors.lookup name with
      | some number => return .alias number
      | none => failure
    let (anchor, tag) ← properties handles
    match ← peek with
    | some .blockEntry =>
      if place = .entry then return .sequence anchor tag (← looseItems handles fuel)
      else emptyNode anchor tag
    | some (.scalar text plain) =>
      advance
      return .scalar anchor (if tag = some localHandle then none else tag) text plain
    | some .flowSequenceStart =>
      advance
      return .sequence anchor tag (← flowItems handles fuel true)
    | some .flowMappingStart =>
      advance
      return .mapping anchor tag (← flowEntries handles fuel true)
    | some .blockSequenceStart =>
      if place = .flow then emptyNode anchor tag
      else
        advance
        return .sequence anchor tag (← blockItems handles fuel)
    | some .blockMappingStart =>
      if place = .flow then emptyNode anchor tag
      else
        advance
        return .mapping anchor tag (← blockEntries handles fuel)
    | _ => emptyNode anchor tag
where
  /-- A node may be left out behind a property. -/
  emptyNode (anchor : Option Nat) (tag : Option String) : Grammar Node :=
    if anchor.isSome || tag.isSome then return .scalar anchor tag "" true else failure

/-- Read the items of a block sequence. -/
def blockItems (handles : Handles) : Nat → Grammar (List Node)
  | 0 => failure
  | fuel + 1 => do
    match ← peek with
    | some .blockEntry =>
      advance
      let item ← orEmpty [.blockEntry, .blockEnd] (node handles fuel .item)
      return item :: (← blockItems handles fuel)
    | some .blockEnd => advance; return []
    | _ => failure

/-- Read the items of a block sequence that is not indented below its key. -/
def looseItems (handles : Handles) : Nat → Grammar (List Node)
  | 0 => failure
  | fuel + 1 => do
    match ← peek with
    | some .blockEntry =>
      advance
      let item ← orEmpty [.blockEntry, .key, .value, .blockEnd] (node handles fuel .item)
      return item :: (← looseItems handles fuel)
    | _ => return []

/-- Read the entries of a block mapping. -/
def blockEntries (handles : Handles) : Nat → Grammar (List (Node × Node))
  | 0 => failure
  | fuel + 1 => do
    let stops := [Token.key, .value, .blockEnd]
    match ← peek with
    | some .key =>
      advance
      let key ← orEmpty stops (node handles fuel .entry)
      let value ← if ← nextIn [.value] then
        advance
        orEmpty stops (node handles fuel .entry)
      else pure .empty
      return (key, value) :: (← blockEntries handles fuel)
    | some .blockEnd => advance; return []
    | _ => failure

/-- Read the items of a flow sequence up to its end. An item with a key is a mapping of one
entry; if nothing is written behind its question mark, the token that follows is passed over. -/
def flowItems (handles : Handles) : Nat → Bool → Grammar (List Node)
  | 0, _ => failure
  | fuel + 1, first => do
    if ← nextIn [.flowSequenceEnd] then
      advance
      return []
    if !first then
      if ← nextIn [.flowEntry] then advance else failure
    match ← peek with
    | some .flowSequenceEnd => advance; return []
    | some .key =>
      advance
      let key ← if ← nextIn [.value, .flowEntry, .flowSequenceEnd] then
        advance
        pure .empty
      else node handles fuel .flow
      let value ← if ← nextIn [.value] then
        advance
        orEmpty [.flowEntry, .flowSequenceEnd] (node handles fuel .flow)
      else pure .empty
      return .mapping none none [(key, value)] :: (← flowItems handles fuel false)
    | _ =>
      let item ← node handles fuel .flow
      return item :: (← flowItems handles fuel false)

/-- Read the entries of a flow mapping up to its end. Only behind a key token a value may
follow. -/
def flowEntries (handles : Handles) : Nat → Bool → Grammar (List (Node × Node))
  | 0, _ => failure
  | fuel + 1, first => do
    if ← nextIn [.flowMappingEnd] then
      advance
      return []
    if !first then
      if ← nextIn [.flowEntry] then advance else failure
    match ← peek with
    | some .flowMappingEnd => advance; return []
    | some .key =>
      advance
      let key ← orEmpty [.value, .flowEntry, .flowMappingEnd] (node handles fuel .flow)
      let value ← if ← nextIn [.value] then
        advance
        orEmpty [.flowEntry, .flowMappingEnd] (node handles fuel .flow)
      else pure .empty
      return (key, value) :: (← flowEntries handles fuel false)
    | _ =>
      let key ← node handles fuel .flow
      return (key, .empty) :: (← flowEntries handles fuel false)

end

/-! ## Documents -/

/-- Take the handles that directives define, besides `defaultHandles`; each directive may occur
once, and the version is 1.1 or 1.2. -/
def handlesOf? : Handles → Bool → List Directive → Option Handles
  | handles, _, [] => some handles
  | handles, versioned, .version major minor :: rest =>
    if !versioned && major = 1 && (minor = 1 || minor = 2) then handlesOf? handles true rest
    else none
  | handles, versioned, .tagHandle handle start :: rest =>
    if (handles.lookup handle).isSome then none
    else handlesOf? ((handle, start) :: handles) versioned rest

/-- The directives at the start of a token list, and the rest. -/
def spanDirectives : List Token → List Directive × List Token
  | .directive d :: rest =>
    let (ds, rest) := spanDirectives rest
    (d :: ds, rest)
  | tokens => ([], tokens)

/-- Whether the content of a document is left out: nothing but the end of the document follows. -/
def isDocumentEnd : List Token → Bool
  | [] => true
  | .directive _ :: _ => true
  | .documentStart :: _ => true
  | .documentEnd :: _ => true
  | _ => false

/-- Read the content of a document; nothing may follow it but marks for its end. -/
def content? (handles : Handles) (tokens : List Token) : Option Node := do
  let (root, p) ← (node handles (2 * tokens.length + 4) .item).run ⟨tokens, []⟩
  if p.tokens.all (· = .documentEnd) then return root else none

end Grammar

/-- The root node of a token list. There is one document at most, and without one the root is
the empty node. Directives need a mark for the start of the document. -/
def Node.ofTokens? (tokens : List Token) : Option Node := do
  let (directives, rest) := Grammar.spanDirectives tokens
  let handles ← Grammar.handlesOf? [] false directives
  let handles := handles ++ Grammar.defaultHandles
  match rest with
  | .documentStart :: rest =>
    if Grammar.isDocumentEnd rest then
      if rest.all (· = .documentEnd) then return .empty else none
    else Grammar.content? handles rest
  | [] => if directives.isEmpty then return .empty else none
  | _ => if directives.isEmpty then Grammar.content? handles rest else none

/-- The root node of a text, by `tokens?` and `ofTokens?`. -/
def Node.ofText? (s : String) : Option Node := (tokens? s).bind Node.ofTokens?

end RoadNet.Yaml
