import RoadNet.Yaml.Node
import RoadNet.Yaml.Scalar

/-!
# RoadNet.Yaml.Value

The values that YAML nodes stand for. Aliases are followed here, within limits that keep a small
text from standing for a huge value.
-/

namespace RoadNet.Yaml

/-- A value. -/
inductive Value where
  | null
  | bool (b : Bool)
  | int (n : Int)
  | real (x : Float)
  | text (s : String)
  | sequence (items : List Value)
  | mapping (entries : List (Value × Value))
  /-- A value with a local tag. -/
  | tagged (tag : String) (value : Value)

namespace Value

/-! ## Equal values -/

/-- Whether two numbers count as the same key. -/
def sameReal (x y : Float) : Bool := x == y || (x.isNaN && y.isNaN)

mutual

/-- Whether two values count as the same key, numbers by `sameReal`. The order of entries does not
matter. -/
def same : Value → Value → Bool
  | null, null => true
  | bool a, bool b => a == b
  | int a, int b => a == b
  | real x, real y => sameReal x y
  | text a, text b => a == b
  | sequence a, sequence b => sameItems a b
  | mapping a, mapping b => a.length == b.length && hasEntries b a
  | tagged s a, tagged t b => s == t && same a b
  | _, _ => false

/-- Whether two lists have the same values, in order. -/
def sameItems : List Value → List Value → Bool
  | [], [] => true
  | a :: as, b :: bs => same a b && sameItems as bs
  | _, _ => false

/-- Whether a mapping has all of the given entries. -/
def hasEntries (all : List (Value × Value)) : List (Value × Value) → Bool
  | [] => true
  | (k, v) :: rest => (all.any fun e => same k e.1 && same v e.2) && hasEntries all rest

end

/-- Whether no two entries have the `same` key. -/
def hasDistinctKeys : List (Value × Value) → Bool
  | [] => true
  | e :: rest => !(rest.any fun f => same e.1 f.1) && hasDistinctKeys rest

/-! ## Tags -/

/-- The value without its tags. -/
def untagged : Value → Value
  | tagged _ v => untagged v
  | v => v

/-- The start of a global tag of a type that the standard defines. -/
def standardTag (name : String) : String := "tag:yaml.org,2002:" ++ name

/-- The name of a local tag, behind its `!`. -/
def localTag? (tag : Option String) : Option String :=
  match tag.map String.toList with
  | some ('!' :: name) => some (String.ofList name)
  | _ => none

/-! ## Scalars -/

/-- The value of plain text, by `Scalar.ofPlain`. Whole numbers that are no `isWord` are refused. -/
def ofPlain? (s : String) : Option Value :=
  match Scalar.ofPlain s with
  | .null => some null
  | .bool b => some (bool b)
  | .whole n => if isWord n then some (int n) else none
  | .real x => some (real x)
  | .text s => some (text s)

/-- The value of text with a global tag, or without any. A `standardTag` has to fit. -/
def ofText? (tag : Option String) (s : String) (plain : Bool) : Option Value :=
  match tag with
  | none => if plain then ofPlain? s else some (text s)
  | some t =>
    if t = standardTag "bool" then (boolWords.lookup s).map bool
    else if t = standardTag "int" then ((readWhole? s.toList).filter isWord).map int
    else if t = standardTag "float" then (readReal? s.toList).map real
    else if t = standardTag "null" then (if s ∈ nullWords then some null else none)
    else some (text s)

/-- Put the local tag `name` on a value; the name may not be empty. -/
def withTag? (name : String) (v : Option Value) : Option Value :=
  if name = "" then none else v.map (tagged name)

/-- The value of a scalar node: `ofText?`, with its `localTag?` around it. -/
def ofScalar? (tag : Option String) (s : String) (plain : Bool) : Option Value :=
  match localTag? tag with
  | some name => withTag? name (ofText? none s plain)
  | none => ofText? tag s plain

end Value

/-! ## Aliases -/

mutual

/-- The nodes that have an anchor, with its number, in the order in which they start. -/
def Node.anchored : Node → List (Nat × Node)
  | .alias _ => []
  | .scalar anchor tag text plain =>
    (anchor.map fun n => (n, Node.scalar anchor tag text plain)).toList
  | .sequence anchor tag items =>
    (anchor.map fun n => (n, Node.sequence anchor tag items)).toList ++ anchoredItems items
  | .mapping anchor tag entries =>
    (anchor.map fun n => (n, Node.mapping anchor tag entries)).toList ++ anchoredEntries entries

/-- The anchored nodes among items. -/
def anchoredItems : List Node → List (Nat × Node)
  | [] => []
  | x :: rest => x.anchored ++ anchoredItems rest

/-- The anchored nodes among entries. -/
def anchoredEntries : List (Node × Node) → List (Nat × Node)
  | [] => []
  | (k, v) :: rest => k.anchored ++ v.anchored ++ anchoredEntries rest

end

mutual

/-- The number of starts, ends and leaves in a tree. -/
def Node.weight : Node → Nat
  | .alias _ => 1
  | .scalar .. => 1
  | .sequence _ _ items => 2 + itemsWeight items
  | .mapping _ _ entries => 2 + entriesWeight entries

/-- The weight of items. -/
def itemsWeight : List Node → Nat
  | [] => 0
  | x :: rest => x.weight + itemsWeight rest

/-- The weight of entries. -/
def entriesWeight : List (Node × Node) → Nat
  | [] => 0
  | (k, v) :: rest => k.weight + v.weight + entriesWeight rest

end

/-- Where aliases lead, and how many may be followed. -/
structure Targets where
  nodes : List (Nat × Node)
  limit : Nat

/-- The targets in a tree: for each number the last node to start with it. An alias may be followed
a hundred times for each part of the tree (`weight`). -/
def Node.targets (root : Node) : Targets := ⟨root.anchored.reverse, 100 * root.weight⟩

/-- A computation that follows aliases and counts them. -/
abbrev Following := StateT Nat Option

/-- The node itself, or the one that an alias names, until the `limit` is reached. -/
def Targets.follow (targets : Targets) : Node → Following Node
  | .alias number => do
    let count ← get
    if targets.limit ≤ count then failure
    set (count + 1)
    targets.nodes.lookup number
  | node => return node

/-- How deep collections may be nested. -/
def nestingLimit : Nat := 128

/-- The value of a node, nested at most `depth` deep. -/
def Node.value (targets : Targets) (depth : Nat) (node : Node) : Following Value := do
  match depth, ← targets.follow node with
  | _, .scalar _ tag text plain => Value.ofScalar? tag text plain
  | depth + 1, .sequence _ tag items => do
    let v ← Value.sequence <$> items.mapM (value targets depth)
    match Value.localTag? tag with
    | some name => Value.withTag? name (some v)
    | none => return v
  | depth + 1, .mapping _ tag entries => do
    let entries ← entries.mapM fun e =>
      return (← value targets depth e.1, ← value targets depth e.2)
    if !Value.hasDistinctKeys entries then failure
    match Value.localTag? tag with
    | some name => Value.withTag? name (some (.mapping entries))
    | none => return .mapping entries
  | _, _ => failure

end RoadNet.Yaml
