import RoadNet.Yaml.Value

/-!
# RoadNet.Yaml.Document

A YAML document of a map: one sequence of values for each kind of record. Values of other keys are
not looked into.
-/

namespace RoadNet.Yaml

/-- The records of a document, still undecoded. -/
structure Document where
  nodes : List Value
  ways : List Value
  relations : List Value

namespace Document

/-- The key of the nodes. -/
def nodesKey : String := "nodes"

/-- The key of the ways. -/
def waysKey : String := "ways"

/-- The key of the relations. -/
def relationsKey : String := "relations"

/-- The text of a node that is used as a key, whatever its tag. -/
def keyText (targets : Targets) (key : Node) : Following String := do
  match ← targets.follow key with
  | .scalar _ _ text _ => return text
  | _ => failure

/-- The values of a sequence at the second level; where nothing is written there are none. -/
def recordValues (targets : Targets) (node : Node) : Following (List Value) := do
  match ← targets.follow node with
  | .sequence _ _ items => items.mapM (Node.value targets (nestingLimit - 2))
  | .scalar _ _ "" true => return []
  | _ => failure

/-- Read the entries of the top level with `keyText` and `recordValues`. A known key may occur
once. -/
def readEntries (targets : Targets) : List (Node × Node) →
    Following (List (String × List Value))
  | [] => return []
  | (key, node) :: rest => do
    let key ← keyText targets key
    if key ∈ [nodesKey, waysKey, relationsKey] then
      let values ← recordValues targets node
      let more ← readEntries targets rest
      if (more.lookup key).isSome then failure
      return (key, values) :: more
    else readEntries targets rest

/-- Take the records from the `root` of a document: a mapping, or nothing at all. -/
def ofRoot? (root : Node) : Option Document :=
  match root with
  | .mapping _ _ entries => do
    let (fields, _) ← (readEntries root.targets entries).run 0
    let records (key : String) : List Value := (fields.lookup key).getD []
    return ⟨records nodesKey, records waysKey, records relationsKey⟩
  | .scalar _ _ "" true => some ⟨[], [], []⟩
  | _ => none

/-- Read a document. -/
def ofText? (s : String) : Option Document := (Node.ofText? s).bind ofRoot?

end Document

end RoadNet.Yaml
