import RoadNet.Policy

/-!
# RoadNet.Record

The records of a map file, whatever its format: nodes, ways and relations that refer to each
other by kind and identifier. Two clean-ups keep a record set consistent. Records whose
identifier is taken twice within their kind are all dropped, since no reference can tell them
apart. Records that refer to a missing record are dropped until no such record is left.
-/

namespace RoadNet

/-! ## Records -/

/-- A reference of a relation to a record, under a role. -/
structure Member where
  role : String
  kind : RecordKind
  id : Id
deriving DecidableEq, Repr

/-- The element that a member may name, by its `RecordKind` alone: a way as a line string, a
relation as a regulatory element. -/
def Member.placeholder (m : Member) : Reference :=
  match m.kind with
  | .node => ⟨.point, m.id⟩
  | .way => ⟨.lineString, m.id⟩
  | .relation => ⟨.regulatoryElement, m.id⟩

/-- A node, its position already in the local frame. -/
structure NodeRecord where
  id : Id
  position : Position
  attributes : Attributes
deriving DecidableEq

/-- A way: a sequence of nodes. -/
structure WayRecord where
  id : Id
  nodes : List Id
  attributes : Attributes
deriving DecidableEq

/-- A relation: a lanelet or a regulatory element, its members in file order. -/
structure RelationRecord where
  id : Id
  attributes : Attributes
  members : List Member
deriving DecidableEq

namespace RelationRecord

/-- The name of the rule a relation is tagged with, its `Key.subtype`. -/
def ruleName? (r : RelationRecord) : Option String := r.attributes.find? Key.subtype

/-- The type a relation is tagged with, `Key.type`. -/
def type? (r : RelationRecord) : Option String := r.attributes.find? Key.type

/-- The members that hold a role, in order. -/
def role (r : RelationRecord) (name : String) : List Member :=
  r.members.filter fun m => m.role = name

end RelationRecord

/-- Everything in one map file. -/
structure RecordSet where
  nodes : List NodeRecord
  ways : List WayRecord
  relations : List RelationRecord
deriving DecidableEq

namespace RecordSet

/-- No records. -/
def empty : RecordSet := ⟨[], [], []⟩

/-- The number of records. -/
def size (r : RecordSet) : Nat := r.nodes.length + r.ways.length + r.relations.length

/-- Whether there are no records. -/
def isEmpty (r : RecordSet) : Bool := r.size == 0

/-- The identifiers of the nodes, in order. -/
def nodeIds (r : RecordSet) : List Id := r.nodes.map (·.id)

/-- The identifiers of the ways, in order. -/
def wayIds (r : RecordSet) : List Id := r.ways.map (·.id)

/-- The identifiers of the relations, in order. -/
def relationIds (r : RecordSet) : List Id := r.relations.map (·.id)

/-! ## Repeated identifiers -/

/-- The elements of a list at the places where they occur for the second time. -/
def secondOccurrences : List Id → List Id → List Id
  | _, [] => []
  | seen, id :: rest =>
    if seen.count id = 1 then id :: secondOccurrences (id :: seen) rest
    else secondOccurrences (id :: seen) rest

/-- The identifiers that occur more than once, each once, in the order of their
`secondOccurrences`. -/
def repeatedIds (ids : List Id) : List Id := secondOccurrences [] ids

/-- Leave out every record whose identifier is among the `repeatedIds` of its kind, with a failure
for each such identifier. -/
def dropDuplicateIds (r : RecordSet) : RecordSet × List Failure :=
  let nodes := repeatedIds r.nodeIds
  let ways := repeatedIds r.wayIds
  let relations := repeatedIds r.relationIds
  let failures (kind : RecordKind) (ids : List Id) : List Failure :=
    ids.map fun id => .malformedRecord kind (some id) .duplicateId
  (⟨r.nodes.filter (·.id ∉ nodes), r.ways.filter (·.id ∉ ways),
      r.relations.filter (·.id ∉ relations)⟩,
    failures .node nodes ++ failures .way ways ++ failures .relation relations)

/-- Run `dropDuplicateIds`, routing the failures through the policy. -/
def dropDuplicates (policy : Policy) (r : RecordSet) : Run RecordSet := do
  let (kept, failures) := r.dropDuplicateIds
  policy.reportAll failures
  return kept

/-! ## Dangling references -/

/-- A record dropped because a record it refers to is missing. -/
structure Removal where
  kind : RecordKind
  id : Id
  /-- The role under which the missing record is named. -/
  role : String
  missing : Reference
deriving DecidableEq, Repr

/-- The failure of a removal, a `recordFailed` with an `unresolvedReference`. -/
def Removal.failure (x : Removal) : Failure :=
  .recordFailed x.kind x.id (.unresolvedReference x.id x.role x.missing)

/-- The removal of a way that has a node not among `nodes`, naming the first such node. -/
def wayRemoval? (nodes : List Id) (w : WayRecord) : Option Removal :=
  (w.nodes.find? (· ∉ nodes)).map fun id => ⟨.way, w.id, "nodes", ⟨.point, id⟩⟩

/-- Whether the record that a member names is among `nodes`, `ways` or `relations`. -/
def isListed (nodes ways relations : List Id) (m : Member) : Bool :=
  match m.kind with
  | .node => m.id ∈ nodes
  | .way => m.id ∈ ways
  | .relation => m.id ∈ relations

/-- The removal of a relation that has a member that is not `isListed`, naming the first such
member. -/
def relationRemoval? (nodes ways relations : List Id) (r : RelationRecord) : Option Removal :=
  (r.members.find? fun m => !isListed nodes ways relations m).map fun m =>
    ⟨.relation, r.id, m.role, m.placeholder⟩

/-- Whether every member of a relation `isListed`, so that a round keeps it. -/
def stays (nodes ways : List Id) (relations : List RelationRecord) (r : RelationRecord) : Bool :=
  (relationRemoval? nodes ways (relations.map (·.id)) r).isNone

/-- Drop relations with missing members, round after round, until all of them `stays`. Each round
looks at the relations that the round before has left. -/
def pruneRelations (nodes ways : List Id) (relations : List RelationRecord) :
    List RelationRecord × List Removal :=
  let kept := relations.filter (stays nodes ways relations)
  if _fewer : kept.length < relations.length then
    let (final, later) := pruneRelations nodes ways kept
    (final, relations.filterMap (relationRemoval? nodes ways (relations.map (·.id))) ++ later)
  else (relations, [])
termination_by relations.length
decreasing_by simpa [kept] using _fewer

/-- Leave out the ways with missing nodes, then relations by `pruneRelations`, with the removals in
order. -/
def pruneDangling (r : RecordSet) : RecordSet × List Removal :=
  let removal? := wayRemoval? r.nodeIds
  let ways := r.ways.filter fun w => (removal? w).isNone
  let (relations, removals) := pruneRelations r.nodeIds (ways.map (·.id)) r.relations
  (⟨r.nodes, ways, relations⟩, r.ways.filterMap removal? ++ removals)

/-- Run `pruneDangling`, routing the failures of the removals through the policy. -/
def prune (policy : Policy) (r : RecordSet) : Run (RecordSet × List Removal) := do
  let (kept, removals) := r.pruneDangling
  policy.reportAll (removals.map Removal.failure)
  return (kept, removals)

end RecordSet

end RoadNet
