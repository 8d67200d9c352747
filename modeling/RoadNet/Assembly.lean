import RoadNet.Record
import RoadNet.RoadMap
import RoadNet.Rule.Registry

/-!
# RoadNet.Assembly

From records to a map. A record that fails takes every record that refers to it down with it,
so that no reference in the map dangles, and each failure is routed through the policy once.
-/

namespace RoadNet

/-- How the tags of the records decide between the layers that share a `RecordKind`. -/
structure Classes where
  /-- The ways that are polygons. -/
  polygons : List Id
  /-- The relations that are lanelets. -/
  lanelets : List Id

namespace Classes

/-- Whether a way is tagged as an area: `Attribute.bool?` reads its tag `Key.area` as true. -/
def isArea (w : WayRecord) : Bool :=
  ((w.attributes.find? Key.area).bind Attribute.bool?).getD false

/-- Whether a relation is tagged as a lanelet, by `Key.type`. -/
def isLanelet (r : RelationRecord) : Bool := r.type? = some TypeTag.lanelet

/-- The classes that the tags of a record set decide, by `isArea` and `isLanelet`. -/
def ofRecords (r : RecordSet) : Classes where
  polygons := (r.ways.filter isArea).map (·.id)
  lanelets := (r.relations.filter isLanelet).map (·.id)

/-- The element a member names; ways and relations are told apart by the classes `c`. -/
def reference (c : Classes) (m : Member) : Reference :=
  match m.kind with
  | .node => ⟨.point, m.id⟩
  | .way => if m.id ∈ c.polygons then ⟨.polygon, m.id⟩ else ⟨.lineString, m.id⟩
  | .relation =>
    if m.id ∈ c.lanelets then ⟨.lanelet, m.id⟩ else ⟨.regulatoryElement, m.id⟩

/-- The bound of a lanelet: the one member in its role, a way that is no polygon. -/
def bound (c : Classes) (r : RelationRecord) (role : String) : Except Fault Id :=
  match r.role role with
  | [m] =>
    if (c.reference m).kind = .lineString then .ok m.id
    else .error (.invalidRelation TypeTag.lanelet r.id (.boundNotLineString role m.kind m.id))
  | _ => .error (.invalidRelation TypeTag.lanelet r.id (.notOneBound role))

/-- The regulatory element that the member `m` of a lanelet names. -/
def laneletRule (c : Classes) (r : RelationRecord) (m : Member) : Except Fault Id :=
  if (c.reference m).kind = .regulatoryElement then .ok m.id
  else .error (.invalidRelation TypeTag.lanelet r.id (.notRegulatoryElement m.kind m.id))

/-- Read a relation as a lanelet. Members in other roles are ignored. -/
def lanelet (c : Classes) (r : RelationRecord) : Except Fault Lanelet := do
  let left ← c.bound r RoleName.left
  let right ← c.bound r RoleName.right
  let rules ← (r.role RoleName.regulatoryElement).mapM (c.laneletRule r)
  return ⟨r.id, left, right, rules, r.attributes⟩

/-- Read a relation as plain data: its members, typed by `reference`, are added to a `RoleStore` in
order. -/
def roleStore (c : Classes) (r : RelationRecord) : Except Fault RoleStore :=
  r.members.foldlM (fun s m => s.add m.role (c.reference m))
    (RoleStore.ofAttributes r.id r.attributes)

end Classes

/-- What a relation record becomes. -/
inductive BuiltRelation where
  | lanelet (l : Lanelet)
  | element (e : RegulatoryElement)

namespace BuiltRelation

/-- Build a relation record: a lanelet if its classes say so, else what `RuleRegistry.upgrade` makes
of its `roleStore`. -/
def ofRecord (g : RuleRegistry) (c : Classes) (r : RelationRecord) :
    Except Fault BuiltRelation :=
  if r.id ∈ c.lanelets then (c.lanelet r).map .lanelet
  else ((c.roleStore r).bind g.upgrade).map .element

/-- Put a built relation into a map. -/
def addTo (m : RoadMap) : BuiltRelation → RoadMap
  | lanelet l => m.addLanelet l
  | element e => m.addElement e

/-- Build relation records one by one with `ofRecord`, routing each failure through the policy.
Gives the built relations with their identifiers, and the identifiers of those that failed. -/
def buildAll (g : RuleRegistry) (policy : Policy) (c : Classes) :
    List RelationRecord → Run (List (Id × BuiltRelation) × List Id)
  | [] => return ([], [])
  | r :: rest =>
    match ofRecord g c r with
    | .ok b => do
      let (built, failed) ← buildAll g policy c rest
      return ((r.id, b) :: built, failed)
    | .error fault => do
      policy.report (.recordFailed .relation r.id fault)
      let (built, failed) ← buildAll g policy c rest
      return (built, r.id :: failed)

end BuiltRelation

namespace RoadMap

/-- Put a way into the layer its tags decide. -/
def addWay (c : Classes) (m : RoadMap) (w : WayRecord) : RoadMap :=
  if w.id ∈ c.polygons then m.addPolygon ⟨w.id, w.nodes, w.attributes⟩
  else m.addLineString ⟨w.id, w.nodes, w.attributes⟩

/-- The map of nodes and ways, and of relations that are already `built`, these in the order of the
identifiers they are listed under. -/
def ofParts (c : Classes) (r : RecordSet) (built : List (Id × BuiltRelation)) : RoadMap :=
  let m := r.nodes.foldl (fun m n => m.addPoint ⟨n.id, n.position, n.attributes⟩) empty
  let m := r.ways.foldl (addWay c) m
  (SortedMap.ofList built).values.foldl BuiltRelation.addTo m

/-- Build a map from records: `dropDuplicates`, `prune`, `buildAll`, and `prune` again if a relation
failed. Relations tagged as lanelets become lanelets; every other relation is read under the rule it
is tagged with. -/
def ofRecords (g : RuleRegistry) (policy : Policy) (records : RecordSet) : Run RoadMap := do
  let unique ← records.dropDuplicates policy
  let (closed, _) ← unique.prune policy
  let classes := Classes.ofRecords closed
  let (built, failed) ← BuiltRelation.buildAll g policy classes closed.relations
  if failed.isEmpty then return ofParts classes closed built
  let rest := { closed with relations := closed.relations.filter (·.id ∉ failed) }
  let (kept, removals) ← rest.prune policy
  let lost := (removals.filter (·.kind = .relation)).map (·.id)
  return ofParts classes kept (built.filter (·.1 ∉ lost))

end RoadMap

end RoadNet
