import RoadNet.Record
import RoadNet.RoadMap

/-!
# RoadNet.Disassembly

From a map to records. Elements whose references do not resolve in the map, and elements whose
identifier another layer has taken for the same kind of record, are reported and left out. So
are, in turn, the elements whose records then miss a record under an identifier they name.
-/

namespace RoadNet

namespace RoadMap

/-- The record of a point. -/
def nodeRecord (p : Point) : NodeRecord := ⟨p.id, p.position, p.attributes⟩

/-- The record of a line string. -/
def lineStringRecord (l : LineString) : WayRecord := ⟨l.id, l.points, l.attributes⟩

/-- The record of a polygon, with the tag `area=yes`. -/
def polygonRecord (p : Polygon) : WayRecord :=
  ⟨p.id, p.points, p.attributes.insert Key.area "yes"⟩

/-- The record of a way, unless its identifier is `taken`. -/
def claimId (taken : List Id) (w : WayRecord) : Except Failure WayRecord :=
  if w.id ∈ taken then .error (.malformedRecord .way (some w.id) .lineStringSharesPolygonId)
  else .ok w

/-- The records of ways, each with an identifier that no way before it and none of `taken` has. -/
def claimIds : List Id → List WayRecord → List (Except Failure WayRecord)
  | _, [] => []
  | taken, w :: rest => claimId taken w :: claimIds (w.id :: taken) rest

/-- The records of the ways of a map by `claimIds`: line strings first, polygons after them. -/
def wayRecords (m : RoadMap) : List (Except Failure WayRecord) :=
  claimIds [] (m.lineStrings.values.map lineStringRecord ++ m.polygons.values.map polygonRecord)

/-- The references of a lanelet under their roles: bounds first, then the rules. -/
def laneletReferences (l : Lanelet) : List (String × Reference) :=
  (RoleName.left, .lineString l.left) :: (RoleName.right, .lineString l.right) ::
    l.regulatoryElements.map fun id => (RoleName.regulatoryElement, .regulatoryElement id)

/-- The member that stands for a reference under a role, its kind a `RecordKind`. -/
def memberOf (p : String × Reference) : Member := ⟨p.1, p.2.kind.recordKind, p.2.id⟩

/-- The record of a lanelet, if all of its `laneletReferences` resolve in the map. -/
def laneletRecord? (m : RoadMap) (l : Lanelet) : Except Failure RelationRecord :=
  match (laneletReferences l).find? fun p => !m.contains p.2 with
  | some (role, missing) =>
    .error (.recordFailed .relation l.id (.unresolvedReference l.id role missing))
  | none =>
    .ok ⟨l.id, l.attributes.insert Key.type TypeTag.lanelet, (laneletReferences l).map memberOf⟩

/-- The record of a regulatory element, unless a lanelet has taken its identifier, and if the map
passes `checkReferences` of its store. -/
def elementRecord? (m : RoadMap) (e : RegulatoryElement) : Except Failure RelationRecord :=
  if m.lanelets.contains e.id then
    .error (.malformedRecord .relation (some e.id) .laneletSharesElementId)
  else
    match m.checkReferences e.store with
    | .error fault => .error (.recordFailed .relation e.id fault)
    | .ok () => .ok ⟨e.id, e.attributes, e.store.parameters.map memberOf⟩

/-- The records of a map: what `keepGood` leaves of `wayRecords` and of the records of lanelets and
regulatory elements, pruned. -/
def toRecords (m : RoadMap) (policy : Policy) : Run RecordSet := do
  let ways ← policy.keepGood m.wayRecords
  let lanelets ← policy.keepGood (m.lanelets.values.map m.laneletRecord?)
  let elements ← policy.keepGood (m.regulatoryElements.values.map m.elementRecord?)
  let records : RecordSet := ⟨m.points.values.map nodeRecord, ways, lanelets ++ elements⟩
  let (kept, _) ← records.prune policy
  return kept

end RoadMap

end RoadNet
