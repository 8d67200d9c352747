import RoadNet.Projection
import RoadNet.Record

/-!
# RoadNet.Placement

Records ready to be written, with the geodetic positions of their nodes. Nodes that do not land on
finite coordinates are reported and dropped, together with everything that refers to them. The
nodes and their positions are lists of their own (`Projected`) until a writer pairs them
(`PlacedRecords`).
-/

namespace RoadNet

/-- Whether all coordinates of a position are finite (`isFiniteFloat`). -/
def PlacedRecords.isFinite (g : Geodetic) : Bool :=
  isFiniteFloat g.lat && isFiniteFloat g.lon && isFiniteFloat g.ele

/-- Records, and beside them the geodetic positions of their nodes. -/
structure Projected where
  records : RecordSet
  positions : List Geodetic

/-- Project the nodes of a record set back to geodetic positions. -/
def Projected.ofRecords (projector : Projector) (policy : Policy) (r : RecordSet) :
    Run Projected := do
  let positions := r.nodes.map fun n => projector.reverse n.position
  if positions.all PlacedRecords.isFinite then return ⟨r, positions⟩
  let pairs := r.nodes.zip positions
  let lost := pairs.filter fun p => !PlacedRecords.isFinite p.2
  policy.reportAll (lost.map fun p => .malformedRecord .node (some p.1.id) .notFinite)
  let kept := pairs.filter fun p => PlacedRecords.isFinite p.2
  let (rest, _) ← RecordSet.prune policy { r with nodes := kept.map (·.1) }
  return ⟨rest, kept.map (·.2)⟩

/-- Records with the geodetic position of every node. -/
structure PlacedRecords where
  nodes : List (NodeRecord × Geodetic)
  ways : List WayRecord
  relations : List RelationRecord

namespace PlacedRecords

/-- Pair the nodes with the positions, in the order of both lists. -/
def ofProjected (p : Projected) : PlacedRecords :=
  ⟨p.records.nodes.zip p.positions, p.records.ways, p.records.relations⟩

/-- Project the nodes of a record set back and pair them with their positions. -/
def ofRecords (projector : Projector) (policy : Policy) (r : RecordSet) : Run PlacedRecords := do
  let projected ← Projected.ofRecords projector policy r
  return ofProjected projected

end PlacedRecords

end RoadNet
