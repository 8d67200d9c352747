import RoadNet.Format
import RoadNet.Placement
import RoadNet.Yaml.Document
import RoadNet.Yaml.Printer
import RoadNet.Yaml.Record

/-!
# RoadNet.Yaml.Format

The YAML format of maps: a document with a sequence of nodes, one of ways and one of relations. A
record that cannot be decoded does not spoil the others.
-/

namespace RoadNet.Yaml

/-- Read the records of a document with `readNode`, `readWay` and `readRelation`: nodes, then ways,
then relations. -/
def readRecords (projector : Projector) (policy : Policy) (d : Document) : Run RecordSet := do
  let nodes ← policy.keepGood (d.nodes.map (readNode projector))
  let ways ← policy.keepGood (d.ways.map readWay)
  let relations ← policy.keepGood (d.relations.map readRelation)
  return ⟨nodes, ways, relations⟩

/-- Read a document, by `Document.ofText?`. -/
def read (projector : Projector) (policy : Policy) (text : String) : Run RecordSet :=
  match Document.ofText? text with
  | none => throw .yaml
  | some document => readRecords projector policy document

/-- The document of records, as one `Value`. -/
def encodeRecords (r : PlacedRecords) : Value :=
  .struct
    [(Document.nodesKey, .sequence (r.nodes.map encodeNode)),
     (Document.waysKey, .sequence (r.ways.map encodeWay)),
     (Document.relationsKey, .sequence (r.relations.map encodeRelation))]

/-- Write records: placing them, then the `document` of `encodeRecords`. -/
def write (projector : Projector) (policy : Policy) (r : RecordSet) : Run String := do
  let placed ← PlacedRecords.ofRecords projector policy r
  return (encodeRecords placed).document

/-- The format `yaml`, for files with the extension `.yaml`. -/
def format : Format where
  name := "yaml"
  extension := ".yaml"
  reader := some fun projector _ => .ok (read projector)
  writer := some fun projector _ => .ok (write projector)

end RoadNet.Yaml
