import RoadNet.Projection
import RoadNet.Record
import RoadNet.Xml.Document

/-!
# RoadNet.Osm.Reader

Reading records from OSM XML. The root element holds nodes, ways and relations as children;
elements marked as deleted are skipped, and so is everything unknown.
-/

namespace RoadNet.Osm

open Xml (Element)

/-- The name of the root element. -/
def rootTag : String := "osm"

/-! ## Attributes and tags of record elements -/

/-- The attribute `name` of a record element, which is mandatory. -/
def required (kind : RecordKind) (id : Option Id) (e : Element) (name : String) :
    Except Failure String :=
  match e.attribute? name with
  | some value => .ok value
  | none => .error (.malformedRecord kind id (.missingAttribute name))

/-- A mandatory attribute, read by `reader` without the white space around it. -/
def parsed (reader : List Char → Option α) (kind : RecordKind) (id : Option Id) (e : Element)
    (name : String) : Except Failure α := do
  let raw ← required kind id e name
  match Attribute.parse? reader raw with
  | some value => return value
  | none => throw (.malformedRecord kind id (.invalidAttribute raw name))

/-- The attributes that the children `tag` of a record element spell out; of two tags with one key
the later wins. -/
def collectTags (kind : RecordKind) (id : Option Id) (e : Element) : Except Failure Attributes :=
  (e.childrenNamed "tag").foldlM (fun (tags : Attributes) (tag : Element) => do
    let key ← required kind id tag "k"
    let value ← required kind id tag "v"
    return tags.insert key value) SortedMap.empty

/-! ## Records -/

/-- The elevation of a node is kept among its tags, under `Key.elevation`; without one it is
zero. -/
def takeElevation (id : Id) (tags : Attributes) : Except Failure (Float × Attributes) :=
  match tags.find? Key.elevation with
  | none => .ok (0.0, tags)
  | some value =>
    match Attribute.float? value with
    | some ele => .ok (ele, tags.erase Key.elevation)
    | none => .error (.malformedRecord .node (some id) (.invalidElevation value))

/-- Read a node and project it with `forward`; its tags are read before its elevation is taken from
them. -/
def readNode (projector : Projector) (e : Element) : Except Failure NodeRecord := do
  let id ← parsed readId? .node none e "id"
  let lat ← parsed readFloat? .node (some id) e "lat"
  let lon ← parsed readFloat? .node (some id) e "lon"
  let tags ← collectTags .node (some id) e
  let (ele, attributes) ← takeElevation id tags
  return ⟨id, projector.forward ⟨lat, lon, ele⟩, attributes⟩

/-- Read a way. -/
def readWay (e : Element) : Except Failure WayRecord := do
  let id ← parsed readId? .way none e "id"
  let nodes ← (e.childrenNamed "nd").mapM fun nd => parsed readId? .way (some id) nd "ref"
  let attributes ← collectTags .way (some id) e
  return ⟨id, nodes, attributes⟩

/-- Read a member of a relation. -/
def readMember (id : Id) (e : Element) : Except Failure Member := do
  let kindName ← required .relation (some id) e "type"
  match RecordKind.ofName? kindName with
  | none => throw (.malformedRecord .relation (some id) (.unknownMemberType kindName))
  | some kind =>
    let ref ← parsed readId? .relation (some id) e "ref"
    let role ← required .relation (some id) e "role"
    return ⟨role, kind, ref⟩

/-- Read a relation. -/
def readRelation (e : Element) : Except Failure RelationRecord := do
  let id ← parsed readId? .relation none e "id"
  let members ← (e.childrenNamed "member").mapM (readMember id)
  let attributes ← collectTags .relation (some id) e
  return ⟨id, attributes, members⟩

/-! ## Documents -/

/-- Whether an element is kept in the file only to be deleted elsewhere, `action="delete"`. -/
def isDeleted (e : Element) : Bool := e.attribute? "action" = some "delete"

/-- The children of `root` that stand for records of a kind and are not `isDeleted`. -/
def recordElements (root : Element) (kind : RecordKind) : List Element :=
  (root.childrenNamed kind.name).filter fun e => !isDeleted e

/-- Read the records below a root element: nodes, then ways, then relations. -/
def readRecords (projector : Projector) (policy : Policy) (root : Element) : Run RecordSet := do
  let nodes ← policy.keepGood ((recordElements root .node).map (readNode projector))
  let ways ← policy.keepGood ((recordElements root .way).map readWay)
  let relations ← policy.keepGood ((recordElements root .relation).map readRelation)
  return ⟨nodes, ways, relations⟩

/-- Read a document whose root element is `rootTag`. -/
def read (projector : Projector) (policy : Policy) (text : String) : Run RecordSet :=
  match Element.parse? text with
  | none => throw .xml
  | some root =>
    if root.name = rootTag then readRecords projector policy root
    else throw (.invalidDocument
      ("expected <" ++ rootTag ++ "> root, found <" ++ root.name ++ ">"))

end RoadNet.Osm
