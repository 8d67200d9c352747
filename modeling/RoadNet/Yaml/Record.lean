import RoadNet.Failure
import RoadNet.Projection
import RoadNet.Record
import RoadNet.Yaml.Decoding

/-!
# RoadNet.Yaml.Record

Records as YAML values: how nodes, ways and relations are encoded and how they are decoded. Tags
are written as text. Where tags are read, numbers and truth values are taken as text too.
-/

namespace RoadNet.Yaml

/-! ## Field names -/

/-- The identifier of a record. -/
def idField : String := "id"

/-- The latitude of a node. -/
def latField : String := "lat"

/-- The longitude of a node. -/
def lonField : String := "lon"

/-- The elevation of a node. -/
def eleField : String := "ele"

/-- The tags of a record. -/
def tagsField : String := "tags"

/-- The nodes of a way. -/
def nodesField : String := "nodes"

/-- The members of a relation. -/
def membersField : String := "members"

/-- The kind of a member. -/
def typeField : String := "type"

/-- The identifier of the record that a member names. -/
def refField : String := "ref"

/-- The role of a member. -/
def roleField : String := "role"

/-! ## Encoding -/

/-- A struct: a mapping with text keys. -/
def Value.struct (fields : List (String × Value)) : Value :=
  .mapping (fields.map fun f => (.text f.1, f.2))

/-- An identifier as a value. -/
def Value.ofId (id : Id) : Value := .int id.toInt

/-- The field of tags; without any tags it is left out. -/
def encodeTags (a : Attributes) : List (String × Value) :=
  if a.entries.isEmpty then []
  else [(tagsField, .struct (a.entries.map fun e => (e.1, .text e.2)))]

/-- Encode a node at its geodetic position. -/
def encodeNode (n : NodeRecord × Geodetic) : Value :=
  .struct ([(idField, .ofId n.1.id), (latField, .real n.2.lat), (lonField, .real n.2.lon),
    (eleField, .real n.2.ele)] ++ encodeTags n.1.attributes)

/-- Encode a way. -/
def encodeWay (w : WayRecord) : Value :=
  .struct ([(idField, .ofId w.id), (nodesField, .sequence (w.nodes.map .ofId))] ++
    encodeTags w.attributes)

/-- Encode a member of a relation. -/
def encodeMember (m : Member) : Value :=
  .struct [(typeField, .text m.kind.name), (refField, .ofId m.id), (roleField, .text m.role)]

/-- Encode a relation. -/
def encodeRelation (r : RelationRecord) : Value :=
  .struct ((idField, .ofId r.id) :: encodeTags r.attributes ++
    [(membersField, .sequence (r.members.map encodeMember))])

/-! ## Decoding tags -/

/-- The text of a tag, if its value is text, a `bool`, an `int` or a `real`. -/
def tagText? : Value → Option String
  | .text s => some s
  | .bool b => some (Attribute.ofBool b)
  | .int n => some (toString n)
  | .real x => some (numeral x)
  | _ => none

/-- The attributes that decoded tags spell out, by `tagText?`. -/
def attributesOf (kind : RecordKind) (id : Id) (tags : SortedMap String Value) :
    Except Failure Attributes :=
  tags.entries.foldlM (fun (a : Attributes) (e : String × Value) =>
    match tagText? e.2 with
    | some text => .ok (a.insert e.1 text)
    | none => .error (.malformedRecord kind (some id) (.tagNotScalar e.1))) SortedMap.empty

/-! ## Decoding nodes -/

/-- The fields of a node met so far. -/
structure NodeDraft where
  id : Option Id
  lat : Option Float
  lon : Option Float
  ele : Option Float
  tags : Option (SortedMap String Value)

/-- The fields of a node. -/
def nodeFields : List (Field NodeDraft) :=
  [⟨idField, (·.id.isSome), fun d v => do return { d with id := some (← v.id) }⟩,
   ⟨latField, (·.lat.isSome), fun d v => do return { d with lat := some (← v.number) }⟩,
   ⟨lonField, (·.lon.isSome), fun d v => do return { d with lon := some (← v.number) }⟩,
   ⟨eleField, (·.ele.isSome), fun d v => do return { d with ele := some (← v.number) }⟩,
   ⟨tagsField, (·.tags.isSome), fun d v => do return { d with tags := some (← v.dictionary) }⟩]

/-- A node as decoded. -/
structure RawNode where
  id : Id
  position : Geodetic
  tags : SortedMap String Value

/-- Decode a node by its `nodeFields`. The elevation is zero unless it is given. -/
def decodeNode (v : Value) : Except Mismatch RawNode := do
  let d ← Field.decodeAll "YamlNode" nodeFields ⟨none, none, none, none, none⟩ v
  let id ← Field.require idField d.id
  let lat ← Field.require latField d.lat
  let lon ← Field.require lonField d.lon
  return ⟨id, ⟨lat, lon, d.ele.getD 0.0⟩, d.tags.getD SortedMap.empty⟩

/-! ## Decoding ways -/

/-- The fields of a way met so far. -/
structure WayDraft where
  id : Option Id
  nodes : Option (List Id)
  tags : Option (SortedMap String Value)

/-- The fields of a way. -/
def wayFields : List (Field WayDraft) :=
  [⟨idField, (·.id.isSome), fun d v => do return { d with id := some (← v.id) }⟩,
   ⟨nodesField, (·.nodes.isSome), fun d v => do
      return { d with nodes := some (← v.list Value.id) }⟩,
   ⟨tagsField, (·.tags.isSome), fun d v => do return { d with tags := some (← v.dictionary) }⟩]

/-- A way as decoded. -/
structure RawWay where
  id : Id
  nodes : List Id
  tags : SortedMap String Value

/-- Decode a way by its `wayFields`. -/
def decodeWay (v : Value) : Except Mismatch RawWay := do
  let d ← Field.decodeAll "YamlWay" wayFields ⟨none, none, none⟩ v
  let id ← Field.require idField d.id
  let nodes ← Field.require nodesField d.nodes
  return ⟨id, nodes, d.tags.getD SortedMap.empty⟩

/-! ## Decoding relations -/

/-- The fields of a member met so far. -/
structure MemberDraft where
  kind : Option RecordKind
  id : Option Id
  role : Option String

/-- Decode the kind of a member. -/
def decodeKind (v : Value) : Except Mismatch RecordKind := do
  let names := RecordKind.all.map (·.name)
  let name ← v.variant names
  match RecordKind.ofName? name with
  | some kind => return kind
  | none => throw (.unknownVariant name names)

/-- The fields of a member. -/
def memberFields : List (Field MemberDraft) :=
  [⟨typeField, (·.kind.isSome), fun d v => do return { d with kind := some (← decodeKind v) }⟩,
   ⟨refField, (·.id.isSome), fun d v => do return { d with id := some (← v.id) }⟩,
   ⟨roleField, (·.role.isSome), fun d v => do
      return { d with role := some (← v.string "a string") }⟩]

/-- Decode a member of a relation by its `memberFields`. -/
def decodeMember (v : Value) : Except Mismatch Member := do
  let d ← Field.decodeAll "YamlMember" memberFields ⟨none, none, none⟩ v
  let kind ← Field.require typeField d.kind
  let id ← Field.require refField d.id
  let role ← Field.require roleField d.role
  return ⟨role, kind, id⟩

/-- The fields of a relation met so far. -/
structure RelationDraft where
  id : Option Id
  tags : Option (SortedMap String Value)
  members : Option (List Member)

/-- The fields of a relation. -/
def relationFields : List (Field RelationDraft) :=
  [⟨idField, (·.id.isSome), fun d v => do return { d with id := some (← v.id) }⟩,
   ⟨tagsField, (·.tags.isSome), fun d v => do return { d with tags := some (← v.dictionary) }⟩,
   ⟨membersField, (·.members.isSome), fun d v => do
      return { d with members := some (← v.list decodeMember) }⟩]

/-- A relation as decoded. -/
structure RawRelation where
  id : Id
  tags : SortedMap String Value
  members : List Member

/-- Decode a relation by its `relationFields`. -/
def decodeRelation (v : Value) : Except Mismatch RawRelation := do
  let d ← Field.decodeAll "YamlRelation" relationFields ⟨none, none, none⟩ v
  let id ← Field.require idField d.id
  return ⟨id, d.tags.getD SortedMap.empty, d.members.getD []⟩

/-! ## Records -/

/-- The identifier by which messages name a record: that of a mapping with a readable entry
`idField`. -/
def recordId? (v : Value) : Option Id :=
  match v.untagged with
  | .mapping entries =>
    (entries.find? fun e => e.1.same (.text idField)).bind fun e => e.2.id.toOption
  | _ => none

/-- Decode a record by `decode`, and name it by `recordId?` in the failure. -/
def decodeRecord (kind : RecordKind) (decode : Value → Except Mismatch α) (v : Value) :
    Except Failure α :=
  match decode v with
  | .ok a => .ok a
  | .error mismatch => .error (.malformedRecord kind (recordId? v) (.undecodable mismatch))

/-- Read a node with `decodeNode` and `attributesOf`, and project it. -/
def readNode (projector : Projector) (v : Value) : Except Failure NodeRecord := do
  let n ← decodeRecord .node decodeNode v
  let attributes ← attributesOf .node n.id n.tags
  return ⟨n.id, projector.forward n.position, attributes⟩

/-- Read a way with `decodeWay` and `attributesOf`. -/
def readWay (v : Value) : Except Failure WayRecord := do
  let w ← decodeRecord .way decodeWay v
  return ⟨w.id, w.nodes, ← attributesOf .way w.id w.tags⟩

/-- Read a relation with `decodeRelation` and `attributesOf`. -/
def readRelation (v : Value) : Except Failure RelationRecord := do
  let r ← decodeRecord .relation decodeRelation v
  return ⟨r.id, ← attributesOf .relation r.id r.tags, r.members⟩

end RoadNet.Yaml
