import RoadNet.Format
import RoadNet.Osm.Reader
import RoadNet.Placement

/-!
# RoadNet.Osm.Writer

Writing records as OSM XML. Records whose tags or member roles hold characters that XML cannot
carry are left out, together with everything that refers to them.
-/

namespace RoadNet.Osm

open Xml (escape isXmlText)

/-! ## Options -/

/-- The option for the upload mark on the root element. -/
def uploadOption : String := "josm_upload"

/-- The values of the upload mark. -/
def uploadValues : List String := ["true", "false", "never"]

/-- The option that elevations are written with two decimals. -/
def elevationOption : String := "josm_format_elevation"

/-- How a document is written. -/
structure Style where
  upload : String
  twoDecimals : Bool
deriving DecidableEq, Repr

/-- Read the style from the options `uploadOption` and `elevationOption`. -/
def Style.ofOptions (o : Options) : Except Failure Style := do
  let upload ← o.choice uploadOption uploadValues
  let twoDecimals ← o.flag elevationOption
  return ⟨upload.getD "false", twoDecimals.getD false⟩

/-! ## Representable records -/

/-- The flaw of the first tag that XML cannot carry: its key or its value is not `isXmlText`. -/
def tagFlaw? (a : Attributes) : Option RecordFlaw :=
  (a.entries.find? fun p => !isXmlText p.1 || !isXmlText p.2).map fun p => .unrepresentableTag p.1

/-- The flaw of the first member role that XML cannot carry, or else `tagFlaw?`. -/
def relationFlaw? (r : RelationRecord) : Option RecordFlaw :=
  match r.members.find? fun m => !isXmlText m.role with
  | some m => some (.unrepresentableRole m.role)
  | none => tagFlaw? r.attributes

/-- The records that XML cannot carry, each with the flaw. -/
def unrepresentable (r : RecordSet) : List (RecordKind × Id × RecordFlaw) :=
  r.nodes.filterMap (fun n => (tagFlaw? n.attributes).map fun f => (.node, n.id, f)) ++
    r.ways.filterMap (fun w => (tagFlaw? w.attributes).map fun f => (.way, w.id, f)) ++
    r.relations.filterMap (fun x => (relationFlaw? x).map fun f => (.relation, x.id, f))

/-- Leave out the records that are `unrepresentable`, and by `prune` everything that refers to
them. -/
def dropUnrepresentable (policy : Policy) (r : RecordSet) : Run RecordSet := do
  let flawed := unrepresentable r
  if flawed.isEmpty then return r
  policy.reportAll (flawed.map fun (kind, id, flaw) => .malformedRecord kind (some id) flaw)
  let dropped (kind : RecordKind) (id : Id) : Bool :=
    flawed.any fun f => f.1 = kind && f.2.1 = id
  let rest : RecordSet :=
    ⟨r.nodes.filter fun n => !dropped .node n.id, r.ways.filter fun w => !dropped .way w.id,
      r.relations.filter fun x => !dropped .relation x.id⟩
  let (kept, _) ← rest.prune policy
  return kept

/-! ## Text of records -/

/-- An attribute with its value in quotes, after a space. -/
def attributeText (name value : String) : String := " " ++ name ++ "=\"" ++ value ++ "\""

/-- A tag. -/
def tagText (key value : String) : String :=
  "<tag" ++ attributeText "k" (escape key) ++ attributeText "v" (escape value) ++ "/>"

/-- The tags of attributes. -/
def tagTexts (a : Attributes) : List String := a.entries.map fun p => tagText p.1 p.2

/-- A record element with its children, one a line. -/
def elementText (kind : RecordKind) (head : String) (children : List String) : String :=
  let start := "  <" ++ kind.name ++ head
  if children.isEmpty then start ++ "/>\n"
  else start ++ ">\n" ++ String.join (children.map fun c => "    " ++ c ++ "\n") ++
    "  </" ++ kind.name ++ ">\n"

/-- The elevation of a node, by `centiText` or `floatText`. -/
def Style.elevationText (style : Style) (ele : Float) : String :=
  if style.twoDecimals then centiText ele else floatText ele

/-- A node; its elevation is the first of its tags. -/
def nodeText (style : Style) (n : NodeRecord × Geodetic) : String :=
  elementText .node
    (attributeText "id" (idText n.1.id) ++ attributeText "lat" (floatText n.2.lat) ++
      attributeText "lon" (floatText n.2.lon))
    (tagText Key.elevation (style.elevationText n.2.ele) :: tagTexts n.1.attributes)

/-- A way. -/
def wayText (w : WayRecord) : String :=
  elementText .way (attributeText "id" (idText w.id))
    (w.nodes.map (fun id => "<nd" ++ attributeText "ref" (idText id) ++ "/>") ++
      tagTexts w.attributes)

/-- A member of a relation. -/
def memberText (m : Member) : String :=
  "<member" ++ attributeText "type" m.kind.name ++ attributeText "ref" (idText m.id) ++
    attributeText "role" (escape m.role) ++ "/>"

/-- A relation. -/
def relationText (r : RelationRecord) : String :=
  elementText .relation (attributeText "id" (idText r.id))
    (r.members.map memberText ++ tagTexts r.attributes)

/-- A whole document: the declaration, the root element, and below it `nodeText`, `wayText` and
`relationText` of the records. -/
def documentText (style : Style) (r : PlacedRecords) : String :=
  "<?xml version=\"1.0\" encoding=\"UTF-8\"?>\n<" ++ rootTag ++ attributeText "version" "0.6" ++
    attributeText "upload" style.upload ++ attributeText "generator" "lanemap" ++ ">\n" ++
    String.join (r.nodes.map (nodeText style)) ++ String.join (r.ways.map wayText) ++
    String.join (r.relations.map relationText) ++ "</" ++ rootTag ++ ">\n"

/-- Write records: `dropUnrepresentable`, then placing them, then `documentText`. -/
def write (projector : Projector) (style : Style) (policy : Policy) (r : RecordSet) :
    Run String := do
  let representable ← dropUnrepresentable policy r
  let placed ← PlacedRecords.ofRecords projector policy representable
  return documentText style placed

/-- The format `osm`, for files with the extension `.osm`. -/
def format : Format where
  name := "osm"
  extension := ".osm"
  reader := some fun projector _ => .ok (read projector)
  writer := some fun projector options => (Style.ofOptions options).map (write projector)

end RoadNet.Osm
