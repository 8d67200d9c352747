import RoadNet.Proofs.Formats
import RoadNet.Proofs.KeyOrder
import RoadNet.Proofs.WrittenElements

/-!
# RoadNet.Proofs.ReadElements

What the elements of written records are read as. Ways and relations come back as they are. The
elevation of a node shares the namespace of its tags: it is written as the first of them, and a
tag of the same key that the node carries itself comes later and wins.

* `Osm.readBack` — what becomes of a node that is written and read;
* `Osm.exists_of_readNode` — which of the tags of its element a node keeps;
* `Osm.readNode_nodeElement`, `Osm.readWay_wayElement`, `Osm.readRelation_relationElement` — the
  elements of records, read;
* `Osm.settles_read_documentText` — a document that is written comes across failures for nodes
  only, those of `readBack`.
-/

namespace RoadNet

namespace Osm

open Xml (Element)

/-! ## Attributes and tags -/

/-- `parsed` gives what `Attribute.parse?` reads from an attribute that is there. -/
theorem parsed_eq_ok {α : Type} {reader : List Char → Option α} {kind : RecordKind}
    {id : Option Id} {e : Element} {name raw : String} {a : α} (hraw : e.attribute? name = some raw)
    (ha : Attribute.parse? reader raw = some a) : parsed reader kind id e name = .ok a := by
  have hrequired : required kind id e name = .ok raw := by
    rw [required, hraw]
  rw [parsed, bind_of_ok hrequired, ha]
  rfl

/-- The tags of `collectTags` are bound one after the other, on top of those before them. -/
theorem foldlM_tagElement (kind : RecordKind) (id : Option Id) (l : List (String × String))
    (tags : Attributes) :
    (l.map tagElement).foldlM (fun (tags : Attributes) (tag : Element) => do
      let key ← required kind id tag "k"
      let value ← required kind id tag "v"
      return tags.insert key value) tags = .ok (tags.insertAll l) := by
  induction l generalizing tags with
  | nil => rfl
  | cons p l ih => exact ih (tags.insert p.1 p.2)

/-- `collectTags` binds the tags of an element in order. -/
theorem collectTags_eq_ok {kind : RecordKind} {id : Option Id} {e : Element}
    {l : List (String × String)} (h : e.childrenNamed "tag" = l.map tagElement) :
    collectTags kind id e = .ok (SortedMap.ofList l) := by
  rw [collectTags, h]
  exact foldlM_tagElement kind id l SortedMap.empty

theorem filter_name_self {α : Type} {write : α → Element} {name : String}
    (h : ∀ a, (write a).name = name) (l : List α) :
    (l.map write).filter (fun c => c.name = name) = l.map write :=
  List.filter_eq_self.2 (List.forall_mem_map.2 fun a _ => decide_eq_true (h a))

theorem filter_name_other {α : Type} {write : α → Element} {name : String}
    (h : ∀ a, (write a).name ≠ name) (l : List α) :
    (l.map write).filter (fun c => c.name = name) = [] :=
  List.filter_eq_nil_iff.2 (List.forall_mem_map.2 fun a _ => by simp [h a])

theorem tagElement_name (p : String × String) : (tagElement p).name = "tag" := rfl

/-! ## Nodes -/

/-- What becomes of a node that is written and read: of its elevation and a tag of its own under
`Key.elevation` the tag counts. -/
def readBack (projector : Projector) (n : NodeRecord × Geodetic) : Except Failure NodeRecord :=
  match n.1.attributes.find? Key.elevation with
  | none => .ok ⟨n.1.id, projector.forward n.2, n.1.attributes⟩
  | some value =>
    match Attribute.float? value with
    | some ele =>
      .ok ⟨n.1.id, projector.forward ⟨n.2.lat, n.2.lon, ele⟩, n.1.attributes.erase Key.elevation⟩
    | none => .error (.malformedRecord .node (some n.1.id) (.invalidElevation value))

/-- `takeElevation` takes the last of the tags under `Key.elevation`, so a tag of the node hides its
elevation. -/
theorem takeElevation_tags (id : Id) {ele : Float} (hele : isFiniteFloat ele = true)
    (a : Attributes) :
    takeElevation id (SortedMap.ofList ((Key.elevation, floatText ele) :: a.entries)) =
      match a.find? Key.elevation with
      | none => .ok (ele, a)
      | some value =>
        match Attribute.float? value with
        | some own => .ok (own, a.erase Key.elevation)
        | none => .error (.malformedRecord .node (some id) (.invalidElevation value)) := by
  have hfind : ∀ key, (SortedMap.ofList ((Key.elevation, floatText ele) :: a.entries)).find? key =
      (a.find? key).or (if key = Key.elevation then some (floatText ele) else none) := by
    intro key
    rw [SortedMap.ofList_eq_insertAll, SortedMap.insertAll_cons, SortedMap.find?_insertAll_entries,
      SortedMap.find?_insert, SortedMap.find?_empty]
  have herase : (SortedMap.ofList ((Key.elevation, floatText ele) :: a.entries)).erase
      Key.elevation = a.erase Key.elevation := by
    refine SortedMap.ext_find? fun key => ?_
    rw [SortedMap.find?_erase, SortedMap.find?_erase, hfind]
    split <;> simp
  unfold takeElevation
  -- The tag of the node itself comes later than the one in front, so it is the one that is found.
  rw [herase, hfind, if_pos rfl]
  cases h : a.find? Key.elevation with
  | none =>
    rw [Option.none_or]
    dsimp only
    rw [float?_floatText hele, SortedMap.erase_of_find? h]
  | some value => rfl

/-- The tags of a node that is read are what `collectTags` finds, without the elevation. -/
theorem exists_of_readNode {projector : Projector} {e : Element} {n : NodeRecord}
    (h : readNode projector e = .ok n) : ∃ id tags,
      collectTags .node (some id) e = .ok tags ∧ n.attributes = tags.erase Key.elevation := by
  obtain ⟨id, -, h⟩ := bind_eq_ok.1 h
  obtain ⟨lat, -, h⟩ := bind_eq_ok.1 h
  obtain ⟨lon, -, h⟩ := bind_eq_ok.1 h
  obtain ⟨tags, htags, h⟩ := bind_eq_ok.1 h
  obtain ⟨⟨ele, attributes⟩, htake, h⟩ := bind_eq_ok.1 h
  obtain rfl := Except.ok.inj h
  refine ⟨id, tags, htags, ?_⟩
  unfold takeElevation at htake
  split at htake
  next hnone =>
    obtain ⟨-, rfl⟩ := Prod.mk.inj (Except.ok.inj htake)
    exact (SortedMap.erase_of_find? hnone).symm
  next =>
    split at htake
    · obtain ⟨-, rfl⟩ := Prod.mk.inj (Except.ok.inj htake)
      rfl
    · cases htake

/-- `readNode` makes of a written node what `readBack` tells, if its position is finite. -/
theorem readNode_nodeElement (projector : Projector) {n : NodeRecord × Geodetic}
    (h : PlacedRecords.isFinite n.2 = true) :
    readNode projector (nodeElement n) = readBack projector n := by
  obtain ⟨hlat, hlon, hele⟩ := isFinite_iff.1 h
  have hid : parsed readId? .node none (nodeElement n) "id" = .ok n.1.id :=
    parsed_eq_ok rfl (Attribute.parse?_idText n.1.id)
  have hlat' : parsed readFloat? .node (some n.1.id) (nodeElement n) "lat" = .ok n.2.lat :=
    parsed_eq_ok rfl (parse?_floatText hlat)
  have hlon' : parsed readFloat? .node (some n.1.id) (nodeElement n) "lon" = .ok n.2.lon :=
    parsed_eq_ok rfl (parse?_floatText hlon)
  have htags : collectTags .node (some n.1.id) (nodeElement n) = .ok (SortedMap.ofList
      ((Key.elevation, floatText n.2.ele) :: n.1.attributes.entries)) :=
    collectTags_eq_ok (filter_name_self tagElement_name (_ :: n.1.attributes.entries))
  rw [readNode, bind_of_ok hid, bind_of_ok hlat', bind_of_ok hlon', bind_of_ok htags,
    takeElevation_tags n.1.id hele, readBack]
  cases n.1.attributes.find? Key.elevation with
  | none => rfl
  | some value =>
    dsimp only
    cases Attribute.float? value <;> rfl

/-! ## Ways and relations -/

/-- Elements in front of tags, told apart by their `name`. -/
theorem children_before_tags {α : Type} {write : α → Element} {name : String}
    (h : ∀ a, (write a).name = name) (hname : name ≠ "tag") (l : List α) (a : Attributes) :
    (l.map write ++ tagElements a).filter (fun c => c.name = name) = l.map write ∧
      (l.map write ++ tagElements a).filter (fun c => c.name = "tag") = tagElements a := by
  have htag : ∀ p, (tagElement p).name ≠ name := fun p => hname.symm
  rw [List.filter_append, List.filter_append, tagElements, filter_name_self h,
    filter_name_other htag, filter_name_self tagElement_name,
    filter_name_other fun a => (h a).trans_ne hname, List.append_nil, List.nil_append]
  exact ⟨rfl, rfl⟩

/-- `collectTags` undoes `tagElements`. -/
theorem collectTags_tagElements {kind : RecordKind} {id : Option Id} {e : Element}
    {a : Attributes} (h : e.childrenNamed "tag" = tagElements a) :
    collectTags kind id e = .ok a := by
  rw [collectTags_eq_ok h, SortedMap.ofList_entries]

/-- `readWay` undoes `wayElement`. -/
theorem readWay_wayElement (w : WayRecord) : readWay (wayElement w) = .ok w := by
  obtain ⟨hnd, htag⟩ := children_before_tags (fun _ => rfl : ∀ id, (nodeReference id).name = "nd")
    (by decide) w.nodes w.attributes
  have hid : parsed readId? .way none (wayElement w) "id" = .ok w.id :=
    parsed_eq_ok rfl (Attribute.parse?_idText w.id)
  have hnodes : ((wayElement w).childrenNamed "nd").mapM
      (fun nd => parsed readId? .way (some w.id) nd "ref") = .ok w.nodes := by
    have href : ∀ id, parsed readId? .way (some w.id) (nodeReference id) "ref" = .ok id :=
      fun id => parsed_eq_ok rfl (Attribute.parse?_idText id)
    rw [Element.childrenNamed, wayElement, hnd]
    exact mapM_map_eq_ok href w.nodes
  have htags : collectTags .way (some w.id) (wayElement w) = .ok w.attributes :=
    collectTags_tagElements htag
  rw [readWay, bind_of_ok hid, bind_of_ok hnodes, bind_of_ok htags]
  rfl

theorem readMember_memberElement (id : Id) (m : Member) :
    readMember id (memberElement m) = .ok m := by
  have htype : required .relation (some id) (memberElement m) "type" = .ok m.kind.name := rfl
  have href : parsed readId? .relation (some id) (memberElement m) "ref" = .ok m.id :=
    parsed_eq_ok rfl (Attribute.parse?_idText m.id)
  rw [readMember, bind_of_ok htype, RecordKind.ofName?_name]
  dsimp only
  rw [bind_of_ok href]
  rfl

/-- `readRelation` undoes `relationElement`. -/
theorem readRelation_relationElement (x : RelationRecord) :
    readRelation (relationElement x) = .ok x := by
  obtain ⟨hmember, htag⟩ := children_before_tags
    (fun _ => rfl : ∀ m, (memberElement m).name = "member") (by decide) x.members x.attributes
  have hid : parsed readId? .relation none (relationElement x) "id" = .ok x.id :=
    parsed_eq_ok rfl (Attribute.parse?_idText x.id)
  have hmembers : ((relationElement x).childrenNamed "member").mapM (readMember x.id) =
      .ok x.members := by
    rw [Element.childrenNamed, relationElement, hmember]
    exact mapM_map_eq_ok (readMember_memberElement x.id) x.members
  have htags : collectTags .relation (some x.id) (relationElement x) = .ok x.attributes :=
    collectTags_tagElements htag
  rw [readRelation, bind_of_ok hid, bind_of_ok hmembers, bind_of_ok htags]
  rfl

/-! ## Documents -/

/-- The `recordElements` of a written document, by their kinds. -/
theorem recordElements_documentElement (style : Style) (r : PlacedRecords) :
    recordElements (documentElement style r) .node = r.nodes.map nodeElement ∧
      recordElements (documentElement style r) .way = r.ways.map wayElement ∧
      recordElements (documentElement style r) .relation = r.relations.map relationElement := by
  have hnode : ∀ n, (nodeElement n).name = "node" ∧ isDeleted (nodeElement n) = false :=
    fun _ => ⟨rfl, rfl⟩
  have hway : ∀ w, (wayElement w).name = "way" ∧ isDeleted (wayElement w) = false :=
    fun _ => ⟨rfl, rfl⟩
  have hrelation : ∀ x, (relationElement x).name = "relation" ∧
      isDeleted (relationElement x) = false := fun _ => ⟨rfl, rfl⟩
  simp [recordElements, Element.childrenNamed, documentElement, RecordKind.name, List.filter_map,
    Function.comp_def, hnode, hway, hrelation]

/-- What `Osm.read` makes of the `documentText` of `Writable` records: ways and relations as they
are, each node as it is read back (`readBack`). -/
theorem settles_read_documentText (projector : Projector) {style : Style}
    (hdecimals : style.twoDecimals = false)
    (hupload : ∀ c ∈ style.upload.toList, Xml.isNameChar c = true) {r : PlacedRecords}
    (h : Writable r) :
    Settles (fun policy => read projector policy (documentText style r))
      (failuresOf (r.nodes.map (readBack projector)))
      (.ok ⟨goodOf (r.nodes.map (readBack projector)), r.ways, r.relations⟩) := by
  obtain ⟨hnodes, hways, hrelations⟩ := recordElements_documentElement style r
  have hnodes' : (r.nodes.map nodeElement).map (readNode projector) =
      r.nodes.map (readBack projector) := by
    rw [List.map_map]
    exact List.map_congr_left fun n hn => readNode_nodeElement projector (h.finite n hn)
  have hways' : (r.ways.map wayElement).map readWay = r.ways.map Except.ok := by
    rw [List.map_map]
    exact List.map_congr_left fun w _ => readWay_wayElement w
  have hrelations' : (r.relations.map relationElement).map readRelation =
      r.relations.map Except.ok := by
    rw [List.map_map]
    exact List.map_congr_left fun x _ => readRelation_relationElement x
  have hok : ∀ {α : Type} (l : List α), ∀ a ∈ l, (Except.ok a : Except Failure α) = .ok (id a) :=
    fun _ _ _ => rfl
  have hread := settles_read_of_parse projector (parse?_documentText hdecimals hupload h) rfl
  rw [failuresBelow, recordsBelow, hnodes, hways, hrelations, hnodes', hways', hrelations',
    failuresOf_map_ok (hok r.ways), failuresOf_map_ok (hok r.relations), goodOf_map_ok (hok r.ways),
    goodOf_map_ok (hok r.relations), List.map_id, List.map_id, List.append_nil,
    List.append_nil] at hread
  exact hread

end Osm

end RoadNet
