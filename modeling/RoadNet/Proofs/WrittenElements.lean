import RoadNet.Osm.Writer
import RoadNet.Proofs.XmlElements

/-!
# RoadNet.Proofs.WrittenElements

The XML elements that the text of a document spells.

* `Osm.nodeElement`, `Osm.wayElement`, `Osm.relationElement`, `Osm.documentElement` — the element
  of a record, and of a whole document;
* `Osm.Writable` — placed records of which XML can carry everything, at finite positions;
* `Osm.parse?_documentText` — the document of such records is read as its element.
-/

namespace RoadNet.Osm

open Xml (Element Quoted Settings Spells escape isXmlText isPlainName)

/-! ## Elements of records -/

/-- The element that `tagText` spells. -/
def tagElement (p : String × String) : Element := ⟨"tag", [("k", p.1), ("v", p.2)], []⟩

/-- The elements that the `tagTexts` of attributes spell. -/
def tagElements (a : Attributes) : List Element := a.entries.map tagElement

/-- The element that `nodeText` spells, the elevation the first of its tags. -/
def nodeElement (n : NodeRecord × Geodetic) : Element :=
  ⟨RecordKind.node.name,
    [("id", idText n.1.id), ("lat", floatText n.2.lat), ("lon", floatText n.2.lon)],
    tagElement (Key.elevation, floatText n.2.ele) :: tagElements n.1.attributes⟩

/-- The element of a reference to a node. -/
def nodeReference (id : Id) : Element := ⟨"nd", [("ref", idText id)], []⟩

/-- The element that `wayText` spells. -/
def wayElement (w : WayRecord) : Element :=
  ⟨RecordKind.way.name, [("id", idText w.id)],
    w.nodes.map nodeReference ++ tagElements w.attributes⟩

/-- The element that `memberText` spells. -/
def memberElement (m : Member) : Element :=
  ⟨"member", [("type", m.kind.name), ("ref", idText m.id), ("role", m.role)], []⟩

/-- The element that `relationText` spells. -/
def relationElement (x : RelationRecord) : Element :=
  ⟨RecordKind.relation.name, [("id", idText x.id)],
    x.members.map memberElement ++ tagElements x.attributes⟩

/-- The element of a whole document, as `documentText` spells it. -/
def documentElement (style : Style) (r : PlacedRecords) : Element :=
  ⟨rootTag, [("version", "0.6"), ("upload", style.upload), ("generator", "lanemap")],
    r.nodes.map nodeElement ++ (r.ways.map wayElement ++ r.relations.map relationElement)⟩

/-! ## What XML can carry -/

/-- Attributes have no flaw exactly if XML can carry every entry. -/
theorem tagFlaw?_eq_none {a : Attributes} :
    tagFlaw? a = none ↔ ∀ p ∈ a.entries, isXmlText p.1 = true ∧ isXmlText p.2 = true := by
  rw [tagFlaw?, Option.map_eq_none_iff, List.find?_eq_none]
  simp

theorem relationFlaw?_eq_none {x : RelationRecord} :
    relationFlaw? x = none ↔
      (∀ m ∈ x.members, isXmlText m.role = true) ∧ tagFlaw? x.attributes = none := by
  unfold relationFlaw?
  cases h : x.members.find? fun m => !isXmlText m.role with
  | none =>
    rw [List.find?_eq_none] at h
    exact ⟨fun htags => ⟨fun m hm => by simpa using h m hm, htags⟩, And.right⟩
  | some m =>
    refine iff_of_false nofun fun hroles => ?_
    have hflawed := List.find?_some h
    rw [hroles.1 m (List.mem_of_find?_eq_some h)] at hflawed
    cases hflawed

/-- A position `isFinite` exactly if its three coordinates are. -/
theorem isFinite_iff {g : Geodetic} :
    PlacedRecords.isFinite g = true ↔
      isFiniteFloat g.lat = true ∧ isFiniteFloat g.lon = true ∧ isFiniteFloat g.ele = true := by
  rw [PlacedRecords.isFinite, Bool.and_eq_true, Bool.and_eq_true, and_assoc]

/-- Placed records of which XML can carry everything, at finite positions. -/
structure Writable (r : PlacedRecords) : Prop where
  finite : ∀ n ∈ r.nodes, PlacedRecords.isFinite n.2 = true
  nodes : ∀ n ∈ r.nodes, tagFlaw? n.1.attributes = none
  ways : ∀ w ∈ r.ways, tagFlaw? w.attributes = none
  relations : ∀ x ∈ r.relations, relationFlaw? x = none

/-! ## Texts of records -/

/-- An `attributeText` is a setting in front of others. -/
theorem settings_attributeText {name value raw : String} {cs : List Char}
    {l : List (String × String)} (hname : isPlainName name = true)
    (hraw : Quoted raw.toList value) (h : Settings cs l) :
    Settings ((attributeText name raw).toList ++ cs) ((name, value) :: l) := by
  have htext : (attributeText name raw).toList ++ cs =
      ' ' :: (name.toList ++ '=' :: '"' :: (raw.toList ++ '"' :: cs)) := by
    simp [attributeText, String.toList_append]
  rw [htext]
  exact .cons hname hraw h

/-- The `Settings` of one attribute. -/
theorem settings_singleton {name value raw : String} (hname : isPlainName name = true)
    (hraw : Quoted raw.toList value) :
    Settings (attributeText name raw).toList [(name, value)] := by
  have h := settings_attributeText hname hraw .nil
  rwa [List.append_nil] at h

/-- `tagText` spells the element of a tag that XML can carry. -/
theorem spells_tagText {key value : String} (hkey : isXmlText key = true)
    (hvalue : isXmlText value = true) :
    Spells (tagText key value).toList [tagElement (key, value)] := by
  have hsettings := settings_attributeText (by decide : isPlainName "k" = true)
    (Xml.quoted_escape hkey)
    (settings_singleton (by decide : isPlainName "v" = true) (Xml.quoted_escape hvalue))
  have hleaf := Spells.leaf (by decide : isPlainName "tag" = true) hsettings
    (by decide : ["k", "v"].Nodup)
  have htext : (tagText key value).toList = '<' :: ("tag".toList ++
      ((attributeText "k" (escape key)).toList ++ (attributeText "v" (escape value)).toList ++
        ['/', '>'])) := by
    simp [tagText, String.toList_append]
  rwa [htext]

theorem spells_nodeReference (id : Id) :
    Spells ("<nd" ++ attributeText "ref" (idText id) ++ "/>").toList [nodeReference id] := by
  have hleaf := Spells.leaf (by decide : isPlainName "nd" = true)
    (settings_singleton (by decide : isPlainName "ref" = true) (Xml.quoted_idText id))
    (by decide : ["ref"].Nodup)
  have htext : ("<nd" ++ attributeText "ref" (idText id) ++ "/>").toList =
      '<' :: ("nd".toList ++ ((attributeText "ref" (idText id)).toList ++ ['/', '>'])) := by
    simp [String.toList_append]
  rwa [htext]

/-- The name of a kind of record is `Quoted` as itself. -/
theorem quoted_kindName (kind : RecordKind) : Quoted kind.name.toList kind.name :=
  Xml.quoted_of_isNameChar (List.all_eq_true.1 (by cases kind <;> decide))

/-- `memberText` spells the element of a member with a role that XML can carry. -/
theorem spells_memberText {m : Member} (h : isXmlText m.role = true) :
    Spells (memberText m).toList [memberElement m] := by
  have hsettings := settings_attributeText (by decide : isPlainName "type" = true)
    (quoted_kindName m.kind) (settings_attributeText (by decide : isPlainName "ref" = true)
      (Xml.quoted_idText m.id)
      (settings_singleton (by decide : isPlainName "role" = true) (Xml.quoted_escape h)))
  have hleaf := Spells.leaf (by decide : isPlainName "member" = true) hsettings
    (by decide : ["type", "ref", "role"].Nodup)
  have htext : (memberText m).toList = '<' :: ("member".toList ++
      ((attributeText "type" m.kind.name).toList ++ ((attributeText "ref" (idText m.id)).toList ++
        (attributeText "role" (escape m.role)).toList) ++ ['/', '>'])) := by
    simp [memberText, String.toList_append]
  rwa [htext]

/-- White space around a text does not change what it spells. -/
theorem spells_padded {cs before after : List Char} {es : List Element} (h : Spells cs es)
    (hbefore : ∀ c ∈ before, Xml.isSpace c = true) (hafter : ∀ c ∈ after, Xml.isSpace c = true) :
    Spells (before ++ (cs ++ after)) es := by
  have hall := (Spells.spaces hbefore).append (h.append (.spaces hafter))
  rwa [List.nil_append, List.append_nil] at hall

/-- `elementText` spells a record element, its children one a line. -/
theorem spells_elementText (kind : RecordKind) {head : String} {l : List (String × String)}
    {texts : List String} {es : List Element} (hhead : Settings head.toList l)
    (hdistinct : (l.map Prod.fst).Nodup)
    (hchildren : List.Forall₂ (fun s e => Spells s.toList [e]) texts es) :
    Spells (elementText kind head texts).toList [⟨kind.name, l, es⟩] := by
  have hkind : isPlainName kind.name = true := by cases kind <;> decide
  have hindent : ∀ c ∈ "  ".toList, Xml.isSpace c = true := List.all_eq_true.1 (by decide)
  have hdeep : ∀ c ∈ "    ".toList, Xml.isSpace c = true := List.all_eq_true.1 (by decide)
  have hline : ∀ c ∈ "\n".toList, Xml.isSpace c = true := List.all_eq_true.1 (by decide)
  cases hchildren with
  | nil =>
    have hleaf := spells_padded (Spells.leaf hkind hhead hdistinct) hindent hline
    have htext : (elementText kind head []).toList =
        "  ".toList ++ ('<' :: (kind.name.toList ++ (head.toList ++ ['/', '>'])) ++
          "\n".toList) := by
      simp [elementText, String.toList_append]
    rwa [htext]
  | @cons text e texts es htext htexts =>
    have hlines : List.Forall₂ (fun s e => Spells s.toList [e])
        ((text :: texts).map fun c => "    " ++ c ++ "\n") (e :: es) := by
      rw [List.forall₂_map_left_iff]
      refine List.Forall₂.imp (fun c e hc => ?_) (List.Forall₂.cons htext htexts)
      rw [String.toList_append, String.toList_append, List.append_assoc]
      exact spells_padded hc hdeep hline
    have hinner := spells_padded (Spells.join hlines) hline hindent
    have hnested := spells_padded (Spells.nested hkind hhead hdistinct hinner) hindent hline
    have htext : (elementText kind head (text :: texts)).toList =
        "  ".toList ++ ('<' :: (kind.name.toList ++ (head.toList ++ ['>'])) ++
          ("\n".toList ++
            ((String.join ((text :: texts).map fun c => "    " ++ c ++ "\n")).toList ++
              "  ".toList) ++ '<' :: '/' :: (kind.name.toList ++ ['>'])) ++ "\n".toList) := by
      have hfilled : (text :: texts).isEmpty = false := rfl
      rw [elementText, hfilled]
      simp [String.toList_append]
    rwa [htext]

/-- Texts of which each spells one element. -/
theorem forall₂_spells {α : Type} {text : α → String} {element : α → Element} {xs : List α}
    (h : ∀ x ∈ xs, Spells (text x).toList [element x]) :
    List.Forall₂ (fun s e => Spells s.toList [e]) (xs.map text) (xs.map element) := by
  rw [List.forall₂_map_left_iff, List.forall₂_map_right_iff, List.forall₂_same]
  exact h

theorem spells_tagTexts {a : Attributes} (h : tagFlaw? a = none) :
    List.Forall₂ (fun s e => Spells s.toList [e]) (tagTexts a) (tagElements a) := by
  refine forall₂_spells fun p hp => ?_
  obtain ⟨hkey, hvalue⟩ := tagFlaw?_eq_none.1 h p hp
  exact spells_tagText hkey hvalue

/-- `nodeText` spells the element of a node at a finite position, if XML can carry its tags. -/
theorem spells_nodeText {style : Style} (hstyle : style.twoDecimals = false)
    {n : NodeRecord × Geodetic} (hfinite : PlacedRecords.isFinite n.2 = true)
    (htags : tagFlaw? n.1.attributes = none) :
    Spells (nodeText style n).toList [nodeElement n] := by
  obtain ⟨hlat, hlon, hele⟩ := isFinite_iff.1 hfinite
  have hhead : Settings (attributeText "id" (idText n.1.id) ++
      attributeText "lat" (floatText n.2.lat) ++ attributeText "lon" (floatText n.2.lon)).toList
      [("id", idText n.1.id), ("lat", floatText n.2.lat), ("lon", floatText n.2.lon)] := by
    rw [String.toList_append, String.toList_append, List.append_assoc]
    exact settings_attributeText (by decide) (Xml.quoted_idText _)
      (settings_attributeText (by decide) (Xml.quoted_floatText hlat)
        (settings_singleton (by decide) (Xml.quoted_floatText hlon)))
  have helevation : Spells (tagText Key.elevation (style.elevationText n.2.ele)).toList
      [tagElement (Key.elevation, floatText n.2.ele)] := by
    rw [Style.elevationText, hstyle]
    exact spells_tagText (by decide) (Xml.isXmlText_floatText hele)
  exact spells_elementText .node hhead (by decide : ["id", "lat", "lon"].Nodup)
    (.cons helevation (spells_tagTexts htags))

/-- `wayText` spells the element of a way, if XML can carry its tags. -/
theorem spells_wayText {w : WayRecord} (htags : tagFlaw? w.attributes = none) :
    Spells (wayText w).toList [wayElement w] := by
  have hnodes := forall₂_spells fun id (_ : id ∈ w.nodes) => spells_nodeReference id
  exact spells_elementText .way
    (settings_singleton (by decide) (Xml.quoted_idText w.id)) (by decide : ["id"].Nodup)
    (List.rel_append hnodes (spells_tagTexts htags))

/-- `relationText` spells the element of a relation, if XML can carry its tags and roles. -/
theorem spells_relationText {x : RelationRecord} (h : relationFlaw? x = none) :
    Spells (relationText x).toList [relationElement x] := by
  obtain ⟨hroles, htags⟩ := relationFlaw?_eq_none.1 h
  have hmembers := forall₂_spells fun m hm => spells_memberText (hroles m hm)
  exact spells_elementText .relation
    (settings_singleton (by decide) (Xml.quoted_idText x.id)) (by decide : ["id"].Nodup)
    (List.rel_append hmembers (spells_tagTexts htags))

/-! ## Documents -/

/-- The parts of a `documentText`: declaration, start tag, record elements, end tag. -/
theorem toList_documentText (style : Style) (r : PlacedRecords) :
    (documentText style r).toList = Xml.declaration ++ ("\n".toList ++
      ('<' :: (rootTag.toList ++ ((attributeText "version" "0.6").toList ++
        ((attributeText "upload" style.upload).toList ++
          (attributeText "generator" "lanemap").toList) ++ ['>'])) ++
        ("\n".toList ++ ((String.join (r.nodes.map (nodeText style))).toList ++
          ((String.join (r.ways.map wayText)).toList ++
            (String.join (r.relations.map relationText)).toList) ++ []) ++
          '<' :: '/' :: (rootTag.toList ++ ['>'])) ++ "\n".toList)) := by
  have hstart : "<?xml version=\"1.0\" encoding=\"UTF-8\"?>\n<".toList =
      Xml.declaration ++ ['\n', '<'] := rfl
  have hopen : ">\n".toList = ['>', '\n'] := rfl
  have hclose : "</".toList = ['<', '/'] := rfl
  have hline : "\n".toList = ['\n'] := rfl
  unfold documentText
  simp only [String.toList_append, hstart, hopen, hclose, hline]
  -- The characters of the declaration play no part in putting the rest in order.
  generalize Xml.declaration = start
  simp

/-- The `documentText` of `Writable` records is read as their element. -/
theorem parse?_documentText {style : Style} (hdecimals : style.twoDecimals = false)
    (hupload : ∀ c ∈ style.upload.toList, Xml.isNameChar c = true) {r : PlacedRecords}
    (h : Writable r) : Element.parse? (documentText style r) = some (documentElement style r) := by
  have hsettings : Settings ((attributeText "version" "0.6").toList ++
      ((attributeText "upload" style.upload).toList ++
        (attributeText "generator" "lanemap").toList))
      [("version", "0.6"), ("upload", style.upload), ("generator", "lanemap")] :=
    settings_attributeText (by decide) (Xml.quoted_of_isNameChar (List.all_eq_true.1 (by decide)))
      (settings_attributeText (by decide) (Xml.quoted_of_isNameChar hupload)
        (settings_singleton (by decide)
          (Xml.quoted_of_isNameChar (List.all_eq_true.1 (by decide)))))
  have hnodes := Spells.join (forall₂_spells fun n hn =>
    spells_nodeText hdecimals (h.finite n hn) (h.nodes n hn))
  have hways := Spells.join (forall₂_spells fun w hw => spells_wayText (h.ways w hw))
  have hrelations := Spells.join (forall₂_spells fun x hx =>
    spells_relationText (h.relations x hx))
  have hline : ∀ c ∈ "\n".toList, Xml.isSpace c = true := List.all_eq_true.1 (by decide)
  have hrecords := spells_padded (hnodes.append (hways.append hrelations)) hline
    (fun c hc => absurd hc List.not_mem_nil)
  have hroot := spells_padded (Spells.nested (by decide : isPlainName rootTag = true) hsettings
    (by decide : ["version", "upload", "generator"].Nodup) hrecords) hline hline
  have hspells : Spells _ [documentElement style r] := hroot
  exact hspells.parse? (Xml.Token.ofText?_declaration (toList_documentText style r))

end RoadNet.Osm
