import RoadNet.Disassembly
import RoadNet.Proofs.KeyOrder
import RoadNet.Proofs.Pruning
import RoadNet.Proofs.Stores

/-!
# RoadNet.Proofs.Disassembled

What taking a map apart gives. Every element has a record that it drafts; a draft is given up
where another layer has taken its identifier or where a reference does not resolve in the map,
and the clean-up drops the records that are left without a record they name.

* `settles_toRecords` — a run of `RoadMap.toRecords` comes across `saveFailures m` and results
  in `saved m`;
* `writes_reference_iff` — a reference of an element that is written names the record of the
  very element it means, unless another layer has taken that element's identifier;
* `writes_or_reported` — an element is written or reported.

Layers that share a record kind are told apart by `Shadowed`: a polygon whose identifier a line
string has, and a regulatory element whose identifier a lanelet has, give way. The check of
references looks at the map, where such an element is still there.
-/

namespace RoadNet

/-! ## Results of attempts -/

/-- The results of attempts that keep the keys of what they are made at are in the order of those
keys. -/
theorem keys_goodOf_sublist {attempt : α → Except Failure β} {key : α → Id} {key' : β → Id}
    {l : List α} (h : ∀ a b, attempt a = .ok b → key' b = key a) :
    ((goodOf (l.map attempt)).map key').Sublist (l.map key) := by
  induction l with
  | nil => exact List.Sublist.refl _
  | cons a rest ih =>
    rw [List.map_cons, List.map_cons]
    cases ha : attempt a with
    | ok b => exact h a b ha ▸ ih.cons_cons _
    | error f => exact ih.cons _

/-- A failed attempt at an element of the list is among the `failuresOf` them. -/
theorem mem_failuresOf_map {attempt : α → Except Failure β} {l : List α} {a : α} {f : Failure}
    (ha : a ∈ l) (h : attempt a = .error f) : f ∈ failuresOf (l.map attempt) :=
  mem_failuresOf.2 (h ▸ List.mem_map_of_mem ha)

/-- A layer that holds its elements by their own identifiers (`h`) lists these as its `keys`. -/
theorem SortedMap.map_values {m : SortedMap Id α} {key : α → Id}
    (h : ∀ id a, m.find? id = some a → key a = id) : m.values.map key = m.keys := by
  rw [values, keys, List.map_map]
  exact List.map_congr_left fun p hp => h p.1 p.2 (find?_eq_some.2 hp)

namespace RoadMap

/-! ## Maps -/

/-- The maps that adding elements makes, regulatory elements with any data that the interface of
stores makes. Identifiers may be shared between layers, and references may dangle. -/
inductive Added : RoadMap → Prop where
  | empty : Added .empty
  | point {m : RoadMap} (h : Added m) (p : Point) : Added (m.addPoint p)
  | lineString {m : RoadMap} (h : Added m) (l : LineString) : Added (m.addLineString l)
  | polygon {m : RoadMap} (h : Added m) (p : Polygon) : Added (m.addPolygon p)
  | lanelet {m : RoadMap} (h : Added m) (l : Lanelet) : Added (m.addLanelet l)
  | element {m : RoadMap} (h : Added m) (e : RegulatoryElement) (reached : e.store.Reached) :
      Added (m.addElement e)

/-- Every layer holds its elements by their own identifiers, and the store of every regulatory
element is `Tidy`. -/
structure Keyed (m : RoadMap) : Prop where
  points : ∀ id p, m.points.find? id = some p → p.id = id
  lineStrings : ∀ id l, m.lineStrings.find? id = some l → l.id = id
  polygons : ∀ id p, m.polygons.find? id = some p → p.id = id
  lanelets : ∀ id l, m.lanelets.find? id = some l → l.id = id
  regulatoryElements : ∀ id e, m.regulatoryElements.find? id = some e → e.id = id
  tidy : ∀ id e, m.regulatoryElements.find? id = some e → e.store.Tidy

theorem forall_find?_empty {p : Id → α → Prop} :
    ∀ i b, (SortedMap.empty : Layer α).find? i = some b → p i b := by
  simp

/-- What holds of all elements of a layer, each under its identifier, still holds after the `insert`
of an element for which it holds. -/
theorem forall_find?_insert {layer : Layer α} {id : Id} {a : α} {p : Id → α → Prop}
    (h : ∀ i b, layer.find? i = some b → p i b) (ha : p id a) :
    ∀ i b, (layer.insert id a).find? i = some b → p i b := by
  intro i b hb
  rw [SortedMap.find?_insert] at hb
  split at hb
  next hi => exact Option.some.inj hb ▸ hi ▸ ha
  next => exact h i b hb

/-- The maps that adding elements makes are `Keyed`. -/
theorem Added.keyed {m : RoadMap} (h : m.Added) : m.Keyed := by
  induction h with
  | empty =>
    exact ⟨forall_find?_empty, forall_find?_empty, forall_find?_empty, forall_find?_empty,
      forall_find?_empty, forall_find?_empty⟩
  | point _ p ih => exact { ih with points := forall_find?_insert ih.points rfl }
  | lineString _ l ih => exact { ih with lineStrings := forall_find?_insert ih.lineStrings rfl }
  | polygon _ p ih => exact { ih with polygons := forall_find?_insert ih.polygons rfl }
  | lanelet _ l ih => exact { ih with lanelets := forall_find?_insert ih.lanelets rfl }
  | element _ e reached ih =>
    exact { ih with
      regulatoryElements := forall_find?_insert ih.regulatoryElements rfl
      tidy := forall_find?_insert ih.tidy reached.tidy }

variable (m : RoadMap)

/-- Whether another layer has taken the identifier of an element for its record: a line string that
of a polygon, a lanelet that of a regulatory element. -/
def Shadowed (ref : Reference) : Prop :=
  (ref.kind = .polygon ∧ m.lineStrings.contains ref.id = true) ∨
    (ref.kind = .regulatoryElement ∧ m.lanelets.contains ref.id = true)

/-- What the element that `ref` means refers to in the map. -/
def referencesOf (ref : Reference) : List Reference :=
  match ref.kind with
  | .point => []
  | .lineString => (m.lineStrings.find? ref.id).elim [] fun l => l.points.map (⟨.point, ·⟩)
  | .polygon => (m.polygons.find? ref.id).elim [] fun p => p.points.map (⟨.point, ·⟩)
  | .lanelet => (m.lanelets.find? ref.id).elim [] fun l => (laneletReferences l).map (·.2)
  | .regulatoryElement =>
    (m.regulatoryElements.find? ref.id).elim [] fun e => e.store.parameters.map (·.2)

section References

variable {m} {id : Id}

theorem referencesOf_lineString {l : LineString} (h : m.lineStrings.find? id = some l) :
    m.referencesOf ⟨.lineString, id⟩ = l.points.map (⟨.point, ·⟩) := by
  simp [referencesOf, h]

theorem referencesOf_polygon {p : Polygon} (h : m.polygons.find? id = some p) :
    m.referencesOf ⟨.polygon, id⟩ = p.points.map (⟨.point, ·⟩) := by
  simp [referencesOf, h]

theorem referencesOf_lanelet {l : Lanelet} (h : m.lanelets.find? id = some l) :
    m.referencesOf ⟨.lanelet, id⟩ = (laneletReferences l).map (·.2) := by
  simp [referencesOf, h]

theorem referencesOf_regulatoryElement {e : RegulatoryElement}
    (h : m.regulatoryElements.find? id = some e) :
    m.referencesOf ⟨.regulatoryElement, id⟩ = e.store.parameters.map (·.2) := by
  simp [referencesOf, h]

end References

/-! ## Drafts -/

/-- The record of a lanelet, tagged `type=lanelet`. -/
def laneletRecord (l : Lanelet) : RelationRecord :=
  ⟨l.id, l.attributes.insert Key.type TypeTag.lanelet, (laneletReferences l).map memberOf⟩

/-- The record of a regulatory element, with the `parameters` of its store as members. -/
def elementRecord (e : RegulatoryElement) : RelationRecord :=
  ⟨e.id, e.attributes, e.store.parameters.map memberOf⟩

/-- The record of a polygon, or the failure `lineStringSharesPolygonId` where a line string has its
identifier. -/
def polygonRecord? (p : Polygon) : Except Failure WayRecord :=
  if m.lineStrings.contains p.id then
    .error (.malformedRecord .way (some p.id) .lineStringSharesPolygonId)
  else .ok (polygonRecord p)

variable {m}

/-- A polygon has a record exactly if no line string has its identifier. -/
theorem polygonRecord?_eq_ok {p : Polygon} {w : WayRecord} :
    m.polygonRecord? p = .ok w ↔ m.lineStrings.contains p.id = false ∧ polygonRecord p = w := by
  unfold polygonRecord?
  split
  next hshared => simp [hshared]
  next hshared => simp [hshared]

/-- The search for a reference that `m` does not contain finds none exactly if it contains them
all. -/
theorem find?_missing_eq_none {l : List (String × Reference)} :
    (l.find? fun p => !m.contains p.2) = none ↔ ∀ p ∈ l, m.contains p.2 = true := by
  simp [List.find?_eq_none]

/-- A lanelet has a record exactly if all of its `laneletReferences` resolve. -/
theorem laneletRecord?_eq_ok {l : Lanelet} {x : RelationRecord} :
    m.laneletRecord? l = .ok x ↔
      (∀ p ∈ laneletReferences l, m.contains p.2 = true) ∧ laneletRecord l = x := by
  unfold laneletRecord?
  rw [← find?_missing_eq_none]
  split
  next hfind => simp [hfind]
  next hfind => simp [hfind, laneletRecord]

/-- `checkReferences` accepts exactly the stores of which all `parameters` resolve. -/
theorem checkReferences_eq_ok {s : RoleStore} :
    m.checkReferences s = .ok () ↔ ∀ p ∈ s.parameters, m.contains p.2 = true := by
  unfold checkReferences
  rw [← find?_missing_eq_none]
  split
  next hfind => simp [hfind]
  next hfind => simp [hfind]

/-- A regulatory element has a record exactly if no lanelet has its identifier and all `parameters`
of its store resolve. -/
theorem elementRecord?_eq_ok {e : RegulatoryElement} {x : RelationRecord} :
    m.elementRecord? e = .ok x ↔ m.lanelets.contains e.id = false ∧
      (∀ p ∈ e.store.parameters, m.contains p.2 = true) ∧ elementRecord e = x := by
  unfold elementRecord?
  rw [← checkReferences_eq_ok]
  split
  next hshared => simp [hshared]
  next hshared =>
    split
    next hcheck => simp [hcheck]
    next hcheck => simp [hshared, hcheck, elementRecord]

/-- A polygon without a record is reported under its own identifier. -/
theorem polygonRecord?_eq_error {p : Polygon} {f : Failure} (h : m.polygonRecord? p = .error f) :
    f.record? = some (.way, p.id) := by
  unfold polygonRecord? at h
  split at h
  · exact Except.error.inj h ▸ rfl
  · cases h

/-- A lanelet without a record is reported under its own identifier. -/
theorem laneletRecord?_eq_error {l : Lanelet} {f : Failure} (h : m.laneletRecord? l = .error f) :
    f.record? = some (.relation, l.id) := by
  unfold laneletRecord? at h
  split at h
  · exact Except.error.inj h ▸ rfl
  · cases h

/-- A regulatory element without a record is reported under its own identifier. -/
theorem elementRecord?_eq_error {e : RegulatoryElement} {f : Failure}
    (h : m.elementRecord? e = .error f) : f.record? = some (.relation, e.id) := by
  unfold elementRecord? at h
  split at h
  · exact Except.error.inj h ▸ rfl
  · split at h
    · exact Except.error.inj h ▸ rfl
    · cases h

theorem isRecordLevel_of_record? {f : Failure} {record : RecordKind × Id}
    (h : f.record? = some record) : f.isRecordLevel = true := by
  cases f <;> first | rfl | cases h

/-! ### Identifiers of ways -/

/-- The only failure among `claimIds` is that of a way whose identifier is taken. -/
theorem eq_of_error_mem_claimIds {taken : List Id} {ways : List WayRecord} {f : Failure}
    (h : .error f ∈ claimIds taken ways) :
    ∃ id, f = .malformedRecord .way (some id) .lineStringSharesPolygonId := by
  induction ways generalizing taken with
  | nil => cases h
  | cons w rest ih =>
    rcases List.mem_cons.1 h with h | h
    · unfold claimId at h
      split at h
      · exact ⟨w.id, Except.error.inj h⟩
      · cases h
    · exact ih h

/-- `claimIds` goes on behind `xs` with their identifiers taken. -/
theorem claimIds_append (taken : List Id) (xs ys : List WayRecord) :
    claimIds taken (xs ++ ys) =
      claimIds taken xs ++ claimIds ((xs.map (·.id)).reverse ++ taken) ys := by
  induction xs generalizing taken with
  | nil => rfl
  | cons x rest ih =>
    rw [List.cons_append, claimIds, claimIds, ih, List.map_cons, List.reverse_cons,
      List.append_assoc, List.singleton_append, List.cons_append]

/-- Ways that share no identifier with each other are refused one only if it was `taken` before
the first of them. -/
theorem claimIds_of_nodup {taken : List Id} {ways : List WayRecord}
    (h : (ways.map (·.id)).Nodup) : claimIds taken ways = ways.map (claimId taken) := by
  induction ways generalizing taken with
  | nil => rfl
  | cons w rest ih =>
    rw [List.map_cons, List.nodup_cons] at h
    rw [claimIds, ih h.2, List.map_cons]
    congr 1
    refine List.map_congr_left fun x hx => ?_
    have hne : x.id ≠ w.id := fun heq => h.1 (heq ▸ List.mem_map_of_mem hx)
    simp only [claimId, List.mem_cons, hne, false_or]

/-- In a map whose layers hold their elements by their own identifiers, every line string has its
record, and a polygon has it unless a line string has its identifier. -/
theorem Keyed.wayRecords_eq (keyed : m.Keyed) :
    m.wayRecords = m.lineStrings.values.map (fun l => .ok (lineStringRecord l)) ++
      m.polygons.values.map m.polygonRecord? := by
  have hlines : (m.lineStrings.values.map lineStringRecord).map (·.id) = m.lineStrings.keys := by
    rw [← SortedMap.map_values keyed.lineStrings, List.map_map]
    rfl
  have hpolygons : (m.polygons.values.map polygonRecord).map (·.id) = m.polygons.keys := by
    rw [← SortedMap.map_values keyed.polygons, List.map_map]
    rfl
  rw [wayRecords, claimIds_append, claimIds_of_nodup (hlines ▸ m.lineStrings.nodup_keys),
    claimIds_of_nodup (hpolygons ▸ m.polygons.nodup_keys), hlines, List.map_map, List.map_map]
  refine congrArg (_ ++ ·) (List.map_congr_left fun p _ => ?_)
  simp only [Function.comp_apply, claimId, polygonRecord?, List.append_nil, List.mem_reverse,
    SortedMap.mem_keys, polygonRecord]

variable (m)

/-- The records of a map before the clean-up, those of elements that have one. -/
def draft : RecordSet where
  nodes := m.points.values.map nodeRecord
  ways := goodOf m.wayRecords
  relations := goodOf (m.lanelets.values.map m.laneletRecord?) ++
    goodOf (m.regulatoryElements.values.map m.elementRecord?)

/-- The records of the map, that is the `draft` after `pruneDangling`. -/
def saved : RecordSet := m.draft.pruneDangling.1

/-- The failures of `toRecords`, in order: those of the drafts, then those of the clean-up. -/
def saveFailures : List Failure :=
  failuresOf m.wayRecords ++
    (failuresOf (m.lanelets.values.map m.laneletRecord?) ++
      (failuresOf (m.regulatoryElements.values.map m.elementRecord?) ++
        m.draft.pruneDangling.2.map RecordSet.Removal.failure))

/-- `toRecords` comes across `saveFailures` and results in `saved`. -/
theorem settles_toRecords :
    Settles (fun policy => m.toRecords policy) m.saveFailures (.ok m.saved) := by
  have hways : ∀ f, .error f ∈ m.wayRecords → f.isRecordLevel = true := by
    intro f hf
    obtain ⟨id, rfl⟩ := eq_of_error_mem_claimIds hf
    rfl
  have hlanelets : ∀ f, .error f ∈ m.lanelets.values.map m.laneletRecord? →
      f.isRecordLevel = true := by
    intro f hf
    obtain ⟨l, -, hl⟩ := List.mem_map.1 hf
    exact isRecordLevel_of_record? (laneletRecord?_eq_error hl)
  have helements : ∀ f, .error f ∈ m.regulatoryElements.values.map m.elementRecord? →
      f.isRecordLevel = true := by
    intro f hf
    obtain ⟨e, -, he⟩ := List.mem_map.1 hf
    exact isRecordLevel_of_record? (elementRecord?_eq_error he)
  exact (settles_keepGood hways).bind ((settles_keepGood hlanelets).bind
    ((settles_keepGood helements).bind (m.draft.settles_prune.map fun p => p.1)))

/-! ## What is drafted -/

variable {m}

/-- The nodes of the `draft` are the `nodeRecord` of every point. -/
theorem mem_draft_nodes {n : NodeRecord} :
    n ∈ m.draft.nodes ↔ ∃ id p, m.points.find? id = some p ∧ n = nodeRecord p := by
  simp only [draft, List.mem_map, SortedMap.mem_values]
  exact ⟨fun ⟨p, ⟨id, hp⟩, hn⟩ => ⟨id, p, hp, hn.symm⟩,
    fun ⟨id, p, hp, hn⟩ => ⟨p, ⟨id, hp⟩, hn.symm⟩⟩

/-- The `wayRecords` of a `Keyed` map that succeed, layer by layer. -/
theorem Keyed.goodOf_wayRecords (keyed : m.Keyed) :
    goodOf m.wayRecords = m.lineStrings.values.map lineStringRecord ++
      goodOf (m.polygons.values.map m.polygonRecord?) := by
  rw [keyed.wayRecords_eq, goodOf_append, goodOf_map_ok fun l _ => rfl]

/-- The `wayRecords` of a `Keyed` map that fail are those of polygons. -/
theorem Keyed.failuresOf_wayRecords (keyed : m.Keyed) :
    failuresOf m.wayRecords = failuresOf (m.polygons.values.map m.polygonRecord?) := by
  rw [keyed.wayRecords_eq, failuresOf_append, failuresOf_map_ok fun l _ => rfl, List.nil_append]

/-- The ways of the `draft` are the records of all line strings, and of the polygons whose
identifier no line string has. -/
theorem mem_draft_ways (keyed : m.Keyed) {w : WayRecord} :
    w ∈ m.draft.ways ↔
      (∃ id l, m.lineStrings.find? id = some l ∧ w = lineStringRecord l) ∨
        ∃ id p, m.polygons.find? id = some p ∧ m.lineStrings.contains p.id = false ∧
          w = polygonRecord p := by
  simp only [draft, keyed.goodOf_wayRecords, List.mem_append, mem_goodOf, List.mem_map,
    SortedMap.mem_values, polygonRecord?_eq_ok]
  constructor
  · rintro (⟨l, ⟨id, hl⟩, rfl⟩ | ⟨p, ⟨id, hp⟩, hfree, rfl⟩)
    · exact .inl ⟨id, l, hl, rfl⟩
    · exact .inr ⟨id, p, hp, hfree, rfl⟩
  · rintro (⟨id, l, hl, rfl⟩ | ⟨id, p, hp, hfree, rfl⟩)
    · exact .inl ⟨l, ⟨id, hl⟩, rfl⟩
    · exact .inr ⟨p, ⟨id, hp⟩, hfree, rfl⟩

/-- The relations of the `draft` are the records of lanelets and regulatory elements whose
references resolve, of the latter only where no lanelet has the identifier. -/
theorem mem_draft_relations {x : RelationRecord} :
    x ∈ m.draft.relations ↔
      (∃ id l, m.lanelets.find? id = some l ∧
        (∀ p ∈ laneletReferences l, m.contains p.2 = true) ∧ x = laneletRecord l) ∨
      ∃ id e, m.regulatoryElements.find? id = some e ∧ m.lanelets.contains e.id = false ∧
        (∀ p ∈ e.store.parameters, m.contains p.2 = true) ∧ x = elementRecord e := by
  simp only [draft, List.mem_append, mem_goodOf, List.mem_map, SortedMap.mem_values,
    laneletRecord?_eq_ok, elementRecord?_eq_ok]
  constructor
  · rintro (⟨l, ⟨id, hl⟩, hrefs, rfl⟩ | ⟨e, ⟨id, he⟩, hfree, hrefs, rfl⟩)
    · exact .inl ⟨id, l, hl, hrefs, rfl⟩
    · exact .inr ⟨id, e, he, hfree, hrefs, rfl⟩
  · rintro (⟨id, l, hl, hrefs, rfl⟩ | ⟨id, e, he, hfree, hrefs, rfl⟩)
    · exact .inl ⟨l, ⟨id, hl⟩, hrefs, rfl⟩
    · exact .inr ⟨e, ⟨id, he⟩, hfree, hrefs, rfl⟩

namespace Keyed

/-- The elements of one layer, and results of attempts at another one that keep its keys (`hkeep`)
and share none with the first (`hfree`), repeat no identifier. -/
theorem nodup_ids_append {α β γ : Type} {first : Layer α} {second : Layer β} {key : α → Id}
    {key' : γ → Id} {attempt : β → Except Failure γ} (keyβ : β → Id)
    (hfirst : ∀ id a, first.find? id = some a → key a = id)
    (hsecond : ∀ id b, second.find? id = some b → keyβ b = id)
    (hkeep : ∀ b c, attempt b = .ok c → key' c = keyβ b)
    (hfree : ∀ b c, attempt b = .ok c → first.contains (keyβ b) = false) {ids : List Id}
    (hids : ids.Sublist (first.values.map key)) :
    (ids ++ (goodOf (second.values.map attempt)).map key').Nodup := by
  rw [SortedMap.map_values hfirst] at hids
  have hsub := keys_goodOf_sublist (l := second.values) hkeep
  rw [SortedMap.map_values hsecond] at hsub
  refine List.nodup_append.2 ⟨first.nodup_keys.sublist hids, second.nodup_keys.sublist hsub, ?_⟩
  rintro i hi j hj rfl
  obtain ⟨c, hc, rfl⟩ := List.mem_map.1 hj
  obtain ⟨b, -, hb⟩ := List.mem_map.1 (mem_goodOf.1 hc)
  have hnone := hfree b c hb
  rw [← hkeep b c hb, SortedMap.contains, Option.isSome_eq_false_iff, Option.isNone_iff_eq_none,
    SortedMap.find?_eq_none_iff] at hnone
  exact hnone (hids.subset hi)

/-- No two records of a kind have one identifier in the `draft`, if the map is `Keyed`. -/
theorem distinct_draft (keyed : m.Keyed) : m.draft.Distinct := by
  intro kind
  cases kind with
  | node =>
    have hids : m.draft.ids .node = m.points.keys := by
      rw [← SortedMap.map_values keyed.points, RecordSet.ids, RecordSet.nodeIds, draft,
        List.map_map]
      rfl
    rw [hids]
    exact m.points.nodup_keys
  | way =>
    have hids : m.draft.ids .way = m.lineStrings.values.map (·.id) ++
        (goodOf (m.polygons.values.map m.polygonRecord?)).map (·.id) := by
      rw [RecordSet.ids, RecordSet.wayIds, draft, keyed.goodOf_wayRecords, List.map_append,
        List.map_map]
      rfl
    rw [hids]
    refine nodup_ids_append Polygon.id keyed.lineStrings keyed.polygons ?_ ?_
      (List.Sublist.refl _)
    · exact fun p w h => (polygonRecord?_eq_ok.1 h).2 ▸ rfl
    · exact fun p w h => (polygonRecord?_eq_ok.1 h).1
  | relation =>
    have hids : m.draft.ids .relation =
        (goodOf (m.lanelets.values.map m.laneletRecord?)).map (·.id) ++
          (goodOf (m.regulatoryElements.values.map m.elementRecord?)).map (·.id) := by
      rw [RecordSet.ids, RecordSet.relationIds, draft, List.map_append]
    rw [hids]
    refine nodup_ids_append RegulatoryElement.id keyed.lanelets
      keyed.regulatoryElements ?_ ?_ (keys_goodOf_sublist ?_)
    · exact fun e x h => (elementRecord?_eq_ok.1 h).2.2 ▸ rfl
    · exact fun e x h => (elementRecord?_eq_ok.1 h).1
    · exact fun l x h => (laneletRecord?_eq_ok.1 h).2 ▸ rfl

theorem distinct_saved (keyed : m.Keyed) : m.saved.Distinct := keyed.distinct_draft.pruneDangling

end Keyed

theorem saved_within : m.saved.Within m.draft := RecordSet.pruneDangling_within _

theorem saved_closed : m.saved.Closed := RecordSet.pruneDangling_closed _

/-! ## What is written -/

variable (m)

/-- Whether the record of the element that `ref` means is among the records `out`. -/
def Writes (out : RecordSet) (ref : Reference) : Prop :=
  match ref.kind with
  | .point => ∃ p, m.points.find? ref.id = some p ∧ nodeRecord p ∈ out.nodes
  | .lineString => ∃ l, m.lineStrings.find? ref.id = some l ∧ lineStringRecord l ∈ out.ways
  | .polygon => ∃ p, m.polygons.find? ref.id = some p ∧ polygonRecord p ∈ out.ways
  | .lanelet => ∃ l, m.lanelets.find? ref.id = some l ∧ laneletRecord l ∈ out.relations
  | .regulatoryElement =>
    ∃ e, m.regulatoryElements.find? ref.id = some e ∧ elementRecord e ∈ out.relations

/-- What the tags of elements must not say for the layers to be told apart in records: that a line
string `isArea`, or that a regulatory element `isLanelet`. -/
structure Unmistakable : Prop where
  lineStrings : ∀ id l, m.lineStrings.find? id = some l →
    Classes.isArea (lineStringRecord l) = false
  regulatoryElements : ∀ id e, m.regulatoryElements.find? id = some e →
    Classes.isLanelet (elementRecord e) = false

variable {m}

theorem isArea_polygonRecord (p : Polygon) : Classes.isArea (polygonRecord p) = true := by
  simp only [Classes.isArea, polygonRecord, SortedMap.find?_insert, if_true]
  decide

theorem isLanelet_laneletRecord (l : Lanelet) : Classes.isLanelet (laneletRecord l) = true := by
  simp [Classes.isLanelet, RelationRecord.type?, laneletRecord]

/-- A `Shadowed` element is not written. -/
theorem not_writes_of_shadowed (tags : m.Unmistakable) (keyed : m.Keyed) {out : RecordSet}
    (within : out.Within m.draft) {ref : Reference} (h : m.Shadowed ref) : ¬m.Writes out ref := by
  -- The record is not of the layer in front, by its tags, and not of its own, which is refused the
  -- identifier.
  obtain ⟨kind, id⟩ := ref
  rcases h with ⟨rfl, htaken⟩ | ⟨rfl, htaken⟩
  · rintro ⟨p, hp, hmem⟩
    obtain rfl : p.id = id := keyed.polygons id p hp
    rcases (mem_draft_ways keyed).1 (within.ways hmem) with ⟨i, l, hl, heq⟩ | ⟨i, q, -, hfree, heq⟩
    · have harea := isArea_polygonRecord p
      rw [heq, tags.lineStrings i l hl] at harea
      cases harea
    · have hid : p.id = q.id := congrArg WayRecord.id heq
      rw [← hid, htaken] at hfree
      cases hfree
  · rintro ⟨e, he, hmem⟩
    obtain rfl : e.id = id := keyed.regulatoryElements id e he
    rcases mem_draft_relations.1 (within.relations hmem) with
      ⟨i, l, -, -, heq⟩ | ⟨i, e', -, hfree, -, heq⟩
    · have hlanelet := isLanelet_laneletRecord l
      rw [← heq, tags.regulatoryElements _ e he] at hlanelet
      cases hlanelet
    · have hid : e.id = e'.id := congrArg RelationRecord.id heq
      rw [← hid, htaken] at hfree
      cases hfree

/-- A record under the identifier of an element that is not `Shadowed` is the record of that
element. -/
theorem writes_of_mem_ids (keyed : m.Keyed) {out : RecordSet} (within : out.Within m.draft)
    {ref : Reference} (hid : ref.id ∈ out.ids ref.kind.recordKind)
    (hcontains : m.contains ref = true) (hfree : ¬m.Shadowed ref) : m.Writes out ref := by
  obtain ⟨kind, id⟩ := ref
  cases kind with
  | point =>
    obtain ⟨n, hn, rfl⟩ := List.mem_map.1 hid
    obtain ⟨i, p, hp, rfl⟩ := mem_draft_nodes.1 (within.nodes hn)
    obtain rfl : p.id = i := keyed.points i p hp
    exact ⟨p, hp, hn⟩
  | lineString =>
    obtain ⟨w, hw, rfl⟩ := List.mem_map.1 hid
    rcases (mem_draft_ways keyed).1 (within.ways hw) with ⟨i, l, hl, rfl⟩ | ⟨i, p, -, hnone, rfl⟩
    · obtain rfl : l.id = i := keyed.lineStrings i l hl
      exact ⟨l, hl, hw⟩
    · exact absurd hcontains (Bool.eq_false_iff.1 hnone)
  | polygon =>
    obtain ⟨w, hw, rfl⟩ := List.mem_map.1 hid
    rcases (mem_draft_ways keyed).1 (within.ways hw) with ⟨i, l, hl, rfl⟩ | ⟨i, p, hp, -, rfl⟩
    · obtain rfl : l.id = i := keyed.lineStrings i l hl
      exact absurd (.inl ⟨rfl, SortedMap.contains_iff.2 ⟨l, hl⟩⟩) hfree
    · obtain rfl : p.id = i := keyed.polygons i p hp
      exact ⟨p, hp, hw⟩
  | lanelet =>
    obtain ⟨x, hx, rfl⟩ := List.mem_map.1 hid
    rcases mem_draft_relations.1 (within.relations hx) with
      ⟨i, l, hl, -, rfl⟩ | ⟨i, e, -, hnone, -, rfl⟩
    · obtain rfl : l.id = i := keyed.lanelets i l hl
      exact ⟨l, hl, hx⟩
    · exact absurd hcontains (Bool.eq_false_iff.1 hnone)
  | regulatoryElement =>
    obtain ⟨x, hx, rfl⟩ := List.mem_map.1 hid
    rcases mem_draft_relations.1 (within.relations hx) with
      ⟨i, l, hl, -, rfl⟩ | ⟨i, e, he, -, -, rfl⟩
    · obtain rfl : l.id = i := keyed.lanelets i l hl
      exact absurd (.inr ⟨rfl, SortedMap.contains_iff.2 ⟨l, hl⟩⟩) hfree
    · obtain rfl : e.id = i := keyed.regulatoryElements i e he
      exact ⟨e, he, hx⟩

/-- The `laneletRecord` of a lanelet is drafted only if the map contains all of its
`laneletReferences`. -/
theorem contains_of_laneletRecord (keyed : m.Keyed) {id : Id} {l : Lanelet}
    (hl : m.lanelets.find? id = some l) (h : laneletRecord l ∈ m.draft.relations) :
    ∀ p ∈ laneletReferences l, m.contains p.2 = true := by
  rcases mem_draft_relations.1 h with ⟨i, l', hl', hrefs, heq⟩ | ⟨i, e, -, hfree, -, heq⟩
  · have hid : l.id = l'.id := congrArg RelationRecord.id heq
    rw [keyed.lanelets id l hl, keyed.lanelets i l' hl'] at hid
    rw [← hid, hl] at hl'
    exact Option.some.inj hl' ▸ hrefs
  · have hid : l.id = e.id := congrArg RelationRecord.id heq
    rw [keyed.lanelets id l hl] at hid
    rw [← hid, SortedMap.contains, hl] at hfree
    cases hfree

/-- The `elementRecord` of a regulatory element is drafted only if the map contains all `parameters`
of its store. -/
theorem contains_of_elementRecord (tags : m.Unmistakable) (keyed : m.Keyed) {id : Id}
    {e : RegulatoryElement} (he : m.regulatoryElements.find? id = some e)
    (h : elementRecord e ∈ m.draft.relations) :
    ∀ p ∈ e.store.parameters, m.contains p.2 = true := by
  rcases mem_draft_relations.1 h with ⟨i, l, -, -, heq⟩ | ⟨i, e', he', -, hrefs, heq⟩
  · have hlanelet := tags.regulatoryElements id e he
    rw [heq, isLanelet_laneletRecord] at hlanelet
    cases hlanelet
  · have hid : e.id = e'.id := congrArg RelationRecord.id heq
    rw [keyed.regulatoryElements id e he, keyed.regulatoryElements i e' he'] at hid
    rw [← hid, he] at he'
    exact Option.some.inj he' ▸ hrefs

/-- Whatever an element that is written refers to (`referencesOf`) is in the map, and `out` has a
record under its identifier. -/
theorem resolves_of_writes (tags : m.Unmistakable) (keyed : m.Keyed) {out : RecordSet}
    (within : out.Within m.draft) (closed : out.Closed) {ref target : Reference}
    (h : m.Writes out ref) (htarget : target ∈ m.referencesOf ref) :
    m.contains target = true ∧ target.id ∈ out.ids target.kind.recordKind := by
  -- A node that is named is there, and so is its point.
  have hpoint : ∀ id, id ∈ out.nodeIds → m.contains ⟨.point, id⟩ = true := by
    intro id hid
    obtain ⟨n, hn, rfl⟩ := List.mem_map.1 hid
    obtain ⟨i, p, hp, rfl⟩ := mem_draft_nodes.1 (within.nodes hn)
    obtain rfl : p.id = i := keyed.points i p hp
    exact SortedMap.contains_iff.2 ⟨p, hp⟩
  obtain ⟨kind, id⟩ := ref
  cases kind with
  | point => exact absurd htarget List.not_mem_nil
  | lineString =>
    obtain ⟨l, hl, hmem⟩ := h
    rw [referencesOf_lineString hl, List.mem_map] at htarget
    obtain ⟨p, hp, rfl⟩ := htarget
    have hnode := closed.ways _ hmem p hp
    exact ⟨hpoint p hnode, hnode⟩
  | polygon =>
    obtain ⟨q, hq, hmem⟩ := h
    rw [referencesOf_polygon hq, List.mem_map] at htarget
    obtain ⟨p, hp, rfl⟩ := htarget
    have hnode := closed.ways _ hmem p hp
    exact ⟨hpoint p hnode, hnode⟩
  | lanelet =>
    obtain ⟨l, hl, hmem⟩ := h
    rw [referencesOf_lanelet hl, List.mem_map] at htarget
    obtain ⟨p, hp, rfl⟩ := htarget
    exact ⟨contains_of_laneletRecord keyed hl (within.relations hmem) p hp,
      closed.relations _ hmem (memberOf p) (List.mem_map_of_mem hp)⟩
  | regulatoryElement =>
    obtain ⟨e, he, hmem⟩ := h
    rw [referencesOf_regulatoryElement he, List.mem_map] at htarget
    obtain ⟨p, hp, rfl⟩ := htarget
    exact ⟨contains_of_elementRecord tags keyed he (within.relations hmem) p hp,
      closed.relations _ hmem (memberOf p) (List.mem_map_of_mem hp)⟩

/-- A reference of an element that is written names the record of the very element it means, unless
that element is `Shadowed`. -/
theorem writes_reference_iff (tags : m.Unmistakable) (keyed : m.Keyed) {ref target : Reference}
    (h : m.Writes m.saved ref) (htarget : target ∈ m.referencesOf ref) :
    m.Writes m.saved target ↔ ¬m.Shadowed target := by
  refine ⟨fun hw hs => not_writes_of_shadowed tags keyed saved_within hs hw, fun hfree => ?_⟩
  obtain ⟨hcontains, hid⟩ := resolves_of_writes tags keyed saved_within saved_closed h htarget
  exact writes_of_mem_ids keyed saved_within hid hcontains hfree

/-- A record of the `draft` is `saved`, or one of the `saveFailures` is about it. -/
theorem left_or_reported (keyed : m.Keyed) {kind : RecordKind} {id : Id}
    (h : id ∈ m.draft.ids kind) :
    id ∈ m.saved.ids kind ∨ ∃ f ∈ m.saveFailures, f.record? = some (kind, id) := by
  refine or_iff_not_imp_left.2 fun hgone => ?_
  obtain ⟨f, hf, hrecord⟩ :=
    (RecordSet.drops_pruneDangling (fun _ => False) keyed.distinct_draft).exists_failure h hgone
  exact ⟨f, List.mem_append_right _ (List.mem_append_right _ (List.mem_append_right _ hf)),
    hrecord⟩

/-- An element of a `Keyed` map is written, or one of the `saveFailures` is about it. -/
theorem writes_or_reported (keyed : m.Keyed) {ref : Reference} (h : m.contains ref = true) :
    m.Writes m.saved ref ∨
      ∃ f ∈ m.saveFailures, f.record? = some (ref.kind.recordKind, ref.id) := by
  -- What is drafted for the element itself is left under its identifier or reported.
  have drafted : ref.id ∈ m.draft.ids ref.kind.recordKind → ¬m.Shadowed ref →
      m.Writes m.saved ref ∨
        ∃ f ∈ m.saveFailures, f.record? = some (ref.kind.recordKind, ref.id) := fun hid hfree =>
    (left_or_reported keyed hid).imp_left fun hsaved =>
      writes_of_mem_ids keyed saved_within hsaved h hfree
  obtain ⟨kind, id⟩ := ref
  cases kind with
  | point =>
    obtain ⟨p, hp⟩ := SortedMap.contains_iff.1 h
    obtain rfl : p.id = id := keyed.points id p hp
    exact .inl ⟨p, hp, mem_draft_nodes.2 ⟨_, p, hp, rfl⟩⟩
  | lineString =>
    obtain ⟨l, hl⟩ := SortedMap.contains_iff.1 h
    obtain rfl : l.id = id := keyed.lineStrings id l hl
    exact drafted
      (List.mem_map_of_mem (f := WayRecord.id) ((mem_draft_ways keyed).2 (.inl ⟨_, l, hl, rfl⟩)))
      (by simp [Shadowed])
  | polygon =>
    obtain ⟨p, hp⟩ := SortedMap.contains_iff.1 h
    obtain rfl : p.id = id := keyed.polygons id p hp
    have hmem : p ∈ m.polygons.values := SortedMap.mem_values.2 ⟨_, hp⟩
    cases hattempt : m.polygonRecord? p with
    | ok w =>
      obtain ⟨hfree, rfl⟩ := polygonRecord?_eq_ok.1 hattempt
      exact drafted
        (List.mem_map_of_mem (f := WayRecord.id)
          ((mem_draft_ways keyed).2 (.inr ⟨_, p, hp, hfree, rfl⟩)))
        (by simp [Shadowed, hfree])
    | error f =>
      exact .inr ⟨f, List.mem_append_left _
        (keyed.failuresOf_wayRecords ▸ mem_failuresOf_map hmem hattempt),
        polygonRecord?_eq_error hattempt⟩
  | lanelet =>
    obtain ⟨l, hl⟩ := SortedMap.contains_iff.1 h
    obtain rfl : l.id = id := keyed.lanelets id l hl
    have hmem : l ∈ m.lanelets.values := SortedMap.mem_values.2 ⟨_, hl⟩
    cases hattempt : m.laneletRecord? l with
    | ok x =>
      obtain ⟨hrefs, rfl⟩ := laneletRecord?_eq_ok.1 hattempt
      exact drafted (List.mem_map_of_mem (f := RelationRecord.id)
        (mem_draft_relations.2 (.inl ⟨_, l, hl, hrefs, rfl⟩))) (by simp [Shadowed])
    | error f =>
      exact .inr ⟨f, List.mem_append_right _ (List.mem_append_left _
        (mem_failuresOf_map hmem hattempt)), laneletRecord?_eq_error hattempt⟩
  | regulatoryElement =>
    obtain ⟨e, he⟩ := SortedMap.contains_iff.1 h
    obtain rfl : e.id = id := keyed.regulatoryElements id e he
    have hmem : e ∈ m.regulatoryElements.values := SortedMap.mem_values.2 ⟨_, he⟩
    cases hattempt : m.elementRecord? e with
    | ok x =>
      obtain ⟨hfree, hrefs, rfl⟩ := elementRecord?_eq_ok.1 hattempt
      exact drafted (List.mem_map_of_mem (f := RelationRecord.id)
        (mem_draft_relations.2 (.inr ⟨_, e, he, hfree, hrefs, rfl⟩))) (by simp [Shadowed, hfree])
    | error f =>
      exact .inr ⟨f, List.mem_append_right _ (List.mem_append_right _ (List.mem_append_left _
        (mem_failuresOf_map hmem hattempt))), elementRecord?_eq_error hattempt⟩

end RoadMap

end RoadNet
