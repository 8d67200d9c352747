import RoadNet.Proofs.KeyOrder
import RoadNet.Proofs.Relations
import RoadNet.Proofs.Stages

/-!
# RoadNet.Proofs.Assembled

What the assembled map holds.

* `points_iff`, `lineStrings_iff`, `polygons_iff`, `lanelets_iff`, `regulatoryElements_iff` —
  the layers hold exactly what the kept records become;
* `contains_iff`, `holds_iff` — a reference resolves exactly if its record is kept and of the
  class that it names.
-/

namespace RoadNet

/-! ## Records and the elements in their place -/

/-- Whether a map holds an element in the place of a record. -/
def RoadMap.Holds (m : RoadMap) (kind : RecordKind) (id : Id) : Prop :=
  match kind with
  | .node => m.points.contains id = true
  | .way => m.lineStrings.contains id = true ∨ m.polygons.contains id = true
  | .relation => m.lanelets.contains id = true ∨ m.regulatoryElements.contains id = true

/-- A map `Holds` an element in the place of a record exactly if it contains one of a `Kind` that
the record kind stands for. -/
theorem RoadMap.holds_iff_exists (m : RoadMap) {kind : RecordKind} {id : Id} :
    m.Holds kind id ↔ ∃ k : Kind, k.recordKind = kind ∧ m.contains ⟨k, id⟩ = true := by
  constructor
  · intro h
    cases kind with
    | node => exact ⟨.point, rfl, h⟩
    | way =>
      rcases h with h | h
      · exact ⟨.lineString, rfl, h⟩
      · exact ⟨.polygon, rfl, h⟩
    | relation =>
      rcases h with h | h
      · exact ⟨.lanelet, rfl, h⟩
      · exact ⟨.regulatoryElement, rfl, h⟩
  · rintro ⟨k, rfl, h⟩
    cases k with
    | point => exact h
    | lineString => exact .inl h
    | polygon => exact .inr h
    | lanelet => exact .inl h
    | regulatoryElement => exact .inr h

/-! ## Classes -/

namespace Classes

variable {c s : RecordSet}

/-- In a part of a set without repeated identifiers (`Distinct`), a way is among the `polygons`
exactly if its own tags say so (`isArea`). -/
theorem mem_polygons (h : s.Distinct) (hc : c.Within s) {w : WayRecord} (hw : w ∈ c.ways) :
    w.id ∈ (ofRecords c).polygons ↔ isArea w = true :=
  mem_keys_filter (h .way) hc.ways hw

/-- In a part of a set without repeated identifiers (`Distinct`), a relation is among the `lanelets`
exactly if its own tags say so (`isLanelet`). -/
theorem mem_lanelets (h : s.Distinct) (hc : c.Within s) {x : RelationRecord}
    (hx : x ∈ c.relations) : x.id ∈ (ofRecords c).lanelets ↔ isLanelet x = true :=
  mem_keys_filter (h .relation) hc.relations hx

/-- A part of a set without repeated identifiers types its records as the whole set does
(`Classes.typed`). -/
theorem typed_of_within (h : s.Distinct) (hc : c.Within s) {kind : RecordKind} {id : Id}
    (hid : id ∈ c.ids kind) : (ofRecords c).typed kind id = (ofRecords s).typed kind id := by
  cases kind with
  | node => rfl
  | way =>
    obtain ⟨w, hw, rfl⟩ := List.mem_map.1 hid
    simp only [typed, reference, mem_polygons h hc hw, mem_polygons h (.refl s) (hc.ways hw)]
  | relation =>
    obtain ⟨x, hx, rfl⟩ := List.mem_map.1 hid
    simp only [typed, reference, mem_lanelets h hc hx, mem_lanelets h (.refl s) (hc.relations hx)]

end Classes

namespace BuiltRelation

/-- The identifier of what a relation becomes. -/
def id : BuiltRelation → Id
  | lanelet l => l.id
  | element e => e.id

/-- A built relation keeps its identifier, provided that the factories keep the stores they are
given (`KeepsStores`). -/
theorem id_of_ofRecord {g : RuleRegistry} (keeps : g.KeepsStores) {c : Classes}
    {x : RelationRecord} {b : BuiltRelation} (h : ofRecord g c x = .ok b) : b.id = x.id := by
  cases b with
  | lanelet l => exact (ofRecord_eq_lanelet.1 h).2.id
  | element e =>
    obtain ⟨-, s, hs, he⟩ := ofRecord_eq_element.1 h
    rw [BuiltRelation.id, RegulatoryElement.id, keeps.upgrade he]
    exact (Classes.fills_of_roleStore hs).id

end BuiltRelation

/-! ## Layers -/

/-- Entries that are made under the keys of distinct elements have distinct keys. -/
theorem keys_filterMap_sublist {key : α → Id} {f : α → Option (Id × β)} {l : List α}
    (h : ∀ x ∈ l, ∀ p, f x = some p → p.1 = key x) :
    ((l.filterMap f).map Prod.fst).Sublist (l.map key) := by
  induction l with
  | nil => exact List.Sublist.refl _
  | cons x rest ih =>
    have hrest := ih fun x' hx' => h x' (List.mem_cons_of_mem x hx')
    cases hx : f x with
    | none =>
      rw [List.filterMap_cons_none hx, List.map_cons]
      exact hrest.cons _
    | some p =>
      rw [List.filterMap_cons_some hx, List.map_cons, List.map_cons,
        h x List.mem_cons_self p hx]
      exact hrest.cons_cons _

namespace Assembly

open BuiltRelation RoadMap SortedMap

variable (g : RuleRegistry) (r : RecordSet)

theorem isArea_iff {w : WayRecord} (hw : w ∈ (kept g r).ways) :
    w.id ∈ (classes r).polygons ↔ Classes.isArea w = true :=
  Classes.mem_polygons (distinct_closed r) (.refl _) ((kept_within_closed g r).ways hw)

theorem not_isArea_iff {w : WayRecord} (hw : w ∈ (kept g r).ways) :
    w.id ∉ (classes r).polygons ↔ Classes.isArea w = false := by
  rw [isArea_iff g r hw, Bool.not_eq_true]

/-- The layer of points holds exactly the `pointEntry` of every kept node. -/
theorem points_iff {id : Id} {p : Point} :
    (map g r).points.find? id = some p ↔ ∃ n ∈ (kept g r).nodes, pointEntry n = (id, p) := by
  have hnodup : (((kept g r).nodes.map pointEntry).map Prod.fst).Nodup := by
    rw [List.map_map]
    exact distinct_kept g r .node
  rw [map, ofParts_eq, find?_ofList hnodup, List.mem_map]

/-- The layer of line strings holds exactly the kept ways that are not `isArea`. -/
theorem lineStrings_iff {id : Id} {l : LineString} :
    (map g r).lineStrings.find? id = some l ↔
      ∃ w ∈ (kept g r).ways, Classes.isArea w = false ∧ lineStringEntry w = (id, l) := by
  have hnodup : ((((kept g r).ways.filter fun w => w.id ∉ (classes r).polygons).map
      lineStringEntry).map Prod.fst).Nodup := by
    rw [List.map_map]
    exact (distinct_kept g r .way).sublist (List.filter_sublist.map _)
  rw [map, ofParts_eq, find?_ofList hnodup, List.mem_map]
  constructor
  · rintro ⟨w, hw, heq⟩
    obtain ⟨hmem, hclass⟩ := List.mem_filter.1 hw
    exact ⟨w, hmem, (not_isArea_iff g r hmem).1 (of_decide_eq_true hclass), heq⟩
  · rintro ⟨w, hmem, hclass, heq⟩
    exact ⟨w, List.mem_filter.2 ⟨hmem, decide_eq_true ((not_isArea_iff g r hmem).2 hclass)⟩, heq⟩

/-- The layer of polygons holds exactly the kept ways that are `isArea`. -/
theorem polygons_iff {id : Id} {p : Polygon} :
    (map g r).polygons.find? id = some p ↔
      ∃ w ∈ (kept g r).ways, Classes.isArea w = true ∧ polygonEntry w = (id, p) := by
  have hnodup : ((((kept g r).ways.filter fun w => w.id ∈ (classes r).polygons).map
      polygonEntry).map Prod.fst).Nodup := by
    rw [List.map_map]
    exact (distinct_kept g r .way).sublist (List.filter_sublist.map _)
  rw [map, ofParts_eq, find?_ofList hnodup, List.mem_map]
  constructor
  · rintro ⟨w, hw, heq⟩
    obtain ⟨hmem, hclass⟩ := List.mem_filter.1 hw
    exact ⟨w, hmem, (isArea_iff g r hmem).1 (of_decide_eq_true hclass), heq⟩
  · rintro ⟨w, hmem, hclass, heq⟩
    exact ⟨w, List.mem_filter.2 ⟨hmem, decide_eq_true ((isArea_iff g r hmem).2 hclass)⟩, heq⟩

/-- A layer of relations holds what `pick?` takes from the kept relations, provided that each of
them is picked under its own identifier. -/
theorem find?_picked {pick? : BuiltRelation → Option (Id × β)}
    (h : ∀ x ∈ (kept g r).relations, ∀ b p, outcome g r x = .ok b → pick? b = some p →
      p.1 = x.id)
    {id : Id} {v : β} :
    (ofList ((ofList ((kept g r).relations.filterMap
        (product? g (classes r)))).values.filterMap pick?)).find? id = some v ↔
      ∃ x ∈ (kept g r).relations, ∃ b, outcome g r x = .ok b ∧ pick? b = some (id, v) := by
  have hentry : ∀ p, p ∈ (ofList ((kept g r).relations.filterMap
      (product? g (classes r)))).entries ↔
        ∃ x ∈ (kept g r).relations, outcome g r x = .ok p.2 ∧ p.1 = x.id := by
    intro p
    have hkeys : (((kept g r).relations.filterMap (product? g (classes r))).map Prod.fst).Nodup :=
      (distinct_kept g r .relation).sublist
        (keys_filterMap_sublist fun x _ p hp => ((product?_eq_some g _).1 hp).2)
    rw [← SortedMap.find?_eq_some, find?_ofList hkeys, List.mem_filterMap]
    simp only [product?_eq_some]
    rfl
  rw [SortedMap.values, List.filterMap_map]
  have hnodup : (((ofList ((kept g r).relations.filterMap
      (product? g (classes r)))).entries.filterMap (pick? ∘ Prod.snd)).map Prod.fst).Nodup := by
    refine (SortedMap.nodup_keys _).sublist (keys_filterMap_sublist fun e he p hp => ?_)
    obtain ⟨x, hx, hb, hid⟩ := (hentry e).1 he
    rw [hid]
    exact h x hx e.2 p hb hp
  rw [find?_ofList hnodup, List.mem_filterMap]
  constructor
  · rintro ⟨e, he, hpick⟩
    obtain ⟨x, hx, hb, -⟩ := (hentry e).1 he
    exact ⟨x, hx, e.2, hb, hpick⟩
  · rintro ⟨x, hx, b, hb, hpick⟩
    exact ⟨(x.id, b), (hentry _).2 ⟨x, hx, hb, rfl⟩, hpick⟩

/-- The layer of lanelets holds exactly what the kept relations become, where the `outcome` is a
lanelet. -/
theorem lanelets_iff {id : Id} {l : Lanelet} :
    (map g r).lanelets.find? id = some l ↔
      ∃ x ∈ (kept g r).relations, outcome g r x = .ok (.lanelet l) ∧ l.id = id := by
  rw [map, ofParts_eq, find?_picked g r fun x _ b p hb hp => ?_]
  · constructor
    · rintro ⟨x, hx, b, hb, hp⟩
      cases b with
      | lanelet l' =>
        obtain ⟨rfl, rfl⟩ := Prod.mk.inj (Option.some.inj hp)
        exact ⟨x, hx, hb, rfl⟩
      | element e => cases hp
    · rintro ⟨x, hx, hb, rfl⟩
      exact ⟨x, hx, .lanelet l, hb, rfl⟩
  · cases b with
    | lanelet l' => exact Option.some.inj hp ▸ (ofRecord_eq_lanelet.1 hb).2.id
    | element e => cases hp

/-- The layer of regulatory elements holds what the kept relations become, provided that each
`outcome` keeps its identifier. -/
theorem regulatoryElements_iff_of_id
    (h : ∀ x ∈ (kept g r).relations, ∀ e, outcome g r x = .ok (.element e) → e.id = x.id)
    {id : Id} {e : RegulatoryElement} :
    (map g r).regulatoryElements.find? id = some e ↔
      ∃ x ∈ (kept g r).relations, outcome g r x = .ok (.element e) ∧ e.id = id := by
  rw [map, ofParts_eq, find?_picked g r fun x hx b p hb hp => ?_]
  · constructor
    · rintro ⟨x, hx, b, hb, hp⟩
      cases b with
      | lanelet l => cases hp
      | element e' =>
        obtain ⟨rfl, rfl⟩ := Prod.mk.inj (Option.some.inj hp)
        exact ⟨x, hx, hb, rfl⟩
    · rintro ⟨x, hx, hb, rfl⟩
      exact ⟨x, hx, .element e, hb, rfl⟩
  · cases b with
    | lanelet l => cases hp
    | element e' => exact Option.some.inj hp ▸ h x hx e' hb

/-- The same under factories that keep the stores they are given (`KeepsStores`). -/
theorem regulatoryElements_iff (keeps : g.KeepsStores) {id : Id} {e : RegulatoryElement} :
    (map g r).regulatoryElements.find? id = some e ↔
      ∃ x ∈ (kept g r).relations, outcome g r x = .ok (.element e) ∧ e.id = id :=
  regulatoryElements_iff_of_id g r fun _ _ _ hb => id_of_ofRecord keeps hb

/-! ## Presence -/

/-- A reference resolves in `map g r` exactly if its record is `kept` and of the class that it
names. -/
theorem contains_iff (keeps : g.KeepsStores) (ref : Reference) :
    (map g r).contains ref = true ↔
      ref.id ∈ (kept g r).ids ref.kind.recordKind ∧
        (classes r).typed ref.kind.recordKind ref.id = ref := by
  obtain ⟨kind, id⟩ := ref
  cases kind with
  | point =>
    simp only [RoadMap.contains, SortedMap.contains_iff, points_iff]
    constructor
    · rintro ⟨p, n, hn, heq⟩
      exact ⟨List.mem_map.2 ⟨n, hn, congrArg Prod.fst heq⟩, rfl⟩
    · rintro ⟨hmem, -⟩
      obtain ⟨n, hn, rfl⟩ := List.mem_map.1 hmem
      exact ⟨_, n, hn, rfl⟩
  | lineString =>
    simp only [RoadMap.contains, SortedMap.contains_iff, lineStrings_iff, Kind.recordKind,
      Classes.typed_eq_lineString]
    constructor
    · rintro ⟨l, w, hw, harea, heq⟩
      obtain rfl : w.id = id := congrArg Prod.fst heq
      exact ⟨List.mem_map_of_mem hw, (not_isArea_iff g r hw).2 harea⟩
    · rintro ⟨hmem, hclass⟩
      obtain ⟨w, hw, rfl⟩ := List.mem_map.1 hmem
      exact ⟨_, w, hw, (not_isArea_iff g r hw).1 hclass, rfl⟩
  | polygon =>
    simp only [RoadMap.contains, SortedMap.contains_iff, polygons_iff, Kind.recordKind,
      Classes.typed_eq_polygon]
    constructor
    · rintro ⟨l, w, hw, harea, heq⟩
      obtain rfl : w.id = id := congrArg Prod.fst heq
      exact ⟨List.mem_map_of_mem hw, (isArea_iff g r hw).2 harea⟩
    · rintro ⟨hmem, hclass⟩
      obtain ⟨w, hw, rfl⟩ := List.mem_map.1 hmem
      exact ⟨_, w, hw, (isArea_iff g r hw).1 hclass, rfl⟩
  | lanelet =>
    simp only [RoadMap.contains, SortedMap.contains_iff, lanelets_iff, Kind.recordKind,
      Classes.typed_eq_lanelet]
    constructor
    · rintro ⟨l, x, hx, hbuilt, rfl⟩
      have hid : l.id = x.id := id_of_ofRecord keeps hbuilt
      rw [hid]
      exact ⟨List.mem_map_of_mem hx, (ofRecord_eq_lanelet.1 hbuilt).1⟩
    · rintro ⟨hmem, hclass⟩
      obtain ⟨x, hx, rfl⟩ := List.mem_map.1 hmem
      obtain ⟨b, hbuilt⟩ := outcome_of_mem_kept g r hx
      cases b with
      | lanelet l => exact ⟨l, x, hx, hbuilt, id_of_ofRecord keeps hbuilt⟩
      | element e => exact absurd hclass (ofRecord_eq_element.1 hbuilt).1
  | regulatoryElement =>
    simp only [RoadMap.contains, SortedMap.contains_iff, regulatoryElements_iff g r keeps,
      Kind.recordKind, Classes.typed_eq_regulatoryElement]
    constructor
    · rintro ⟨e, x, hx, hbuilt, rfl⟩
      have hid : e.id = x.id := id_of_ofRecord keeps hbuilt
      rw [hid]
      exact ⟨List.mem_map_of_mem hx, (ofRecord_eq_element.1 hbuilt).1⟩
    · rintro ⟨hmem, hclass⟩
      obtain ⟨x, hx, rfl⟩ := List.mem_map.1 hmem
      obtain ⟨b, hbuilt⟩ := outcome_of_mem_kept g r hx
      cases b with
      | lanelet l => exact absurd (ofRecord_eq_lanelet.1 hbuilt).1 hclass
      | element e => exact ⟨e, x, hx, hbuilt, id_of_ofRecord keeps hbuilt⟩

/-- What the tags make of a `kept` record (`Classes.typed`) is in the map. -/
theorem contains_typed (keeps : g.KeepsStores) {kind : RecordKind} {id : Id}
    (h : id ∈ (kept g r).ids kind) : (map g r).contains ((classes r).typed kind id) = true := by
  rw [contains_iff g r keeps, Classes.id_typed, Classes.recordKind_typed]
  exact ⟨h, rfl⟩

/-- A record is `kept` exactly if the map `Holds` an element in its place. -/
theorem holds_iff (keeps : g.KeepsStores) {kind : RecordKind} {id : Id} :
    (map g r).Holds kind id ↔ id ∈ (kept g r).ids kind := by
  rw [RoadMap.holds_iff_exists]
  constructor
  · rintro ⟨k, rfl, h⟩
    exact ((contains_iff g r keeps ⟨k, id⟩).1 h).1
  · intro h
    have hcontains := contains_typed g r keeps h
    rw [← (classes r).id_typed kind id]
    exact ⟨_, (classes r).recordKind_typed kind id, hcontains⟩

/-! ## An input to look at -/

/-- A lanelet under a right of way rule. -/
def crossingLanelet : RelationRecord where
  id := 20
  attributes := .ofList [(Key.type, TypeTag.lanelet)]
  members :=
    [⟨RoleName.left, .way, 10⟩, ⟨RoleName.right, .way, 11⟩,
      ⟨RoleName.regulatoryElement, .relation, 21⟩]

/-- A lanelet and a rule that name each other, and a way that misses a node. -/
def crossing : RecordSet where
  nodes := [⟨1, ⟨0, 0, 0⟩, .empty⟩, ⟨2, ⟨1, 0, 0⟩, .empty⟩]
  ways := [⟨10, [1, 2], .empty⟩, ⟨11, [2, 1], .empty⟩, ⟨12, [1, 3], .empty⟩]
  relations :=
    [crossingLanelet,
      ⟨21, .ofList [(Key.subtype, RightOfWay.ruleName)], [⟨RoleName.yielding, .relation, 20⟩]⟩]

end Assembly

end RoadNet
