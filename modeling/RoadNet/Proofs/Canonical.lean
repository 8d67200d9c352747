import RoadNet.Proofs.CanonicalForm
import RoadNet.Proofs.Reassembled
import RoadNet.Proofs.Soundness

/-!
# RoadNet.Proofs.Canonical

Assembling records and taking the map apart again gives their canonical form.

* `Assembly.draft_map` — the drafts for an assembled map are the canonical form of its records;
* `RoadMap.canon_of_ofRecords` — strictly, nothing is left out, and the canonical form assembles
  to the same map again.

A map knows nothing of the order of records, and of the order of members only what each role
holds. `SortedMap.map_values_eq_sortBy` and `eq_of_filter_key` turn both into statements about
which records and which members there are.
-/

namespace RoadNet

/-! ## Layers as lists -/

/-- The records of a layer are the list `l` of them in key order, provided that each has the key
under which its element is held (`hkey`). -/
theorem SortedMap.map_values_eq_sortBy {layer : Layer α} {record : α → β} {key : β → Id}
    {l : List β} (nodup : (l.map key).Nodup)
    (hkey : ∀ id a, layer.find? id = some a → key (record a) = id)
    (h : ∀ b, b ∈ l ↔ ∃ id a, layer.find? id = some a ∧ record a = b) :
    layer.values.map record = sortBy key l := by
  have hkeys : (layer.values.map record).map key = layer.keys := by
    rw [List.map_map]
    exact map_values hkey
  have horder : InKeyOrder key (layer.values.map record) := by
    rw [InKeyOrder, ← List.pairwise_map (f := key) (R := fun a b => (compare a b).isLE = true),
      hkeys, keys, List.pairwise_map]
    exact layer.inKeyOrder_entries
  have hmem : ∀ b, b ∈ layer.values.map record ↔ b ∈ sortBy key l := fun b => by
    rw [mem_sortBy, h, List.mem_map]
    constructor
    · rintro ⟨a, ha, rfl⟩
      obtain ⟨id, hid⟩ := mem_values.1 ha
      exact ⟨id, a, hid, rfl⟩
    · rintro ⟨id, a, hid, rfl⟩
      exact ⟨a, mem_values.2 ⟨id, hid⟩, rfl⟩
  have hsorted : (sortBy key l).Nodup := (sortBy_perm l).nodup_iff.2 (nodup.of_map key)
  have hvalues : (layer.values.map record).Nodup := .of_map key (hkeys ▸ layer.nodup_keys)
  -- Both lists are in key order and have the same elements, no two of them with one key.
  refine List.Perm.eq_of_pairwise (fun a b ha hb hab hba => ?_) horder (inKeyOrder_sortBy key l)
    ((List.perm_ext_iff_of_nodup hvalues hsorted).2 hmem)
  have heq : key a = key b := Std.LawfulEqCmp.eq_of_compare (Std.OrientedCmp.isLE_antisymm hab hba)
  exact List.inj_on_of_nodup_map nodup (mem_sortBy.1 ((hmem a).1 ha)) (mem_sortBy.1 hb) heq

/-! ## Records of what relations read as -/

namespace RoadMap

variable {c : Classes} {x : RelationRecord}

/-- `memberOf` undoes `Classes.reference`. -/
theorem memberOf_reference (c : Classes) (m : Member) : memberOf (m.role, c.reference m) = m := by
  rw [memberOf, c.recordKind_reference, c.id_reference]

/-- The members of a role are the `memberOf` of the references that they stand for. -/
theorem role_eq_map_memberOf {role : String} {refs : List Reference}
    (h : (x.role role).map c.reference = refs) :
    x.role role = refs.map fun ref => memberOf (role, ref) := by
  have hself : ∀ m ∈ x.role role, memberOf (role, c.reference m) = m := fun m hm => by
    rw [← of_decide_eq_true (List.mem_filter.1 hm).2, memberOf_reference]
  rw [← h, List.map_map]
  exact ((List.map_congr_left hself).trans (List.map_id _)).symm

/-- `laneletRecord` of a lanelet is the relation that describes it, in its `laneletForm`. -/
theorem laneletRecord_of_describes {l : Lanelet} (h : c.Describes x l)
    (htype : Classes.isLanelet x = true) : laneletRecord l = x.laneletForm := by
  have hattributes : l.attributes.insert Key.type TypeTag.lanelet = x.attributes := by
    rw [h.attributes]
    exact SortedMap.insert_of_find? (of_decide_eq_true htype)
  rw [laneletRecord, RelationRecord.laneletForm, role_eq_map_memberOf h.left,
    role_eq_map_memberOf h.right, role_eq_map_memberOf h.rules, hattributes, h.id, List.map_map]
  simp only [laneletReferences, List.map_cons, List.map_map, List.map_nil]
  rfl

/-- `elementRecord` of a regulatory element is the relation that fills its store, in its
`roleForm`. -/
theorem elementRecord_of_fills {e : RegulatoryElement} (h : c.Fills x e.store) :
    elementRecord e = x.roleForm := by
  have hmembers : e.store.parameters.map memberOf = sortBy Member.role x.members := by
    refine eq_of_filter_key ?_ (inKeyOrder_sortBy Member.role _) fun role => ?_
    · exact List.pairwise_map.2 e.store.inKeyOrder_parameters
    · rw [filter_sortBy, List.filter_map]
      have hfilter := e.store.filter_parameters role
      have hrole := role_eq_map_memberOf (h.roles role).symm
      calc _ = (e.store.parameters.filter fun p => p.1 = role).map memberOf := rfl
        _ = (e.store.get role).map fun ref => memberOf (role, ref) := by
          rw [hfilter, List.map_map]
          rfl
        _ = x.role role := hrole.symm
  rw [elementRecord, RelationRecord.roleForm, hmembers, RegulatoryElement.id, h.id,
    RegulatoryElement.attributes, h.attributes]

end RoadMap

/-! ## Assembled maps -/

namespace Assembly

open RoadMap

variable {g : RuleRegistry} {r : RecordSet}

/-- What is known of a relation that builds to a regulatory element: its members fill the store, the
store is `Tidy`, and `upgrade` makes the element of it. -/
theorem fills_of_outcome (keeps : g.KeepsStores) {x : RelationRecord} {e : RegulatoryElement}
    (h : outcome g r x = .ok (.element e)) :
    (classes r).Fills x e.store ∧ e.store.Tidy ∧ g.upgrade e.store = .ok e := by
  obtain ⟨-, s, hs, he⟩ := BuiltRelation.ofRecord_eq_element.1 h
  rw [keeps.upgrade he]
  obtain ⟨hfills, htidy⟩ := Classes.roleStore_eq_ok.1 hs
  exact ⟨hfills, htidy, he⟩

/-- The layers of `map g r` are keyed by the identifiers of their elements. -/
theorem keyed_map (keeps : g.KeepsStores) : (map g r).Keyed where
  points id p h := by
    obtain ⟨n, -, heq⟩ := (points_iff g r).1 h
    obtain ⟨rfl, rfl⟩ := Prod.mk.inj heq
    rfl
  lineStrings id l h := by
    obtain ⟨w, -, -, heq⟩ := (lineStrings_iff g r).1 h
    obtain ⟨rfl, rfl⟩ := Prod.mk.inj heq
    rfl
  polygons id p h := by
    obtain ⟨w, -, -, heq⟩ := (polygons_iff g r).1 h
    obtain ⟨rfl, rfl⟩ := Prod.mk.inj heq
    rfl
  lanelets id l h := by
    obtain ⟨x, -, -, hid⟩ := (lanelets_iff g r).1 h
    exact hid
  regulatoryElements id e h := by
    obtain ⟨x, -, -, hid⟩ := (regulatoryElements_iff g r keeps).1 h
    exact hid
  tidy id e h := by
    obtain ⟨x, -, hbuilt, -⟩ := (regulatoryElements_iff g r keeps).1 h
    exact (fills_of_outcome keeps hbuilt).2.1

/-- Every element of `map g r` is one that the registry `g` makes of its store. -/
theorem accepted_map (keeps : g.KeepsStores) : (map g r).Accepted g := by
  intro id e h
  obtain ⟨x, -, hbuilt, -⟩ := (regulatoryElements_iff g r keeps).1 h
  exact (fills_of_outcome keeps hbuilt).2.2

/-- A relation of which the `outcome` is a regulatory element is not tagged as a lanelet. -/
theorem isLanelet_eq_false {x : RelationRecord} {e : RegulatoryElement}
    (hx : x ∈ (kept g r).relations) (h : outcome g r x = .ok (.element e)) :
    Classes.isLanelet x = false := by
  rw [← Bool.not_eq_true]
  intro htype
  refine (BuiltRelation.ofRecord_eq_element.1 h).1 ?_
  exact (Classes.mem_lanelets (distinct_closed r) (.refl _)
    ((kept_within_closed g r).relations hx)).2 htype

/-- A relation of which the `outcome` is a lanelet is tagged as one. -/
theorem isLanelet_eq_true {x : RelationRecord} {l : Lanelet}
    (hx : x ∈ (kept g r).relations) (h : outcome g r x = .ok (.lanelet l)) :
    Classes.isLanelet x = true :=
  (Classes.mem_lanelets (distinct_closed r) (.refl _)
    ((kept_within_closed g r).relations hx)).1 (BuiltRelation.ofRecord_eq_lanelet.1 h).1

/-- A kept relation that `isLanelet` becomes a lanelet. -/
theorem exists_lanelet {x : RelationRecord} (hx : x ∈ (kept g r).relations)
    (htype : Classes.isLanelet x = true) : ∃ l, outcome g r x = .ok (.lanelet l) := by
  obtain ⟨b, hb⟩ := outcome_of_mem_kept g r hx
  cases b with
  | lanelet l => exact ⟨l, hb⟩
  | element e =>
    rw [isLanelet_eq_false hx hb] at htype
    cases htype

/-- Every other kept relation becomes a regulatory element. -/
theorem exists_element {x : RelationRecord} (hx : x ∈ (kept g r).relations)
    (htype : Classes.isLanelet x = false) : ∃ e, outcome g r x = .ok (.element e) := by
  obtain ⟨b, hb⟩ := outcome_of_mem_kept g r hx
  cases b with
  | element e => exact ⟨e, hb⟩
  | lanelet l =>
    rw [isLanelet_eq_true hx hb] at htype
    cases htype

/-- The tags of every element of `map g r` tell its kind. -/
theorem unmistakable_map (keeps : g.KeepsStores) : (map g r).Unmistakable where
  lineStrings id l h := by
    obtain ⟨w, -, harea, heq⟩ := (lineStrings_iff g r).1 h
    obtain ⟨rfl, rfl⟩ := Prod.mk.inj heq
    exact harea
  regulatoryElements id e h := by
    obtain ⟨x, hx, hbuilt, -⟩ := (regulatoryElements_iff g r keeps).1 h
    have htype : Classes.isLanelet x.roleForm = false := isLanelet_eq_false (x := x) hx hbuilt
    rwa [elementRecord_of_fills (fills_of_outcome keeps hbuilt).1]

/-! ### Records that are drafted -/

section Flawless

variable (keeps : g.KeepsStores) (flawless : Flawless g r)

include keeps flawless

/-- The points of `map g r`, as records, are the nodes in key order. -/
theorem values_points : (map g r).points.values.map nodeRecord = sortBy NodeRecord.id r.nodes := by
  refine SortedMap.map_values_eq_sortBy (flawless.distinct .node) (keyed_map keeps).points
    fun n => ?_
  simp only [points_iff, flawless.kept_eq]
  constructor
  · exact fun hn => ⟨n.id, _, ⟨n, hn, rfl⟩, rfl⟩
  · rintro ⟨id, p, ⟨n', hn', heq⟩, rfl⟩
    obtain ⟨rfl, rfl⟩ := Prod.mk.inj heq
    exact hn'

/-- The line strings, as records, are the ways that are not `isArea`, in key order. -/
theorem values_lineStrings : (map g r).lineStrings.values.map lineStringRecord =
    sortBy WayRecord.id (r.ways.filter fun w => !Classes.isArea w) := by
  refine SortedMap.map_values_eq_sortBy
    ((flawless.distinct .way).sublist (List.filter_sublist.map _)) (keyed_map keeps).lineStrings
    fun w => ?_
  simp only [lineStrings_iff, flawless.kept_eq, List.mem_filter, Bool.not_eq_true']
  constructor
  · exact fun hw => ⟨w.id, _, ⟨w, hw.1, hw.2, rfl⟩, rfl⟩
  · rintro ⟨id, l, ⟨w', hw', harea, heq⟩, rfl⟩
    obtain ⟨rfl, rfl⟩ := Prod.mk.inj heq
    exact ⟨hw', harea⟩

/-- The polygons, as records, are the ways that are `isArea`, `marked` and in key order. -/
theorem values_polygons : (map g r).polygons.values.map polygonRecord =
    sortBy WayRecord.id ((r.ways.filter Classes.isArea).map WayRecord.marked) := by
  have nodup : (((r.ways.filter Classes.isArea).map WayRecord.marked).map WayRecord.id).Nodup := by
    rw [List.map_map]
    exact (flawless.distinct .way).sublist (List.filter_sublist.map _)
  refine SortedMap.map_values_eq_sortBy nodup (keyed_map keeps).polygons fun w => ?_
  simp only [polygons_iff, flawless.kept_eq, List.mem_map, List.mem_filter]
  constructor
  · rintro ⟨w', ⟨hw', harea⟩, rfl⟩
    exact ⟨w'.id, _, ⟨w', hw', harea, rfl⟩, rfl⟩
  · rintro ⟨id, l, ⟨w', hw', harea, heq⟩, rfl⟩
    obtain ⟨rfl, rfl⟩ := Prod.mk.inj heq
    exact ⟨w', ⟨hw', harea⟩, rfl⟩

/-- The lanelets, as records, are the relations that are `isLanelet`, each in its `laneletForm` and
in key order. -/
theorem values_lanelets :
    (map g r).lanelets.values.map laneletRecord =
      sortBy RelationRecord.id ((r.relations.filter Classes.isLanelet).map .laneletForm) := by
  have nodup : (((r.relations.filter Classes.isLanelet).map RelationRecord.laneletForm).map
      RelationRecord.id).Nodup := by
    rw [List.map_map]
    exact (flawless.distinct .relation).sublist (List.filter_sublist.map _)
  have hform : ∀ x ∈ (kept g r).relations, ∀ l, outcome g r x = .ok (.lanelet l) →
      laneletRecord l = x.laneletForm := fun x hx l hbuilt =>
    laneletRecord_of_describes (BuiltRelation.ofRecord_eq_lanelet.1 hbuilt).2
      (isLanelet_eq_true hx hbuilt)
  refine SortedMap.map_values_eq_sortBy nodup (keyed_map keeps).lanelets fun x => ?_
  simp only [lanelets_iff, List.mem_map, List.mem_filter]
  constructor
  · rintro ⟨y, ⟨hy, htype⟩, rfl⟩
    have hkept : y ∈ (kept g r).relations := flawless.kept_eq.symm ▸ hy
    obtain ⟨l, hbuilt⟩ := exists_lanelet hkept htype
    exact ⟨l.id, l, ⟨y, hkept, hbuilt, rfl⟩, hform y hkept l hbuilt⟩
  · rintro ⟨id, l, ⟨y, hy, hbuilt, rfl⟩, rfl⟩
    exact ⟨y, ⟨flawless.kept_eq ▸ hy, isLanelet_eq_true hy hbuilt⟩, (hform y hy l hbuilt).symm⟩

/-- The regulatory elements, as records, are the other relations, each in its `roleForm` and in key
order. -/
theorem values_regulatoryElements :
    (map g r).regulatoryElements.values.map elementRecord =
      sortBy RelationRecord.id ((r.relations.filter fun x => !Classes.isLanelet x).map
        .roleForm) := by
  have nodup : (((r.relations.filter fun x => !Classes.isLanelet x).map
      RelationRecord.roleForm).map RelationRecord.id).Nodup := by
    rw [List.map_map]
    exact (flawless.distinct .relation).sublist (List.filter_sublist.map _)
  have hform : ∀ x e, outcome g r x = .ok (.element e) → elementRecord e = x.roleForm :=
    fun x e hbuilt => elementRecord_of_fills (fills_of_outcome keeps hbuilt).1
  refine SortedMap.map_values_eq_sortBy nodup (keyed_map keeps).regulatoryElements fun x => ?_
  simp only [regulatoryElements_iff g r keeps, List.mem_map, List.mem_filter, Bool.not_eq_true']
  constructor
  · rintro ⟨y, ⟨hy, htype⟩, rfl⟩
    have hkept : y ∈ (kept g r).relations := flawless.kept_eq.symm ▸ hy
    obtain ⟨e, hbuilt⟩ := exists_element hkept htype
    exact ⟨e.id, e, ⟨y, hkept, hbuilt, rfl⟩, hform y e hbuilt⟩
  · rintro ⟨id, e, ⟨y, hy, hbuilt, rfl⟩, rfl⟩
    exact ⟨y, ⟨flawless.kept_eq ▸ hy, isLanelet_eq_false hy hbuilt⟩, (hform y e hbuilt).symm⟩

end Flawless

/-! ### Nothing is left out -/

section Drafts

variable (keeps : g.KeepsStores)

include keeps

/-- No two elements of `map g r` share a record: two references that it contains are one if their
kinds of record and their identifiers agree. -/
theorem eq_of_contains {ref ref' : Reference} (h : (map g r).contains ref = true)
    (h' : (map g r).contains ref' = true) (hkind : ref.kind.recordKind = ref'.kind.recordKind)
    (hid : ref.id = ref'.id) : ref = ref' := by
  have htyped := ((contains_iff g r keeps ref).1 h).2
  rw [hkind, hid] at htyped
  exact htyped.symm.trans ((contains_iff g r keeps ref').1 h').2

theorem polygonRecord?_map {p : Polygon} (hp : p ∈ (map g r).polygons.values) :
    (map g r).polygonRecord? p = .ok (polygonRecord p) := by
  obtain ⟨id, hid⟩ := SortedMap.mem_values.1 hp
  obtain rfl : p.id = id := (keyed_map keeps).polygons id p hid
  refine polygonRecord?_eq_ok.2 ⟨?_, rfl⟩
  rw [← Bool.not_eq_true]
  intro hline
  have hpolygon : (map g r).contains ⟨.polygon, p.id⟩ = true := SortedMap.contains_iff.2 ⟨p, hid⟩
  have hline' : (map g r).contains ⟨.lineString, p.id⟩ = true := hline
  cases eq_of_contains keeps hpolygon hline' rfl rfl

theorem laneletRecord?_map {l : Lanelet} (hl : l ∈ (map g r).lanelets.values) :
    (map g r).laneletRecord? l = .ok (laneletRecord l) := by
  obtain ⟨id, hid⟩ := SortedMap.mem_values.1 hl
  obtain ⟨x, hx, hbuilt, -⟩ := (lanelets_iff g r).1 hid
  have hdescribes := (BuiltRelation.ofRecord_eq_lanelet.1 hbuilt).2
  refine laneletRecord?_eq_ok.2 ⟨?_, rfl⟩
  refine List.forall_mem_cons.2 ⟨?_, List.forall_mem_cons.2 ⟨?_, List.forall_mem_map.2 ?_⟩⟩
  · exact (resolves_role keeps hx hdescribes.left (List.mem_singleton_self _)).1
  · exact (resolves_role keeps hx hdescribes.right (List.mem_singleton_self _)).1
  · exact fun e he => (resolves_role keeps hx hdescribes.rules (List.mem_map_of_mem he)).1

theorem elementRecord?_map {e : RegulatoryElement} (he : e ∈ (map g r).regulatoryElements.values) :
    (map g r).elementRecord? e = .ok (elementRecord e) := by
  obtain ⟨id, hid⟩ := SortedMap.mem_values.1 he
  obtain rfl : e.id = id := (keyed_map keeps).regulatoryElements id e hid
  obtain ⟨x, hx, hbuilt, -⟩ := (regulatoryElements_iff g r keeps).1 hid
  have hfills := (fills_of_outcome keeps hbuilt).1
  refine elementRecord?_eq_ok.2 ⟨?_, fun p hp => ?_, rfl⟩
  · rw [← Bool.not_eq_true]
    intro hlanelet
    have helement : (map g r).contains ⟨.regulatoryElement, e.id⟩ = true :=
      SortedMap.contains_iff.2 ⟨e, hid⟩
    have hlanelet' : (map g r).contains ⟨.lanelet, e.id⟩ = true := hlanelet
    cases eq_of_contains keeps helement hlanelet' rfl rfl
  · exact (resolves_role keeps hx (hfills.roles p.1).symm (RoleStore.mem_parameters.1 hp)).1

/-- The drafts for `map g r` are the canonical form of the records, if `r` is `Flawless`. -/
theorem draft_map (flawless : Flawless g r) : (map g r).draft = r.canon := by
  rw [draft, (keyed_map keeps).goodOf_wayRecords,
    goodOf_map_ok fun p hp => polygonRecord?_map keeps hp,
    goodOf_map_ok fun l hl => laneletRecord?_map keeps hl,
    goodOf_map_ok fun e he => elementRecord?_map keeps he, values_points keeps flawless,
    values_lineStrings keeps flawless, values_polygons keeps flawless,
    values_lanelets keeps flawless, values_regulatoryElements keeps flawless]
  rfl

end Drafts

end Assembly

/-! ## Round trips -/

namespace Assembly

open RoadMap

variable {g : RuleRegistry} {r : RecordSet}

/-- The lanelets of an assembled map are marked already. -/
theorem markLanelets_map : (map g r).markAreas.markLanelets = (map g r).markAreas := by
  have hlanelets : (map g r).lanelets.mapValues Lanelet.marked = (map g r).lanelets := by
    refine SortedMap.ext_find? fun id => ?_
    rw [SortedMap.find?_mapValues]
    cases hl : (map g r).lanelets.find? id with
    | none => rfl
    | some l =>
      obtain ⟨x, hx, hbuilt, -⟩ := (lanelets_iff g r).1 hl
      have htype : x.type? = some TypeTag.lanelet :=
        of_decide_eq_true (isLanelet_eq_true hx hbuilt)
      have hself : l.attributes.insert Key.type TypeTag.lanelet = l.attributes :=
        SortedMap.insert_of_find?
          ((BuiltRelation.ofRecord_eq_lanelet.1 hbuilt).2.attributes ▸ htype)
      rw [Option.map_some, Lanelet.marked, hself]
  rw [markLanelets]
  exact congrArg (fun layer => { (map g r).markAreas with lanelets := layer }) hlanelets

variable (keeps : g.KeepsStores) (flawless : Flawless g r)

include keeps flawless

/-- Taking `map g r` apart leaves nothing out. -/
theorem saveFailures_map : (map g r).saveFailures = [] := by
  rw [saveFailures, (keyed_map keeps).failuresOf_wayRecords,
    failuresOf_map_ok fun p hp => polygonRecord?_map keeps hp,
    failuresOf_map_ok fun l hl => laneletRecord?_map keeps hl,
    failuresOf_map_ok fun e he => elementRecord?_map keeps he, draft_map keeps flawless,
    flawless.closed.canon.pruneDangling]
  rfl

theorem saved_map : (map g r).saved = r.canon := by
  rw [saved_eq_draft (saveFailures_map keeps flawless), draft_map keeps flawless]

/-- The canonical form of `Flawless` records is `Flawless`. -/
theorem flawless_canon : Flawless g r.canon := by
  have hsave := saveFailures_map keeps flawless
  rw [← saved_map keeps flawless]
  exact flawless_saved (unmistakable_map keeps) (keyed_map keeps) (accepted_map keeps)
    (unshadowed_of_saveFailures (unmistakable_map keeps) (keyed_map keeps) hsave)

/-- The canonical form assembles to the same map with its polygons marked (`markAreas`). -/
theorem map_canon : map g r.canon = (map g r).markAreas := by
  rw [← saved_map keeps flawless, map_saved (unmistakable_map keeps) (keyed_map keeps)
    (accepted_map keeps) (saveFailures_map keeps flawless), markLanelets_map]

end Assembly

/-- A map that strict `ofRecords` makes of `r` is taken apart by strict `toRecords` to `r.canon`.
That form assembles to the same map again with its polygons marked as areas (`markAreas`), and is
its own canonical form. -/
theorem RoadMap.canon_of_ofRecords {g : RuleRegistry} (keeps : g.KeepsStores) {r : RecordSet}
    {messages : List String} {m : RoadMap} (h : (ofRecords g .strict r messages).1 = .ok m) :
    (∀ messages, m.toRecords .strict messages = (.ok r.canon, messages)) ∧
      (∀ messages, ofRecords g .strict r.canon messages = (.ok m.markAreas, messages)) ∧
      r.canon.canon = r.canon := by
  obtain ⟨flawless, rfl⟩ := Assembly.strict_eq_ok.1 h
  refine ⟨fun messages => ?_, fun messages => ?_, r.canon_canon⟩
  · rw [(Assembly.map g r).settles_toRecords.strict, Assembly.saveFailures_map keeps flawless,
      Assembly.saved_map keeps flawless]
    rfl
  · rw [Assembly.strict_of_flawless (Assembly.flawless_canon keeps flawless),
      Assembly.map_canon keeps flawless]

/-- Records out of order: an area first, a lanelet with its rule in front, and a rule whose members
do not come in the order of their roles. -/
def Assembly.shuffled : RecordSet where
  nodes := [⟨2, ⟨1, 0, 0⟩, .empty⟩, ⟨1, ⟨0, 0, 0⟩, .empty⟩]
  ways := [⟨9, [1, 2], .ofList [(Key.area, "true")]⟩, ⟨11, [2, 1], .empty⟩, ⟨10, [1, 2], .empty⟩]
  relations :=
    [⟨19, .ofList [(Key.subtype, RightOfWay.ruleName)],
        [⟨RoleName.yielding, .relation, 20⟩, ⟨RoleName.refLine, .way, 10⟩]⟩,
      ⟨20, .ofList [(Key.type, TypeTag.lanelet)],
        [⟨RoleName.regulatoryElement, .relation, 19⟩, ⟨RoleName.left, .way, 10⟩,
          ⟨RoleName.right, .way, 11⟩]⟩]

/-- The map of the records `shuffled` gives them back in canonical form, the lanelet first. -/
theorem RoadMap.canon_shuffled :
    ∃ m, RuleRegistry.builtin.KeepsStores ∧
      (ofRecords .builtin .strict Assembly.shuffled []).1 = .ok m ∧
      Assembly.shuffled.relationIds = [19, 20] ∧ Assembly.shuffled.canon.relationIds = [20, 19] ∧
      m.toRecords .strict [] = (.ok Assembly.shuffled.canon, []) := by
  have keeps : RuleRegistry.builtin.KeepsStores := RuleRegistry.Grown.builtin.keepsStores
  have hrun : (ofRecords .builtin .strict Assembly.shuffled []).1 =
      .ok (Assembly.map .builtin Assembly.shuffled) := by
    have hnil : Assembly.failures .builtin Assembly.shuffled = [] := by decide +kernel
    rw [(Assembly.settles_ofRecords _ _).strict, hnil]
    rfl
  exact ⟨_, keeps, hrun, rfl, by decide +kernel,
    (canon_of_ofRecords keeps hrun).1 []⟩

end RoadNet
