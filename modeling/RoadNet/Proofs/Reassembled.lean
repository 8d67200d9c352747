import RoadNet.Proofs.Disassembled
import RoadNet.Proofs.Flawless

/-!
# RoadNet.Proofs.Reassembled

Maps that are taken apart and put together again.

* `RoadMap.typed_of_writes` — the tags of what is written name the layers that it comes from;
* `RoadMap.flawless_saved` — what is written assembles without a failure, unless an element in it
  refers to one that gives way to another layer;
* `RoadMap.map_saved` — if nothing is left out, the map comes back with its polygons and lanelets
  marked as such.
-/

namespace RoadNet

/-! ## Marks -/

/-- The polygon with the tag `area=yes`. -/
def Polygon.marked (p : Polygon) : Polygon :=
  { p with attributes := p.attributes.insert Key.area "yes" }

/-- The lanelet with the tag `type=lanelet`. -/
def Lanelet.marked (l : Lanelet) : Lanelet :=
  { l with attributes := l.attributes.insert Key.type TypeTag.lanelet }

namespace RoadMap

/-- The map with each of its polygons `marked`. -/
def markAreas (m : RoadMap) : RoadMap := { m with polygons := m.polygons.mapValues Polygon.marked }

/-- The map with each of its lanelets `marked`. -/
def markLanelets (m : RoadMap) : RoadMap :=
  { m with lanelets := m.lanelets.mapValues Lanelet.marked }

/-- The registry accepts every regulatory element as what it is: `upgrade` of its store gives it
again. -/
def Accepted (g : RuleRegistry) (m : RoadMap) : Prop :=
  ∀ id e, m.regulatoryElements.find? id = some e → g.upgrade e.store = .ok e

/-- No element in the records `out` refers to one that is `Shadowed`. -/
def Unshadowed (m : RoadMap) (out : RecordSet) : Prop :=
  ∀ ref, m.Writes out ref → ∀ target ∈ m.referencesOf ref, ¬m.Shadowed target

variable {m : RoadMap} {g : RuleRegistry}

/-! ## Members -/

/-- The role `left` of a `laneletRecord` has one member, the left bound. -/
theorem role_laneletRecord_left (l : Lanelet) :
    (laneletRecord l).role RoleName.left = [memberOf (RoleName.left, .lineString l.left)] := by
  simp [RelationRecord.role, laneletRecord, laneletReferences, memberOf, RoleName.left,
    RoleName.right, RoleName.regulatoryElement]

theorem role_laneletRecord_right (l : Lanelet) :
    (laneletRecord l).role RoleName.right = [memberOf (RoleName.right, .lineString l.right)] := by
  simp [RelationRecord.role, laneletRecord, laneletReferences, memberOf, RoleName.left,
    RoleName.right, RoleName.regulatoryElement]

theorem role_laneletRecord_rules (l : Lanelet) :
    (laneletRecord l).role RoleName.regulatoryElement =
      l.regulatoryElements.map fun id =>
        memberOf (RoleName.regulatoryElement, .regulatoryElement id) := by
  simp [RelationRecord.role, laneletRecord, laneletReferences, memberOf, RoleName.left,
    RoleName.right, RoleName.regulatoryElement, List.filter_map, Function.comp_def]

/-- A role of an `elementRecord` has the members that the store holds there. -/
theorem role_elementRecord (e : RegulatoryElement) (role : String) :
    (elementRecord e).role role = (e.store.get role).map fun ref => memberOf (role, ref) := by
  have hrole : (elementRecord e).role role =
      (e.store.parameters.filter fun p => p.1 = role).map memberOf := by
    rw [RelationRecord.role, elementRecord, List.filter_map]
    rfl
  rw [hrole, e.store.filter_parameters, List.map_map]
  rfl

/-- `Classes.reference` of a `memberOf` is decided by the kind of record and the identifier. -/
theorem reference_memberOf (c : Classes) (p : String × Reference) :
    c.reference (memberOf p) = c.typed p.2.kind.recordKind p.2.id :=
  c.reference_eq_typed _

/-! ## Records of elements -/

/-- The tags of what is written name the layer that it comes from, if the map is `Unmistakable`. -/
theorem typed_of_writes (tags : m.Unmistakable) (keyed : m.Keyed) {out : RecordSet}
    (distinct : out.Distinct) {ref : Reference} (h : m.Writes out ref) :
    (Classes.ofRecords out).typed ref.kind.recordKind ref.id = ref := by
  obtain ⟨kind, id⟩ := ref
  cases kind with
  | point => rfl
  | lineString =>
    obtain ⟨l, hl, hmem⟩ := h
    obtain rfl : l.id = id := keyed.lineStrings id l hl
    have harea := Classes.mem_polygons distinct (.refl out) hmem
    rw [tags.lineStrings _ l hl] at harea
    exact Classes.typed_eq_lineString.2 fun hpolygon => Bool.noConfusion (harea.1 hpolygon)
  | polygon =>
    obtain ⟨p, hp, hmem⟩ := h
    obtain rfl : p.id = id := keyed.polygons id p hp
    exact Classes.typed_eq_polygon.2
      ((Classes.mem_polygons distinct (.refl out) hmem).2 (isArea_polygonRecord p))
  | lanelet =>
    obtain ⟨l, hl, hmem⟩ := h
    obtain rfl : l.id = id := keyed.lanelets id l hl
    exact Classes.typed_eq_lanelet.2
      ((Classes.mem_lanelets distinct (.refl out) hmem).2 (isLanelet_laneletRecord l))
  | regulatoryElement =>
    obtain ⟨e, he, hmem⟩ := h
    obtain rfl : e.id = id := keyed.regulatoryElements id e he
    have hlanelet := Classes.mem_lanelets distinct (.refl out) hmem
    rw [tags.regulatoryElements _ e he] at hlanelet
    exact Classes.typed_eq_regulatoryElement.2 fun hmem' => Bool.noConfusion (hlanelet.1 hmem')

section Built

variable {c : Classes}

/-- `laneletRecord` builds to the lanelet, `marked`, if its members name what the lanelet refers
to. -/
theorem ofRecord_laneletRecord {l : Lanelet} (hl : l.id ∈ c.lanelets)
    (h : ∀ p ∈ laneletReferences l, c.reference (memberOf p) = p.2) :
    BuiltRelation.ofRecord g c (laneletRecord l) = .ok (.lanelet l.marked) := by
  refine BuiltRelation.ofRecord_eq_lanelet.2 ⟨hl, ⟨rfl, rfl, ?_, ?_, ?_⟩⟩
  · rw [role_laneletRecord_left, List.map_singleton, h _ List.mem_cons_self]
    rfl
  · rw [role_laneletRecord_right, List.map_singleton,
      h _ (List.mem_cons_of_mem _ List.mem_cons_self)]
    rfl
  · rw [role_laneletRecord_rules, List.map_map]
    refine List.map_congr_left fun id hid => h (RoleName.regulatoryElement, _) ?_
    exact List.mem_cons_of_mem _ (List.mem_cons_of_mem _ (List.mem_map_of_mem hid))

/-- `elementRecord` builds to the regulatory element, if its members name what the element refers to
and the registry accepts it (`haccept`). -/
theorem ofRecord_elementRecord {e : RegulatoryElement} (he : e.id ∉ c.lanelets)
    (tidy : e.store.Tidy) (haccept : g.upgrade e.store = .ok e)
    (h : ∀ p ∈ e.store.parameters, c.reference (memberOf p) = p.2) :
    BuiltRelation.ofRecord g c (elementRecord e) = .ok (.element e) := by
  refine BuiltRelation.ofRecord_eq_element.2 ⟨he, e.store, ?_, haccept⟩
  refine Classes.roleStore_eq_ok.2 ⟨⟨rfl, rfl, fun role => ?_⟩, tidy⟩
  rw [role_elementRecord, List.map_map]
  have hself : (e.store.get role).map (fun ref => c.reference (memberOf (role, ref))) =
      (e.store.get role).map id :=
    List.map_congr_left fun ref href => h (role, ref) (RoleStore.mem_parameters.2 href)
  exact (hself.trans (List.map_id _)).symm

end Built

/-! ## What is written -/

/-- A member of what is written names the element that it stands for, if the `saved` records are
`Unshadowed`. -/
theorem reference_of_writes (tags : m.Unmistakable) (keyed : m.Keyed)
    (unshadowed : m.Unshadowed m.saved) {ref : Reference} (h : m.Writes m.saved ref)
    {p : String × Reference} (hp : p.2 ∈ m.referencesOf ref) :
    (Classes.ofRecords m.saved).reference (memberOf p) = p.2 := by
  rw [reference_memberOf]
  refine typed_of_writes tags keyed keyed.distinct_saved ?_
  exact (writes_reference_iff tags keyed h hp).2 (unshadowed ref h p.2 hp)

/-- Among the `saved` records a `laneletRecord` builds to the lanelet, `marked`. -/
theorem outcome_laneletRecord (tags : m.Unmistakable) (keyed : m.Keyed)
    (unshadowed : m.Unshadowed m.saved) {id : Id} {l : Lanelet} (hl : m.lanelets.find? id = some l)
    (h : laneletRecord l ∈ m.saved.relations) :
    BuiltRelation.ofRecord g (.ofRecords m.saved) (laneletRecord l) = .ok (.lanelet l.marked) := by
  have hwrites : m.Writes m.saved ⟨.lanelet, id⟩ := ⟨l, hl, h⟩
  refine ofRecord_laneletRecord ?_ fun p hp => ?_
  · exact (Classes.mem_lanelets keyed.distinct_saved (.refl _) h).2 (isLanelet_laneletRecord l)
  · refine reference_of_writes tags keyed unshadowed hwrites ?_
    rw [referencesOf_lanelet hl]
    exact List.mem_map_of_mem hp

/-- Among the `saved` records an `elementRecord` builds to the regulatory element. -/
theorem outcome_elementRecord (tags : m.Unmistakable) (keyed : m.Keyed)
    (unshadowed : m.Unshadowed m.saved) (accepted : m.Accepted g) {id : Id} {e : RegulatoryElement}
    (he : m.regulatoryElements.find? id = some e) (h : elementRecord e ∈ m.saved.relations) :
    BuiltRelation.ofRecord g (.ofRecords m.saved) (elementRecord e) = .ok (.element e) := by
  have hwrites : m.Writes m.saved ⟨.regulatoryElement, id⟩ := ⟨e, he, h⟩
  refine ofRecord_elementRecord ?_ (keyed.tidy id e he) (accepted id e he) fun p hp => ?_
  · have hlanelet := Classes.mem_lanelets keyed.distinct_saved (.refl _) h
    rw [tags.regulatoryElements id e he] at hlanelet
    exact fun hmem => Bool.noConfusion (hlanelet.1 hmem)
  · refine reference_of_writes tags keyed unshadowed hwrites ?_
    rw [referencesOf_regulatoryElement he]
    exact List.mem_map_of_mem hp

/-- What is `saved` assembles without a failure. -/
theorem flawless_saved (tags : m.Unmistakable) (keyed : m.Keyed) (accepted : m.Accepted g)
    (unshadowed : m.Unshadowed m.saved) : Flawless g m.saved where
  distinct := keyed.distinct_saved
  closed := saved_closed
  builds x hx := by
    rcases mem_draft_relations.1 (saved_within.relations hx) with
      ⟨id, l, hl, -, rfl⟩ | ⟨id, e, he, -, -, rfl⟩
    · exact ⟨_, outcome_laneletRecord tags keyed unshadowed hl hx⟩
    · exact ⟨_, outcome_elementRecord tags keyed unshadowed accepted he hx⟩

/-! ## Nothing left out -/

/-- If nothing is left out (`saveFailures`), the `saved` records are the `draft`. -/
theorem saved_eq_draft (h : m.saveFailures = []) : m.saved = m.draft := by
  have hprune := (List.append_eq_nil_iff.1 (List.append_eq_nil_iff.1
    (List.append_eq_nil_iff.1 h).2).2).2
  exact RecordSet.pruneDangling_eq_self (List.map_eq_nil_iff.1 hprune)

/-- If nothing is left out, every element of the map is written. -/
theorem writes_of_contains (keyed : m.Keyed) (h : m.saveFailures = []) {ref : Reference}
    (hcontains : m.contains ref = true) : m.Writes m.saved ref := by
  rcases writes_or_reported keyed hcontains with hwrites | ⟨f, hf, -⟩
  · exact hwrites
  · rw [h] at hf
    exact absurd hf List.not_mem_nil

/-- If nothing is left out, the `saved` records are `Unshadowed`. -/
theorem unshadowed_of_saveFailures (tags : m.Unmistakable) (keyed : m.Keyed)
    (h : m.saveFailures = []) : m.Unshadowed m.saved := by
  intro ref href target htarget hshadowed
  obtain ⟨hcontains, -⟩ := resolves_of_writes tags keyed saved_within saved_closed href htarget
  exact not_writes_of_shadowed tags keyed saved_within hshadowed
    (writes_of_contains keyed h hcontains)

section Layers

open Assembly

variable (keyed : m.Keyed) (flawless : Flawless g m.saved) (h : m.saveFailures = [])

include keyed flawless h

theorem points_map_saved : (map g m.saved).points = m.points := by
  refine SortedMap.ext_find? fun id => Option.ext fun p => ?_
  rw [points_iff, flawless.kept_eq]
  constructor
  · rintro ⟨n, hn, heq⟩
    obtain ⟨i, q, hq, rfl⟩ := mem_draft_nodes.1 (saved_within.nodes hn)
    obtain rfl : q.id = i := keyed.points i q hq
    obtain ⟨rfl, rfl⟩ := Prod.mk.inj heq
    exact hq
  · intro hp
    have hwrites : m.Writes m.saved ⟨.point, id⟩ :=
      writes_of_contains keyed h (SortedMap.contains_iff.2 ⟨p, hp⟩)
    obtain ⟨q, hq, hmem⟩ := hwrites
    obtain rfl : p = q := Option.some.inj (hp.symm.trans hq)
    exact ⟨_, hmem, Prod.ext (keyed.points id p hp) rfl⟩

theorem lineStrings_map_saved (tags : m.Unmistakable) :
    (map g m.saved).lineStrings = m.lineStrings := by
  refine SortedMap.ext_find? fun id => Option.ext fun l => ?_
  rw [lineStrings_iff, flawless.kept_eq]
  constructor
  · rintro ⟨w, hw, harea, heq⟩
    rcases (mem_draft_ways keyed).1 (saved_within.ways hw) with ⟨i, k, hk, rfl⟩ | ⟨i, p, -, -, rfl⟩
    · obtain rfl : k.id = i := keyed.lineStrings i k hk
      obtain ⟨rfl, rfl⟩ := Prod.mk.inj heq
      exact hk
    · rw [isArea_polygonRecord] at harea
      cases harea
  · intro hl
    have hwrites : m.Writes m.saved ⟨.lineString, id⟩ :=
      writes_of_contains keyed h (SortedMap.contains_iff.2 ⟨l, hl⟩)
    obtain ⟨k, hk, hmem⟩ := hwrites
    obtain rfl : l = k := Option.some.inj (hl.symm.trans hk)
    exact ⟨_, hmem, tags.lineStrings id l hl, Prod.ext (keyed.lineStrings id l hl) rfl⟩

/-- The polygons of the map that the `saved` records assemble to are those of `m`, `marked`. -/
theorem polygons_map_saved (tags : m.Unmistakable) :
    (map g m.saved).polygons = m.polygons.mapValues Polygon.marked := by
  refine SortedMap.ext_find? fun id => Option.ext fun p => ?_
  rw [polygons_iff, flawless.kept_eq, SortedMap.find?_mapValues, Option.map_eq_some_iff]
  constructor
  · rintro ⟨w, hw, harea, heq⟩
    rcases (mem_draft_ways keyed).1 (saved_within.ways hw) with ⟨i, k, hk, rfl⟩ | ⟨i, q, hq, -, rfl⟩
    · rw [tags.lineStrings i k hk] at harea
      cases harea
    · obtain rfl : q.id = i := keyed.polygons i q hq
      obtain ⟨rfl, rfl⟩ := Prod.mk.inj heq
      exact ⟨q, hq, rfl⟩
  · rintro ⟨q, hq, rfl⟩
    have hwrites : m.Writes m.saved ⟨.polygon, id⟩ :=
      writes_of_contains keyed h (SortedMap.contains_iff.2 ⟨q, hq⟩)
    obtain ⟨q', hq', hmem⟩ := hwrites
    obtain rfl : q = q' := Option.some.inj (hq.symm.trans hq')
    exact ⟨_, hmem, isArea_polygonRecord q, Prod.ext (keyed.polygons id q hq) rfl⟩

/-- Its lanelets are those of `m`, `marked`. -/
theorem lanelets_map_saved (tags : m.Unmistakable) (accepted : m.Accepted g) :
    (map g m.saved).lanelets = m.lanelets.mapValues Lanelet.marked := by
  have unshadowed := unshadowed_of_saveFailures tags keyed h
  refine SortedMap.ext_find? fun id => Option.ext fun l => ?_
  rw [lanelets_iff, flawless.kept_eq, SortedMap.find?_mapValues, Option.map_eq_some_iff]
  simp only [flawless.outcome_eq]
  constructor
  · rintro ⟨x, hx, hbuilt, rfl⟩
    rcases mem_draft_relations.1 (saved_within.relations hx) with
      ⟨i, k, hk, -, rfl⟩ | ⟨i, e, he, -, -, rfl⟩
    · rw [outcome_laneletRecord tags keyed unshadowed hk hx] at hbuilt
      obtain rfl := BuiltRelation.lanelet.inj (Except.ok.inj hbuilt)
      obtain rfl : k.id = i := keyed.lanelets i k hk
      exact ⟨k, hk, rfl⟩
    · rw [outcome_elementRecord tags keyed unshadowed accepted he hx] at hbuilt
      cases hbuilt
  · rintro ⟨k, hk, rfl⟩
    have hwrites : m.Writes m.saved ⟨.lanelet, id⟩ :=
      writes_of_contains keyed h (SortedMap.contains_iff.2 ⟨k, hk⟩)
    obtain ⟨k', hk', hmem⟩ := hwrites
    obtain rfl : k = k' := Option.some.inj (hk.symm.trans hk')
    exact ⟨_, hmem, outcome_laneletRecord tags keyed unshadowed hk hmem, keyed.lanelets id k hk⟩

/-- Its regulatory elements are those of `m`, if the registry has `accepted` them. -/
theorem regulatoryElements_map_saved (tags : m.Unmistakable) (accepted : m.Accepted g) :
    (map g m.saved).regulatoryElements = m.regulatoryElements := by
  have unshadowed := unshadowed_of_saveFailures tags keyed h
  -- What a relation becomes is the element that it was written for.
  have hsource : ∀ x ∈ m.saved.relations, ∀ e,
      BuiltRelation.ofRecord g (.ofRecords m.saved) x = .ok (.element e) →
        elementRecord e = x ∧ m.regulatoryElements.find? e.id = some e := by
    intro x hx e hbuilt
    rcases mem_draft_relations.1 (saved_within.relations hx) with
      ⟨i, k, hk, -, rfl⟩ | ⟨i, e', he, -, -, rfl⟩
    · rw [outcome_laneletRecord tags keyed unshadowed hk hx] at hbuilt
      cases hbuilt
    · rw [outcome_elementRecord tags keyed unshadowed accepted he hx] at hbuilt
      obtain rfl := BuiltRelation.element.inj (Except.ok.inj hbuilt)
      obtain rfl : e'.id = i := keyed.regulatoryElements i e' he
      exact ⟨rfl, he⟩
  refine SortedMap.ext_find? fun id => Option.ext fun e => ?_
  rw [regulatoryElements_iff_of_id g m.saved fun x hx e hbuilt => ?_, flawless.kept_eq]
  simp only [flawless.outcome_eq]
  constructor
  · rintro ⟨x, hx, hbuilt, rfl⟩
    exact (hsource x hx e hbuilt).2
  · intro he
    have hwrites : m.Writes m.saved ⟨.regulatoryElement, id⟩ :=
      writes_of_contains keyed h (SortedMap.contains_iff.2 ⟨e, he⟩)
    obtain ⟨e', he', hmem⟩ := hwrites
    obtain rfl : e = e' := Option.some.inj (he.symm.trans he')
    exact ⟨_, hmem, outcome_elementRecord tags keyed unshadowed accepted he hmem,
      keyed.regulatoryElements id e he⟩
  · rw [flawless.kept_eq] at hx
    rw [flawless.outcome_eq] at hbuilt
    exact congrArg RelationRecord.id (hsource x hx e hbuilt).1

end Layers

/-- A map of which nothing is left out (`saveFailures`) comes back, with its polygons and lanelets
marked. -/
theorem map_saved (tags : m.Unmistakable) (keyed : m.Keyed) (accepted : m.Accepted g)
    (h : m.saveFailures = []) :
    Assembly.map g m.saved = m.markAreas.markLanelets := by
  have flawless : Flawless g m.saved :=
    flawless_saved tags keyed accepted (unshadowed_of_saveFailures tags keyed h)
  have hpoints := points_map_saved keyed flawless h
  have hlineStrings := lineStrings_map_saved keyed flawless h tags
  have hpolygons := polygons_map_saved keyed flawless h tags
  have hlanelets := lanelets_map_saved keyed flawless h tags accepted
  have helements := regulatoryElements_map_saved keyed flawless h tags accepted
  rw [markAreas, markLanelets, ← hpoints, ← hlineStrings, ← hpolygons, ← hlanelets, ← helements]

end RoadMap

end RoadNet
