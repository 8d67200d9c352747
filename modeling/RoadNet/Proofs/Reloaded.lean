import RoadNet.Proofs.Reassembled

/-!
# RoadNet.Proofs.Reloaded

Maps that are saved strictly and loaded again.

Which layer a record belongs to is told by its tags alone, and the tags of line strings and of
regulatory elements are saved as they are. So a map that is saved without a failure comes back
layer for layer exactly if its tags tell the layers apart (`RoadMap.reloads_iff`). A line string
that is tagged as an area comes back as a polygon, and a regulatory element that is tagged as a
lanelet, if the records load at all, as a lanelet.
-/

namespace RoadNet

namespace RoadMap

open Assembly

variable {m : RoadMap} {g : RuleRegistry}

/-! ## Saved strictly -/

/-- Strict `toRecords` gives records exactly if nothing is left out (`saveFailures`), and then those
that are `saved`. -/
theorem strict_toRecords_eq_ok {messages : List String} {records : RecordSet} :
    (m.toRecords .strict messages).1 = .ok records ↔ m.saveFailures = [] ∧ records = m.saved := by
  have hrun := m.settles_toRecords
  constructor
  · intro h
    exact ⟨hrun.eq_nil_of_strict h, (Except.ok.inj (hrun.eq_of_ok h)).symm⟩
  · rintro ⟨hnil, rfl⟩
    rw [hrun.strict, hnil]
    rfl

/-- Where `saveFailures` is empty, no lanelet has taken the identifier of a regulatory element. -/
theorem lanelets_free (h : m.saveFailures = []) {id : Id} {e : RegulatoryElement}
    (he : m.regulatoryElements.find? id = some e) : m.lanelets.contains e.id = false := by
  cases hattempt : m.elementRecord? e with
  | ok x => exact (elementRecord?_eq_ok.1 hattempt).1
  | error f =>
    have hf := mem_failuresOf_map (SortedMap.mem_values.2 ⟨id, he⟩) hattempt
    have hmem : f ∈ m.saveFailures :=
      List.mem_append_right _ (List.mem_append_right _ (List.mem_append_left _ hf))
    rw [h] at hmem
    cases hmem

/-! ## Loaded by tags -/

section Loaded

variable (keyed : m.Keyed) (flawless : Flawless g m.saved) (h : m.saveFailures = [])

include keyed flawless h

/-- A line string whose tags say `isArea` comes back as a polygon, and as nothing else. -/
theorem polygon_of_isArea {id : Id} {l : LineString} (hl : m.lineStrings.find? id = some l)
    (harea : Classes.isArea (lineStringRecord l) = true) :
    (map g m.saved).lineStrings.contains id = false ∧
      (map g m.saved).polygons.find? id = some ⟨l.id, l.points, l.attributes⟩ := by
  have hwrites : m.Writes m.saved ⟨.lineString, id⟩ :=
    writes_of_contains keyed h (SortedMap.contains_iff.2 ⟨l, hl⟩)
  obtain ⟨l', hl', hmem⟩ := hwrites
  obtain rfl : l = l' := Option.some.inj (hl.symm.trans hl')
  obtain rfl : l.id = id := keyed.lineStrings id l hl
  constructor
  · rw [← Bool.not_eq_true, SortedMap.contains_iff]
    rintro ⟨k, hk⟩
    obtain ⟨w, hw, hline, heq⟩ := (lineStrings_iff g m.saved).1 hk
    rw [flawless.kept_eq] at hw
    have hid : w.id = (lineStringRecord l).id := congrArg Prod.fst heq
    have hsame : w = lineStringRecord l :=
      List.inj_on_of_nodup_map (flawless.distinct .way) hw hmem hid
    rw [hsame, harea] at hline
    cases hline
  · rw [polygons_iff, flawless.kept_eq]
    exact ⟨_, hmem, harea, rfl⟩

/-- A regulatory element whose tags say `isLanelet` comes back as a lanelet. -/
theorem lanelet_of_isLanelet {id : Id} {e : RegulatoryElement}
    (he : m.regulatoryElements.find? id = some e)
    (hlanelet : Classes.isLanelet (elementRecord e) = true) :
    (map g m.saved).lanelets.contains id = true := by
  have hwrites : m.Writes m.saved ⟨.regulatoryElement, id⟩ :=
    writes_of_contains keyed h (SortedMap.contains_iff.2 ⟨e, he⟩)
  obtain ⟨e', he', hmem⟩ := hwrites
  obtain rfl : e = e' := Option.some.inj (he.symm.trans he')
  obtain rfl : e.id = id := keyed.regulatoryElements id e he
  -- Its record builds, and by its tags it builds a lanelet.
  obtain ⟨b, hb⟩ := flawless.builds _ hmem
  have hclass := (Classes.mem_lanelets flawless.distinct (.refl _) hmem).2 hlanelet
  cases b with
  | lanelet l =>
    refine SortedMap.contains_iff.2 ⟨l, (lanelets_iff g m.saved).2 ⟨elementRecord e, ?_, ?_, ?_⟩⟩
    · rwa [flawless.kept_eq]
    · rwa [flawless.outcome_eq]
    · exact (BuiltRelation.ofRecord_eq_lanelet.1 hb).2.id
  | element e' => exact absurd hclass (BuiltRelation.ofRecord_eq_element.1 hb).1

/-- A map that comes back layer for layer (`hmap`) is `Unmistakable`. -/
theorem unmistakable_of_map_saved (hmap : map g m.saved = m.markAreas.markLanelets) :
    m.Unmistakable where
  lineStrings id l hl := by
    rw [← Bool.not_eq_true]
    intro harea
    have hgone := (polygon_of_isArea keyed flawless h hl harea).1
    rw [hmap] at hgone
    exact Bool.eq_false_iff.1 hgone (SortedMap.contains_iff.2 ⟨l, hl⟩)
  regulatoryElements id e he := by
    rw [← Bool.not_eq_true]
    intro hlanelet
    obtain ⟨l, hl⟩ :=
      SortedMap.contains_iff.1 (lanelet_of_isLanelet keyed flawless h he hlanelet)
    rw [hmap, markAreas, markLanelets, SortedMap.find?_mapValues, Option.map_eq_some_iff] at hl
    obtain ⟨k, hk, -⟩ := hl
    have hfree := lanelets_free h he
    rw [keyed.regulatoryElements id e he] at hfree
    exact Bool.eq_false_iff.1 hfree (SortedMap.contains_iff.2 ⟨k, hk⟩)

end Loaded

/-! ## Saved and loaded -/

/-- A map that strict `toRecords` saves, with regulatory elements that the registry accepts as what
they are (`accepted`). Its records load strictly to the same map, with the same elements in each
layer and only the marks of polygons and lanelets added, exactly if the map is `Unmistakable`: no
line string is tagged as an area and no regulatory element as a lanelet. Else, if they load, such a
line string is a polygon afterwards and such a regulatory element a lanelet. -/
theorem reloads_iff (g : RuleRegistry) (added : m.Added) (accepted : m.Accepted g)
    {messages : List String} {records : RecordSet}
    (h : (m.toRecords .strict messages).1 = .ok records) :
    ((∀ messages, ofRecords g .strict records messages =
        (.ok m.markAreas.markLanelets, messages)) ↔ m.Unmistakable) ∧
    ∀ messages m', (ofRecords g .strict records messages).1 = .ok m' →
      (∀ id l, m.lineStrings.find? id = some l → Classes.isArea (lineStringRecord l) = true →
        m'.lineStrings.contains id = false ∧
          m'.polygons.find? id = some ⟨l.id, l.points, l.attributes⟩) ∧
      ∀ id e, m.regulatoryElements.find? id = some e →
        Classes.isLanelet (elementRecord e) = true →
          m.lanelets.contains id = false ∧ m'.lanelets.contains id = true := by
  have keyed := added.keyed
  obtain ⟨hnil, rfl⟩ := strict_toRecords_eq_ok.1 h
  refine ⟨⟨fun hload => ?_, fun tags messages => ?_⟩, fun messages m' hload => ?_⟩
  · obtain ⟨flawless, hmap⟩ := strict_eq_ok.1 (congrArg Prod.fst (hload []))
    exact unmistakable_of_map_saved keyed flawless hnil hmap.symm
  · have unshadowed := unshadowed_of_saveFailures tags keyed hnil
    rw [strict_of_flawless (flawless_saved tags keyed accepted unshadowed),
      map_saved tags keyed accepted hnil]
  · obtain ⟨flawless, rfl⟩ := strict_eq_ok.1 hload
    refine ⟨fun id l hl harea => polygon_of_isArea keyed flawless hnil hl harea,
      fun id e he hlanelet => ⟨?_, lanelet_of_isLanelet keyed flawless hnil he hlanelet⟩⟩
    exact keyed.regulatoryElements id e he ▸ lanelets_free hnil he

/-! ### A map with an edge -/

/-- A line string with the given tags, a polygon, and a regulatory element that refers to it. -/
def edged (attributes : Attributes) : RoadMap :=
  (((empty.addPoint ⟨1, ⟨0, 0, 0⟩, .empty⟩).addLineString ⟨5, [1], attributes⟩).addPolygon
    ⟨6, [1], .empty⟩).addElement
      (.generic ((RoleStore.ofAttributes 7 .empty).setSingle RoleName.refers ⟨.polygon, 6⟩))

theorem added_edged (attributes : Attributes) : (edged attributes).Added :=
  (((Added.empty.point _).lineString _).polygon _).element _
    ((RoleStore.Reached.new 7 .empty).setSingle _ _)

theorem accepted_edged (attributes : Attributes) : (edged attributes).Accepted .builtin :=
  forall_find?_insert forall_find?_empty rfl

/-- Without tags on its line string the map `edged` comes back, with its polygon marked. -/
theorem reloads_edged :
    (edged .empty).Added ∧ (edged .empty).Accepted .builtin ∧
      ∃ records, (edged .empty).toRecords .strict [] = (.ok records, []) ∧ ∀ messages,
        ofRecords .builtin .strict records messages =
          (.ok (edged .empty).markAreas.markLanelets, messages) := by
  have hnil : (edged .empty).saveFailures = [] := by decide +kernel
  have hsave : (edged .empty).toRecords .strict [] = (.ok (edged .empty).saved, []) := by
    rw [(edged .empty).settles_toRecords.strict, hnil]
    rfl
  have tags : (edged .empty).Unmistakable :=
    ⟨forall_find?_insert forall_find?_empty rfl, forall_find?_insert forall_find?_empty rfl⟩
  have haccepted := accepted_edged .empty
  exact ⟨added_edged _, haccepted, _, hsave,
    (reloads_iff .builtin (added_edged _) haccepted (congrArg Prod.fst hsave)).1.2 tags⟩

/-- A line string with the tag of an area is saved without a word, and comes back as a polygon. -/
theorem mislaid_edged :
    ∃ m m' : RoadMap, ∃ records, m.Added ∧ m.Accepted .builtin ∧
      (∀ id, ¬(m.lineStrings.contains id = true ∧ m.polygons.contains id = true)) ∧
      (∀ id, ¬(m.lanelets.contains id = true ∧ m.regulatoryElements.contains id = true)) ∧
      m.toRecords .strict [] = (.ok records, []) ∧
      ofRecords .builtin .strict records [] = (.ok m', []) ∧
      m.lineStrings.keys = [5] ∧ m'.lineStrings.keys = [] ∧
      m.polygons.keys = [6] ∧ m'.polygons.keys = [5, 6] := by
  let m := edged (.ofList [(Key.area, "yes")])
  have hnil : m.saveFailures = [] := by decide +kernel
  have hload : Assembly.failures .builtin m.saved = [] := by decide +kernel
  refine ⟨m, Assembly.map .builtin m.saved, m.saved, added_edged _, accepted_edged _,
    fun id => ?_, fun id => ?_, ?_, ?_, rfl, by decide +kernel, rfl, by decide +kernel⟩
  · rintro ⟨hline, hpolygon⟩
    simp only [m, edged, addElement, addPolygon, addLineString, addPoint, empty,
      SortedMap.contains_iff, SortedMap.find?_insert, SortedMap.find?_empty] at hline hpolygon
    simp_all
  · rintro ⟨hlanelet, -⟩
    cases hlanelet
  · rw [m.settles_toRecords.strict, hnil]
    rfl
  · rw [(Assembly.settles_ofRecords _ _).strict, hload]
    rfl

end RoadMap

end RoadNet
