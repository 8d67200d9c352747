import RoadNet.Proofs.Assembled
import RoadNet.Proofs.Rules

/-!
# RoadNet.Proofs.Soundness

Every assembled map is sound: no reference in it dangles or names an element of another kind,
the layers that share a record kind are disjoint, and every regulatory element fits its rule.

The classes of ways and relations are decided before any relation is built. That they still
agree with the layers in the end is `Assembly.contains_iff`; that nothing dangles is
`Assembly.kept_closed`.
-/

namespace RoadNet

/-! ## Sound maps -/

namespace RoadMap

/-- The reference `ref` resolves in the layer of its kind, and in no other that holds records of the
same kind. -/
def Resolves (m : RoadMap) (ref : Reference) : Prop :=
  m.contains ref = true ∧ ∀ kind, kind.recordKind = ref.kind.recordKind →
    m.contains ⟨kind, ref.id⟩ = true → kind = ref.kind

/-- What holds of every assembled map, whatever the policy and the registered rules. -/
structure Sound (m : RoadMap) : Prop where
  /-- Every layer holds its elements by their own identifiers. -/
  keyed : (∀ id p, m.points.find? id = some p → p.id = id) ∧
    (∀ id l, m.lineStrings.find? id = some l → l.id = id) ∧
    (∀ id p, m.polygons.find? id = some p → p.id = id) ∧
    (∀ id l, m.lanelets.find? id = some l → l.id = id) ∧
    ∀ id e, m.regulatoryElements.find? id = some e → e.id = id
  /-- The points of a line string are there. -/
  lineStringPoints : ∀ id l, m.lineStrings.find? id = some l →
    ∀ p ∈ l.points, m.Resolves ⟨.point, p⟩
  /-- The points of a polygon are there. -/
  polygonPoints : ∀ id p, m.polygons.find? id = some p → ∀ q ∈ p.points, m.Resolves ⟨.point, q⟩
  /-- The bounds of a lanelet are line strings. -/
  bounds : ∀ id l, m.lanelets.find? id = some l →
    m.Resolves (.lineString l.left) ∧ m.Resolves (.lineString l.right)
  /-- The rules of a lanelet are regulatory elements. -/
  laneletRules : ∀ id l, m.lanelets.find? id = some l →
    ∀ e ∈ l.regulatoryElements, m.Resolves (.regulatoryElement e)
  /-- Whatever a role of a regulatory element holds is there. -/
  parameters : ∀ id e, m.regulatoryElements.find? id = some e →
    ∀ role, ∀ ref ∈ e.store.get role, m.Resolves ref
  /-- No way is both a line string and a polygon. -/
  waysApart : ∀ id, ¬(m.lineStrings.contains id = true ∧ m.polygons.contains id = true)
  /-- No relation is both a lanelet and a regulatory element. -/
  relationsApart : ∀ id,
    ¬(m.lanelets.contains id = true ∧ m.regulatoryElements.contains id = true)
  /-- Every regulatory element fits its rule. -/
  rules : ∀ id e, m.regulatoryElements.find? id = some e → e.Fits

end RoadMap

/-! ## Soundness of assembly -/

namespace Assembly

variable {g : RuleRegistry} {r : RecordSet}

/-- What the tags make of a `kept` record (`Classes.typed`) resolves. -/
theorem resolves_typed (keeps : g.KeepsStores) {kind : RecordKind} {id : Id}
    (h : id ∈ (kept g r).ids kind) : (map g r).Resolves ((classes r).typed kind id) := by
  refine ⟨contains_typed g r keeps h, fun other hother hcontains => ?_⟩
  obtain ⟨-, htyped⟩ := (contains_iff g r keeps _).1 hcontains
  rw [hother, Classes.recordKind_typed, Classes.id_typed] at htyped
  rw [htyped]

/-- Whatever a member of a `kept` relation names resolves. -/
theorem resolves_reference (keeps : g.KeepsStores) {x : RelationRecord}
    (hx : x ∈ (kept g r).relations) {m : Member} (hm : m ∈ x.members) :
    (map g r).Resolves ((classes r).reference m) := by
  rw [Classes.reference_eq_typed]
  exact resolves_typed keeps ((kept_closed g r).relations x hx m hm)

/-- Whatever the members of a role name (`refs`) resolves. -/
theorem resolves_role (keeps : g.KeepsStores) {x : RelationRecord}
    (hx : x ∈ (kept g r).relations) {role : String} {refs : List Reference}
    (h : (x.role role).map (classes r).reference = refs) {ref : Reference} (href : ref ∈ refs) :
    (map g r).Resolves ref := by
  rw [← h] at href
  obtain ⟨m, hm, rfl⟩ := List.mem_map.1 href
  exact resolves_reference keeps hx (Classes.role_subset x role hm)

/-- The nodes of a `kept` way resolve. -/
theorem resolves_node (keeps : g.KeepsStores) {w : WayRecord} (hw : w ∈ (kept g r).ways) {id : Id}
    (hid : id ∈ w.nodes) : (map g r).Resolves ⟨.point, id⟩ :=
  have hmem : id ∈ (kept g r).ids .node := (kept_closed g r).ways w hw id hid
  resolves_typed keeps hmem

/-- The map of a `Grown` registry is `Sound`. -/
theorem sound_map (grown : g.Grown) : (map g r).Sound where
  keyed := by
    have keeps := grown.keepsStores
    refine ⟨fun id p h => ?_, fun id l h => ?_, fun id p h => ?_, fun id l h => ?_,
      fun id e h => ?_⟩
    · obtain ⟨n, -, heq⟩ := (points_iff g r).1 h
      obtain ⟨rfl, rfl⟩ := Prod.mk.inj heq
      rfl
    · obtain ⟨w, -, -, heq⟩ := (lineStrings_iff g r).1 h
      obtain ⟨rfl, rfl⟩ := Prod.mk.inj heq
      rfl
    · obtain ⟨w, -, -, heq⟩ := (polygons_iff g r).1 h
      obtain ⟨rfl, rfl⟩ := Prod.mk.inj heq
      rfl
    · obtain ⟨x, -, -, hid⟩ := (lanelets_iff g r).1 h
      exact hid
    · obtain ⟨x, -, -, hid⟩ := (regulatoryElements_iff g r keeps).1 h
      exact hid
  lineStringPoints id l h p hp := by
    obtain ⟨w, hw, -, heq⟩ := (lineStrings_iff g r).1 h
    obtain ⟨rfl, rfl⟩ := Prod.mk.inj heq
    exact resolves_node grown.keepsStores hw hp
  polygonPoints id p h q hq := by
    obtain ⟨w, hw, -, heq⟩ := (polygons_iff g r).1 h
    obtain ⟨rfl, rfl⟩ := Prod.mk.inj heq
    exact resolves_node grown.keepsStores hw hq
  bounds id l h := by
    have keeps := grown.keepsStores
    obtain ⟨x, hx, hbuilt, -⟩ := (lanelets_iff g r).1 h
    have hl := (BuiltRelation.ofRecord_eq_lanelet.1 hbuilt).2
    exact ⟨resolves_role keeps hx hl.left (List.mem_singleton_self _),
      resolves_role keeps hx hl.right (List.mem_singleton_self _)⟩
  laneletRules id l h e he := by
    obtain ⟨x, hx, hbuilt, -⟩ := (lanelets_iff g r).1 h
    have hl := (BuiltRelation.ofRecord_eq_lanelet.1 hbuilt).2
    exact resolves_role grown.keepsStores hx hl.rules (List.mem_map_of_mem he)
  parameters id e h role ref href := by
    have keeps := grown.keepsStores
    obtain ⟨x, hx, hbuilt, -⟩ := (regulatoryElements_iff g r keeps).1 h
    obtain ⟨-, s, hs, he⟩ := BuiltRelation.ofRecord_eq_element.1 hbuilt
    rw [keeps.upgrade he] at href
    exact resolves_role keeps hx ((Classes.fills_of_roleStore hs).roles role).symm href
  waysApart id := by
    rintro ⟨hline, hpolygon⟩
    have hl := (contains_iff g r grown.keepsStores ⟨.lineString, id⟩).1 hline
    have hp := (contains_iff g r grown.keepsStores ⟨.polygon, id⟩).1 hpolygon
    cases hl.2.symm.trans hp.2
  relationsApart id := by
    rintro ⟨hlanelet, helement⟩
    have hl := (contains_iff g r grown.keepsStores ⟨.lanelet, id⟩).1 hlanelet
    have he := (contains_iff g r grown.keepsStores ⟨.regulatoryElement, id⟩).1 helement
    cases hl.2.symm.trans he.2
  rules id e h := by
    obtain ⟨x, hx, hbuilt, -⟩ := (regulatoryElements_iff g r grown.keepsStores).1 h
    obtain ⟨-, s, -, he⟩ := BuiltRelation.ofRecord_eq_element.1 hbuilt
    exact grown.fits he

end Assembly

namespace RoadMap

/-- Assembly is sound: whenever `ofRecords` gives a map under either policy, the map is `Sound`,
whatever the records and whatever faithful factories are registered besides the built-in rules
(`grown`). -/
theorem sound_of_ofRecords {g : RuleRegistry} (grown : g.Grown) {policy : Policy}
    {r : RecordSet} {messages : List String} {m : RoadMap}
    (h : (ofRecords g policy r messages).1 = .ok m) : m.Sound := by
  have hmap : Except.ok (Assembly.map g r) = .ok m := (Assembly.settles_ofRecords g r).eq_of_ok h
  rw [← Except.ok.inj hmap]
  exact Assembly.sound_map grown

/-- A lanelet and the rule that names it are both in the map of `crossing`, which is `Sound`. -/
theorem sound_crossing :
    ∃ m, RuleRegistry.builtin.Grown ∧
      (ofRecords .builtin .robust Assembly.crossing []).1 = .ok m ∧
      m.lanelets.keys = [20] ∧ m.regulatoryElements.keys = [21] ∧ m.Sound := by
  have hrun : (ofRecords .builtin .robust Assembly.crossing []).1 =
      .ok (Assembly.map .builtin Assembly.crossing) := by
    rw [(Assembly.settles_ofRecords _ _).robust]
  exact ⟨_, .builtin, hrun, by decide +kernel, by decide +kernel,
    sound_of_ofRecords .builtin hrun⟩

end RoadMap

end RoadNet
