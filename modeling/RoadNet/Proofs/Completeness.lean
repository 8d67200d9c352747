import RoadNet.Proofs.Assembled
import RoadNet.Proofs.KeyOrder
import RoadNet.Proofs.Rules

/-!
# RoadNet.Proofs.Completeness

Assembly leaves no record out without cause. A part of the input that could stand on its own,
with identifiers that nothing else takes, with no reference to the outside and with every
relation in order, is in the map as it stands there.

The argument runs through the stages: such a part is closed, so the first clean-up leaves it;
it types its members as the whole set does, so that its relations build; and what is left after
the build loop still contains it, so the second clean-up leaves it again.
-/

namespace RoadNet

/-! ## Parts that stand on their own -/

/-- A part `c` of the record set `r` that needs nothing from the rest of it: it is `Closed`, its
identifiers are its own, and its relations build under `g`. -/
structure SelfSufficient (g : RuleRegistry) (r c : RecordSet) : Prop where
  within : c.Within r
  /-- No other record of `r` takes an identifier of the part. -/
  unique : ∀ kind, ∀ id ∈ c.ids kind, (r.ids kind).count id = 1
  /-- References of the part stay inside. -/
  closed : c.Closed
  /-- Every relation builds, its members typed by the records of the part. -/
  builds : ∀ x ∈ c.relations, ∃ b, BuiltRelation.ofRecord g (.ofRecords c) x = .ok b

/-- A map has the elements that a set of records stands for, each in the layer its tags decide
and with the data of its record. -/
structure RoadMap.Carries (g : RuleRegistry) (m : RoadMap) (c : RecordSet) : Prop where
  points : ∀ n ∈ c.nodes, m.points.find? n.id = some ⟨n.id, n.position, n.attributes⟩
  lineStrings : ∀ w ∈ c.ways, Classes.isArea w = false →
    m.lineStrings.find? w.id = some ⟨w.id, w.nodes, w.attributes⟩
  polygons : ∀ w ∈ c.ways, Classes.isArea w = true →
    m.polygons.find? w.id = some ⟨w.id, w.nodes, w.attributes⟩
  lanelets : ∀ x ∈ c.relations, Classes.isLanelet x = true →
    ∃ l, m.lanelets.find? x.id = some l ∧ (Classes.ofRecords c).Describes x l
  regulatoryElements : ∀ x ∈ c.relations, Classes.isLanelet x = false →
    ∃ e, m.regulatoryElements.find? x.id = some e ∧ (Classes.ofRecords c).Fills x e.store ∧
      g.upgrade e.store = .ok e

/-- Every element of the map `m` is in `m'`, unchanged. -/
structure RoadMap.Part (m m' : RoadMap) : Prop where
  points : ∀ id p, m.points.find? id = some p → m'.points.find? id = some p
  lineStrings : ∀ id l, m.lineStrings.find? id = some l → m'.lineStrings.find? id = some l
  polygons : ∀ id p, m.polygons.find? id = some p → m'.polygons.find? id = some p
  lanelets : ∀ id l, m.lanelets.find? id = some l → m'.lanelets.find? id = some l
  regulatoryElements : ∀ id e, m.regulatoryElements.find? id = some e →
    m'.regulatoryElements.find? id = some e

/-- Two maps that are `Part` of each other are one. -/
theorem RoadMap.Part.antisymm {m m' : RoadMap} (h : m.Part m') (h' : m'.Part m) : m = m' := by
  have hpoints : m.points = m'.points := SortedMap.ext_find? fun id =>
    Option.ext fun p => ⟨h.points id p, h'.points id p⟩
  have hlineStrings : m.lineStrings = m'.lineStrings := SortedMap.ext_find? fun id =>
    Option.ext fun l => ⟨h.lineStrings id l, h'.lineStrings id l⟩
  have hpolygons : m.polygons = m'.polygons := SortedMap.ext_find? fun id =>
    Option.ext fun p => ⟨h.polygons id p, h'.polygons id p⟩
  have hlanelets : m.lanelets = m'.lanelets := SortedMap.ext_find? fun id =>
    Option.ext fun l => ⟨h.lanelets id l, h'.lanelets id l⟩
  have helements : m.regulatoryElements = m'.regulatoryElements := SortedMap.ext_find? fun id =>
    Option.ext fun e => ⟨h.regulatoryElements id e, h'.regulatoryElements id e⟩
  rw [RoadMap.mk.injEq]
  exact ⟨hpoints, hlineStrings, hpolygons, hlanelets, helements⟩

/-! ## Such parts are kept -/

namespace SelfSufficient

open Assembly

variable {g : RuleRegistry} {r c : RecordSet}

/-- `dropDuplicateIds` takes nothing of the part. -/
theorem within_dropDuplicateIds (h : SelfSufficient g r c) : c.Within r.dropDuplicateIds.1 := by
  have hunique : ∀ kind, ∀ id ∈ c.ids kind, id ∉ RecordSet.repeatedIds (r.ids kind) := by
    intro kind id hid hrepeated
    have hone := h.unique kind id hid
    have htwo := RecordSet.mem_repeatedIds.1 hrepeated
    omega
  refine ⟨fun n hn => ?_, fun w hw => ?_, fun x hx => ?_⟩
  · exact List.mem_filter.2 ⟨h.within.nodes hn,
      decide_eq_true (hunique .node n.id (List.mem_map_of_mem hn))⟩
  · exact List.mem_filter.2 ⟨h.within.ways hw,
      decide_eq_true (hunique .way w.id (List.mem_map_of_mem hw))⟩
  · exact List.mem_filter.2 ⟨h.within.relations hx,
      decide_eq_true (hunique .relation x.id (List.mem_map_of_mem hx))⟩

/-- The first clean-up takes nothing of the part. -/
theorem within_closed (h : SelfSufficient g r c) : c.Within (Assembly.closed r) :=
  RecordSet.within_pruneDangling h.closed h.within_dropDuplicateIds

/-- A `Closed` part of the closed records decides by itself what its relations become: their
`outcome` in the run is that under its own classes. -/
theorem outcome_of_within (hc : c.Within (Assembly.closed r)) (hclosed : c.Closed)
    {x : RelationRecord} (hx : x ∈ c.relations) :
    outcome g r x = BuiltRelation.ofRecord g (.ofRecords c) x := by
  have hdistinct := distinct_closed r
  refine BuiltRelation.ofRecord_congr (fun m hm => ?_) ?_
  · rw [Classes.reference_eq_typed, Classes.reference_eq_typed]
    exact (Classes.typed_of_within hdistinct hc (hclosed.relations x hx m hm)).symm
  · exact (Classes.mem_lanelets hdistinct (.refl _) (hc.relations hx)).trans
      (Classes.mem_lanelets hdistinct hc hx).symm

/-- Every relation of the part builds in the run. -/
theorem outcome_eq (h : SelfSufficient g r c) {x : RelationRecord} (hx : x ∈ c.relations) :
    outcome g r x = BuiltRelation.ofRecord g (.ofRecords c) x :=
  outcome_of_within h.within_closed h.closed hx

/-- Nothing of a `SelfSufficient` part is left out. -/
theorem within_kept (h : SelfSufficient g r c) : c.Within (kept g r) := by
  refine RecordSet.within_pruneDangling h.closed ⟨h.within_closed.nodes, h.within_closed.ways, ?_⟩
  intro x hx
  refine List.mem_filter.2 ⟨h.within_closed.relations hx, ?_⟩
  obtain ⟨b, hb⟩ := h.builds x hx
  exact (BuiltRelation.refusal?_isNone_iff g _).2 ⟨b, (h.outcome_eq hx).trans hb⟩

/-- A `SelfSufficient` part is in the map with all its data. -/
theorem carries (keeps : g.KeepsStores) (h : SelfSufficient g r c) :
    (Assembly.map g r).Carries g c where
  points n hn := (points_iff g r).2 ⟨n, h.within_kept.nodes hn, rfl⟩
  lineStrings w hw harea := (lineStrings_iff g r).2 ⟨w, h.within_kept.ways hw, harea, rfl⟩
  polygons w hw harea := (polygons_iff g r).2 ⟨w, h.within_kept.ways hw, harea, rfl⟩
  lanelets x hx hlanelet := by
    obtain ⟨b, hb⟩ := h.builds x hx
    have hmem := (Classes.mem_lanelets (distinct_closed r) h.within_closed hx).2 hlanelet
    cases b with
    | lanelet l =>
      have hdescribes := (BuiltRelation.ofRecord_eq_lanelet.1 hb).2
      exact ⟨l, (lanelets_iff g r).2 ⟨x, h.within_kept.relations hx,
        (h.outcome_eq hx).trans hb, hdescribes.id⟩, hdescribes⟩
    | element e => exact absurd hmem (BuiltRelation.ofRecord_eq_element.1 hb).1
  regulatoryElements x hx hlanelet := by
    obtain ⟨b, hb⟩ := h.builds x hx
    have hiff := Classes.mem_lanelets (distinct_closed r) h.within_closed hx
    cases b with
    | lanelet l =>
      have hmem := (BuiltRelation.ofRecord_eq_lanelet.1 hb).1
      exact absurd (hiff.1 hmem) (Bool.eq_false_iff.1 hlanelet)
    | element e =>
      obtain ⟨-, s, hs, he⟩ := BuiltRelation.ofRecord_eq_element.1 hb
      have hstore : e.store = s := keeps.upgrade he
      refine ⟨e, (regulatoryElements_iff g r keeps).2 ⟨x, h.within_kept.relations hx,
        (h.outcome_eq hx).trans hb, BuiltRelation.id_of_ofRecord keeps hb⟩, ?_, ?_⟩
      · rw [hstore]
        exact Classes.fills_of_roleStore hs
      · rw [hstore, he]

end SelfSufficient

/-! ## More records -/

namespace Assembly

variable {g : RuleRegistry} {r r' : RecordSet}

/-- What a run on `r` keeps is `SelfSufficient` also among the records `r'`, if those that `r'` adds
have identifiers of their own (`fresh`). -/
theorem selfSufficient_kept (within : r.Within r')
    (fresh : ∀ kind, ∀ id ∈ r.ids kind, (r'.ids kind).count id = (r.ids kind).count id) :
    SelfSufficient g r' (kept g r) where
  within := (kept_within g r).trans within
  unique kind id hid := by
    have hclosed := (kept_within_closed g r).ids kind hid
    have hunique := (RecordSet.pruneDangling_within _).ids kind hclosed
    rw [fresh kind id ((kept_within g r).ids kind hid)]
    exact r.mem_ids_dropDuplicateIds.1 hunique
  closed := kept_closed g r
  builds x hx := by
    obtain ⟨b, hb⟩ := outcome_of_mem_kept g r hx
    rw [SelfSufficient.outcome_of_within (kept_within_closed g r) (kept_closed g r) hx] at hb
    exact ⟨b, hb⟩

/-- Where one run keeps what another keeps, and the `outcome` of its relations is the same, its map
is `Part` of the other. -/
theorem part_of_within (keeps : g.KeepsStores) (hkept : (kept g r).Within (kept g r'))
    (houtcome : ∀ x ∈ (kept g r).relations, outcome g r' x = outcome g r x) :
    (map g r).Part (map g r') := by
  constructor
  · intro id p h
    obtain ⟨n, hn, heq⟩ := (points_iff g r).1 h
    exact (points_iff g r').2 ⟨n, hkept.nodes hn, heq⟩
  · intro id l h
    obtain ⟨w, hw, harea, heq⟩ := (lineStrings_iff g r).1 h
    exact (lineStrings_iff g r').2 ⟨w, hkept.ways hw, harea, heq⟩
  · intro id p h
    obtain ⟨w, hw, harea, heq⟩ := (polygons_iff g r).1 h
    exact (polygons_iff g r').2 ⟨w, hkept.ways hw, harea, heq⟩
  · intro id l h
    obtain ⟨x, hx, hbuilt, hid⟩ := (lanelets_iff g r).1 h
    exact (lanelets_iff g r').2 ⟨x, hkept.relations hx, (houtcome x hx).trans hbuilt, hid⟩
  · intro id e h
    obtain ⟨x, hx, hbuilt, hid⟩ := (regulatoryElements_iff g r keeps).1 h
    exact (regulatoryElements_iff g r' keeps).2
      ⟨x, hkept.relations hx, (houtcome x hx).trans hbuilt, hid⟩

/-- More records with identifiers of their own (`fresh`) change nothing that is in the map. -/
theorem map_part (keeps : g.KeepsStores) (within : r.Within r')
    (fresh : ∀ kind, ∀ id ∈ r.ids kind, (r'.ids kind).count id = (r.ids kind).count id) :
    (map g r).Part (map g r') := by
  have hself := selfSufficient_kept (g := g) within fresh
  refine part_of_within keeps hself.within_kept fun x hx => ?_
  rw [hself.outcome_eq hx, SelfSufficient.outcome_of_within (kept_within_closed g r)
    (kept_closed g r) hx]

end Assembly

namespace RoadMap

/-- Robust `ofRecords` is complete: it gives a map that `Carries` every `SelfSufficient` part of the
input. Records that are added to the input under identifiers of their own, however broken, leave
the map a `Part` of the new one. -/
theorem complete_of_ofRecords (g : RuleRegistry) (keeps : g.KeepsStores) (r : RecordSet) :
    ∃ m, (∀ messages, (ofRecords g .robust r messages).1 = .ok m) ∧
      (∀ c, SelfSufficient g r c → m.Carries g c) ∧
      ∀ r', r.Within r' →
        (∀ kind, ∀ id ∈ r.ids kind, (r'.ids kind).count id = (r.ids kind).count id) →
        ∃ m', (∀ messages, (ofRecords g .robust r' messages).1 = .ok m') ∧ m.Part m' := by
  have hrun : ∀ r messages, (ofRecords g .robust r messages).1 = .ok (Assembly.map g r) := by
    intro r messages
    rw [(Assembly.settles_ofRecords g r).robust]
  exact ⟨Assembly.map g r, hrun r, fun c hc => hc.carries keeps,
    fun r' within fresh => ⟨Assembly.map g r', hrun r', Assembly.map_part keeps within fresh⟩⟩

/-- The lanelet between two sound ways is in the map, next to a way that is not. -/
theorem complete_crossing :
    RuleRegistry.builtin.KeepsStores ∧ ∃ m,
      (∀ messages, (ofRecords .builtin .robust Assembly.crossing messages).1 = .ok m) ∧
      ∃ l, m.lanelets.find? 20 = some l ∧ l.left = 10 ∧ l.right = 11 := by
  have keeps := RuleRegistry.Grown.builtin.keepsStores
  have hpart : SelfSufficient .builtin Assembly.crossing
      (Assembly.kept .builtin Assembly.crossing) :=
    Assembly.selfSufficient_kept (.refl _) fun _ _ _ => rfl
  have hmem : Assembly.crossingLanelet ∈ (Assembly.kept .builtin Assembly.crossing).relations := by
    decide +kernel
  obtain ⟨m, hrun, hcarries, -⟩ := complete_of_ofRecords .builtin keeps Assembly.crossing
  obtain ⟨l, hfind, hl⟩ := (hcarries _ hpart).lanelets _ hmem (by decide +kernel)
  have hbounds : [Reference.lineString l.left, .lineString l.right] =
      [.lineString 10, .lineString 11] := by
    rw [← List.singleton_append, ← hl.left, ← hl.right]
    decide +kernel
  simp only [Reference.lineString, List.cons.injEq, Reference.mk.injEq, true_and, and_true]
    at hbounds
  exact ⟨keeps, m, hrun, l, hfind, hbounds⟩

end RoadMap

end RoadNet
