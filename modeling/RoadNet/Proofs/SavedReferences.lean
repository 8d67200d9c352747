import RoadNet.Proofs.Reassembled

/-!
# RoadNet.Proofs.SavedReferences

Where the references of a map go when it is saved.

In what a robust run writes, a reference names the record of the very element that it means,
except where that element gives way to an element of another layer with the same identifier
(`RoadMap.savesReferences`). The reference then names the record of that other element
(`RoadMap.redirected_sharedId`): the check of references looks at the map, where the element
that gives way still is, and the clean-up looks at the records, where the identifier is taken.
-/

namespace RoadNet

namespace RoadMap

variable {m : RoadMap}

/-- A record among the `saved` ones is the record of an element. -/
theorem exists_writes_of_mem_ids (keyed : m.Keyed) {kind : RecordKind} {id : Id}
    (h : id ∈ m.saved.ids kind) :
    ∃ ref : Reference, ref.kind.recordKind = kind ∧ ref.id = id ∧ m.Writes m.saved ref := by
  cases kind with
  | node =>
    obtain ⟨n, hn, rfl⟩ := List.mem_map.1 h
    obtain ⟨i, p, hp, rfl⟩ := mem_draft_nodes.1 (saved_within.nodes hn)
    exact ⟨⟨.point, i⟩, rfl, (keyed.points i p hp).symm, p, hp, hn⟩
  | way =>
    obtain ⟨w, hw, rfl⟩ := List.mem_map.1 h
    rcases (mem_draft_ways keyed).1 (saved_within.ways hw) with ⟨i, l, hl, rfl⟩ | ⟨i, p, hp, -, rfl⟩
    · exact ⟨⟨.lineString, i⟩, rfl, (keyed.lineStrings i l hl).symm, l, hl, hw⟩
    · exact ⟨⟨.polygon, i⟩, rfl, (keyed.polygons i p hp).symm, p, hp, hw⟩
  | relation =>
    obtain ⟨x, hx, rfl⟩ := List.mem_map.1 h
    rcases mem_draft_relations.1 (saved_within.relations hx) with
      ⟨i, l, hl, -, rfl⟩ | ⟨i, e, he, -, -, rfl⟩
    · exact ⟨⟨.lanelet, i⟩, rfl, (keyed.lanelets i l hl).symm, l, hl, hx⟩
    · exact ⟨⟨.regulatoryElement, i⟩, rfl, (keyed.regulatoryElements i e he).symm, e, he, hx⟩

/-- What robust `toRecords` writes of a map that adding elements makes (`added`). No two records of
a kind share an identifier, and each is the record of an element. The record of whatever an element
refers to is there, unless that is `Shadowed` by another layer. An element that is not written is
reported. If no element that is written refers to a shadowed one, strict `ofRecords` accepts the
records. -/
theorem savesReferences (g : RuleRegistry) (added : m.Added) (tags : m.Unmistakable)
    (accepted : m.Accepted g) :
    (∀ messages, m.toRecords .robust messages =
      (.ok m.saved, messages ++ m.saveFailures.map Failure.message)) ∧
    m.saved.Distinct ∧
    (∀ kind, ∀ id ∈ m.saved.ids kind,
      ∃ ref : Reference, ref.kind.recordKind = kind ∧ ref.id = id ∧ m.Writes m.saved ref) ∧
    (∀ ref, m.Writes m.saved ref → ∀ target ∈ m.referencesOf ref,
      (m.Writes m.saved target ↔ ¬m.Shadowed target)) ∧
    (∀ ref, m.contains ref = true → m.Writes m.saved ref ∨
      ∃ f ∈ m.saveFailures, f.record? = some (ref.kind.recordKind, ref.id)) ∧
    (m.Unshadowed m.saved →
      ∃ map, ∀ messages, ofRecords g .strict m.saved messages = (.ok map, messages)) := by
  have keyed := added.keyed
  refine ⟨fun messages => m.settles_toRecords.robust messages, keyed.distinct_saved,
    fun kind id h => exists_writes_of_mem_ids keyed h,
    fun ref h target htarget => writes_reference_iff tags keyed h htarget,
    fun ref h => writes_or_reported keyed h, fun unshadowed => ?_⟩
  exact ⟨_, Assembly.strict_of_flawless (flawless_saved tags keyed accepted unshadowed)⟩

/-- Only the rules of lanelets and the roles of regulatory elements can refer to what is
`Shadowed`. -/
theorem unshadowed_of_references {out : RecordSet}
    (hlanelets : ∀ id l, m.lanelets.find? id = some l →
      ∀ p ∈ laneletReferences l, ¬m.Shadowed p.2)
    (helements : ∀ id e, m.regulatoryElements.find? id = some e →
      ∀ p ∈ e.store.parameters, ¬m.Shadowed p.2) : m.Unshadowed out := by
  have hpoint : ∀ id, ¬m.Shadowed ⟨.point, id⟩ := fun id => by simp [Shadowed]
  rintro ⟨kind, id⟩ h target htarget
  cases kind with
  | point => exact absurd htarget List.not_mem_nil
  | lineString =>
    obtain ⟨l, hl, -⟩ := h
    rw [referencesOf_lineString hl, List.mem_map] at htarget
    obtain ⟨p, -, rfl⟩ := htarget
    exact hpoint p
  | polygon =>
    obtain ⟨q, hq, -⟩ := h
    rw [referencesOf_polygon hq, List.mem_map] at htarget
    obtain ⟨p, -, rfl⟩ := htarget
    exact hpoint p
  | lanelet =>
    obtain ⟨l, hl, -⟩ := h
    rw [referencesOf_lanelet hl, List.mem_map] at htarget
    obtain ⟨p, hp, rfl⟩ := htarget
    exact hlanelets id l hl p hp
  | regulatoryElement =>
    obtain ⟨e, he, -⟩ := h
    rw [referencesOf_regulatoryElement he, List.mem_map] at htarget
    obtain ⟨p, hp, rfl⟩ := htarget
    exact helements id e he p hp

/-! ## A shared identifier -/

/-- A line string and a polygon under one identifier, a lanelet that misses a bound, and a
regulatory element that refers to a given element. -/
def sharedId (target : Reference) : RoadMap :=
  ((((empty.addPoint ⟨1, ⟨0, 0, 0⟩, .empty⟩).addLineString ⟨5, [1], .empty⟩).addPolygon
    ⟨5, [1], .empty⟩).addLanelet ⟨8, 5, 6, [], .empty⟩).addElement
      (.generic ((RoleStore.ofAttributes 7 .empty).setSingle RoleName.refers target))

theorem added_sharedId (target : Reference) : (sharedId target).Added :=
  ((((Added.empty.point _).lineString _).polygon _).lanelet _).element _ ((RoleStore.Reached.new 7
    .empty).setSingle _ _)

theorem unmistakable_sharedId (target : Reference) : (sharedId target).Unmistakable where
  lineStrings := forall_find?_insert forall_find?_empty (by decide)
  regulatoryElements := forall_find?_insert forall_find?_empty rfl

theorem accepted_sharedId (target : Reference) : (sharedId target).Accepted .builtin :=
  forall_find?_insert forall_find?_empty rfl

/-- In `sharedId` a reference to the line string is kept and the records assemble, although the
polygon gives way and the lanelet is left out. -/
theorem savesReferences_sharedId :
    (sharedId (.lineString 5)).saveFailures.length = 2 ∧
      (sharedId (.lineString 5)).Writes (sharedId (.lineString 5)).saved (.lineString 5) ∧
      ∃ map, ∀ messages, ofRecords .builtin .strict (sharedId (.lineString 5)).saved messages =
        (.ok map, messages) := by
  obtain ⟨-, -, -, hiff, -, haccept⟩ := savesReferences .builtin
    (added_sharedId (.lineString 5)) (unmistakable_sharedId _) (accepted_sharedId _)
  have hwrites : (sharedId (.lineString 5)).Writes (sharedId (.lineString 5)).saved
      (.regulatoryElement 7) := ⟨_, rfl, by decide +kernel⟩
  have hfree : ∀ id, ¬(sharedId (.lineString 5)).Shadowed (.lineString id) := fun id => by
    simp [Shadowed, Reference.lineString]
  refine ⟨by decide +kernel, (hiff _ hwrites _ (by decide +kernel)).2 (hfree 5),
    haccept (unshadowed_of_references ?_ ?_)⟩
  · refine forall_find?_insert forall_find?_empty ?_
    exact List.forall_mem_cons.2 ⟨hfree 5, List.forall_mem_singleton.2 (hfree 6)⟩
  · exact forall_find?_insert forall_find?_empty (List.forall_mem_singleton.2 (hfree 5))

/-- A reference to the polygon is kept too, but no record of the polygon is there, and the member
that stands for the reference names the line string. -/
theorem redirected_sharedId :
    ∃ m : RoadMap, m.Added ∧ m.Unmistakable ∧ m.Accepted .builtin ∧
      ∃ out messages, m.toRecords .robust [] = (.ok out, messages) ∧
        ∃ ref target : Reference, m.Writes out ref ∧ target ∈ m.referencesOf ref ∧
          m.contains target = true ∧ ¬m.Writes out target ∧
          (Classes.ofRecords out).typed target.kind.recordKind target.id =
            .lineString target.id := by
  have tags := unmistakable_sharedId ⟨.polygon, 5⟩
  have keyed := (added_sharedId ⟨.polygon, 5⟩).keyed
  refine ⟨sharedId ⟨.polygon, 5⟩, added_sharedId _, tags, accepted_sharedId _, _, _,
    (sharedId ⟨.polygon, 5⟩).settles_toRecords.robust [], .regulatoryElement 7, ⟨.polygon, 5⟩,
    ⟨_, rfl, by decide +kernel⟩, by decide +kernel, by decide +kernel, ?_, by decide +kernel⟩
  exact not_writes_of_shadowed tags keyed saved_within (.inl ⟨rfl, by decide +kernel⟩)

end RoadMap

end RoadNet
