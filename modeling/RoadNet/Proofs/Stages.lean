import Mathlib.Data.List.Perm.Subperm
import RoadNet.Proofs.Duplicates
import RoadNet.Proofs.Layers
import RoadNet.Proofs.Pruning

/-!
# RoadNet.Proofs.Stages

Assembly as a chain of plain functions. The records that are left after each stage, what each
relation becomes, the final map and the failures on the way depend on the records and the rules
alone, not on the policy.

* `settles_ofRecords` — a run of `RoadMap.ofRecords` comes across `failures g r` and results in
  `map g r`;
* `distinct_kept`, `kept_closed`, `kept_within` — the records of `kept g r`, of which the map is
  made, have no identifier twice, miss none that they name, and are part of the input;
* `relations_kept`, `entries_kept` — the relations of `kept g r`, and what is built of them, are
  those of `buildable g r` that the second clean-up has not `lost`.
-/

namespace RoadNet

/-! ## Sublists with distinct keys -/

/-- Where keys are distinct, a sublist is the `filter` of the list by its keys. -/
theorem eq_filter_of_sublist {key : α → Id} {s l : List α} (h : s.Sublist l)
    (nodup : (l.map key).Nodup) : s = l.filter fun x => key x ∈ s.map key := by
  have hself : (s.filter fun x => key x ∈ s.map key) = s :=
    List.filter_eq_self.2 fun x hx => decide_eq_true (List.mem_map_of_mem hx)
  have hsub : s.Sublist (l.filter fun x => key x ∈ s.map key) := by
    have hfilter := h.filter fun x => key x ∈ s.map key
    rwa [hself] at hfilter
  have hkeys : (l.filter fun x => key x ∈ s.map key).map key ⊆ s.map key := by
    intro k hk
    obtain ⟨x, hx, rfl⟩ := List.mem_map.1 hk
    exact of_decide_eq_true (List.mem_filter.1 hx).2
  refine hsub.eq_of_length_le ?_
  have hle := ((nodup.sublist (List.filter_sublist.map key)).subperm hkeys).length_le
  rwa [List.length_map, List.length_map] at hle

/-- Where keys are distinct, an element of a part is told by its key to have a property. -/
theorem mem_keys_filter {key : α → Id} {s l : List α} (nodup : (l.map key).Nodup) (hs : s ⊆ l)
    {p : α → Bool} {x : α} (hx : x ∈ s) : key x ∈ (s.filter p).map key ↔ p x = true := by
  rw [List.mem_map]
  constructor
  · rintro ⟨y, hy, heq⟩
    obtain ⟨hys, hpy⟩ := List.mem_filter.1 hy
    rwa [← List.inj_on_of_nodup_map nodup (hs hys) (hs hx) heq]
  · exact fun hp => ⟨x, List.mem_filter.2 ⟨hx, hp⟩, rfl⟩

/-- Where keys are distinct, taking out the elements for which `p` holds by their keys takes out no
other element. -/
theorem filter_not_mem_keys {key : α → Id} {l : List α} (nodup : (l.map key).Nodup)
    (p : α → Bool) :
    (l.filter fun x => key x ∉ (l.filter p).map key) = l.filter fun x => !p x := by
  refine List.filter_congr fun x hx => ?_
  simp [mem_keys_filter nodup (List.Subset.refl l) hx]

/-! ## Building relations -/

namespace BuiltRelation

variable (g : RuleRegistry) (c : Classes)

/-- What `ofRecord` makes of a relation, with the identifier of the record, unless it fails. -/
def product? (x : RelationRecord) : Option (Id × BuiltRelation) :=
  (ofRecord g c x).toOption.map fun b => (x.id, b)

/-- The failure of a relation that `ofRecord` does not build. -/
def refusal? (x : RelationRecord) : Option Failure :=
  match ofRecord g c x with
  | .ok _ => none
  | .error fault => some (.recordFailed .relation x.id fault)

/-- A relation has a `product?` exactly if it builds. -/
theorem product?_eq_some {x : RelationRecord} {p : Id × BuiltRelation} :
    product? g c x = some p ↔ ofRecord g c x = .ok p.2 ∧ p.1 = x.id := by
  rw [product?, Option.map_eq_some_iff]
  simp only [toOption_eq_some]
  constructor
  · rintro ⟨b, hb, rfl⟩
    exact ⟨hb, rfl⟩
  · rintro ⟨hb, hid⟩
    exact ⟨p.2, hb, Prod.ext hid.symm rfl⟩

/-- A relation has no `refusal?` exactly if it builds. -/
theorem refusal?_isNone_iff {x : RelationRecord} :
    (refusal? g c x).isNone = true ↔ ∃ b, ofRecord g c x = .ok b := by
  unfold refusal?
  cases ofRecord g c x <;> simp

/-- A `refusal?` is the `recordFailed` of the relation with the fault of `ofRecord`. -/
theorem refusal?_eq_some {x : RelationRecord} {f : Failure} (h : refusal? g c x = some f) :
    ∃ fault, ofRecord g c x = .error fault ∧ f = .recordFailed .relation x.id fault := by
  unfold refusal? at h
  cases hx : ofRecord g c x with
  | ok b =>
    rw [hx] at h
    cases h
  | error fault =>
    rw [hx] at h
    exact ⟨fault, rfl, (Option.some.inj h).symm⟩

/-- `buildAll` goes on after each failure: it comes across every `refusal?` and results in every
`product?`. -/
theorem settles_buildAll (relations : List RelationRecord) :
    Settles (fun policy => buildAll g policy c relations) (relations.filterMap (refusal? g c))
      (.ok (relations.filterMap (product? g c),
        (relations.filter fun x => !(refusal? g c x).isNone).map (·.id))) := by
  induction relations with
  | nil => exact settles_pure _
  | cons x rest ih =>
    cases hx : ofRecord g c x with
    | ok b =>
      have hproduct : product? g c x = some (x.id, b) := (product?_eq_some g c).2 ⟨hx, rfl⟩
      have hnone : refusal? g c x = none := by rw [refusal?, hx]
      have hrun : (fun policy => buildAll g policy c (x :: rest)) = fun policy =>
          buildAll g policy c rest >>= fun p => pure ((x.id, b) :: p.1, p.2) := by
        funext policy
        rw [buildAll, hx]
      rw [List.filterMap_cons_none hnone, List.filterMap_cons_some hproduct,
        List.filter_cons_of_neg (by rw [hnone]; exact Bool.noConfusion), hrun]
      exact ih.map fun p => ((x.id, b) :: p.1, p.2)
    | error fault =>
      have hproduct : product? g c x = none := by rw [product?, hx]; rfl
      have hsome : refusal? g c x = some (.recordFailed .relation x.id fault) := by
        rw [refusal?, hx]
      have hrun : (fun policy => buildAll g policy c (x :: rest)) = fun policy =>
          policy.report (.recordFailed .relation x.id fault) >>= fun _ =>
            buildAll g policy c rest >>= fun p => pure (p.1, x.id :: p.2) := by
        funext policy
        rw [buildAll, hx]
      rw [List.filterMap_cons_some hsome, List.filterMap_cons_none hproduct,
        List.filter_cons_of_pos (by rw [hsome]; rfl), hrun]
      have hreport : Settles
          (fun policy => policy.report (.recordFailed .relation x.id fault)) [_] (.ok ()) :=
        settles_report rfl
      exact hreport.bind (ih.map fun p => (p.1, x.id :: p.2))

end BuiltRelation

/-! ## The stages -/

namespace Assembly

variable (g : RuleRegistry) (r : RecordSet)

/-- The records that `dropDuplicateIds` and the first `pruneDangling` leave. -/
def closed : RecordSet := r.dropDuplicateIds.1.pruneDangling.1

/-- The classes by which relations are built, those of the `closed` records. -/
def classes : Classes := .ofRecords (closed r)

/-- What a relation becomes, or why it fails. -/
def outcome (x : RelationRecord) : Except Fault BuiltRelation :=
  BuiltRelation.ofRecord g (classes r) x

/-- The relations of the `closed` records that do not build, by identifier. -/
def refused : List Id :=
  ((closed r).relations.filter fun x =>
    !(BuiltRelation.refusal? g (classes r) x).isNone).map (·.id)

/-- What is built of the relations of the `closed` records, with identifiers. -/
def entries : List (Id × BuiltRelation) :=
  (closed r).relations.filterMap (BuiltRelation.product? g (classes r))

/-- The relations among removals, by identifier. -/
def lost (removals : List RecordSet.Removal) : List Id :=
  (removals.filter (·.kind = .relation)).map (·.id)

/-- The `closed` records without the relations that fail. -/
def buildable : RecordSet :=
  { closed r with
    relations := (closed r).relations.filter fun x =>
      (BuiltRelation.refusal? g (classes r) x).isNone }

/-- The records that end up in the map: what a second `pruneDangling` leaves of the `buildable`
ones. -/
def kept : RecordSet := (buildable g r).pruneDangling.1

/-- The map of the `kept` records. -/
def map : RoadMap :=
  .ofParts (classes r) (kept g r)
    ((kept g r).relations.filterMap (BuiltRelation.product? g (classes r)))

/-- The failures of relations that do not build. -/
def refusals : List Failure :=
  (closed r).relations.filterMap (BuiltRelation.refusal? g (classes r))

/-- The failures of a run, in order: repeated identifiers, dangling references, `refusals`, and
references that dangle without what was refused. -/
def failures : List Failure :=
  r.dropDuplicateIds.2 ++ (r.dropDuplicateIds.1.pruneDangling.2.map RecordSet.Removal.failure ++
    (refusals g r ++ (buildable g r).pruneDangling.2.map RecordSet.Removal.failure))

/-! ## What the stages keep -/

theorem distinct_closed : (closed r).Distinct := r.distinct_dropDuplicateIds.pruneDangling

/-- No reference of the `closed` records dangles. -/
theorem closed_closed : (closed r).Closed := RecordSet.pruneDangling_closed _

theorem closed_within : (closed r).Within r :=
  (RecordSet.pruneDangling_within _).trans r.within_dropDuplicateIds

theorem buildable_sublists : (buildable g r).Sublists (closed r) :=
  ⟨List.Sublist.refl _, List.Sublist.refl _, List.filter_sublist⟩

theorem distinct_buildable : (buildable g r).Distinct :=
  (buildable_sublists g r).distinct (distinct_closed r)

theorem buildable_within : (buildable g r).Within (closed r) := (buildable_sublists g r).within

theorem distinct_kept : (kept g r).Distinct := (distinct_buildable g r).pruneDangling

/-- No reference of the `kept` records dangles. -/
theorem kept_closed : (kept g r).Closed := RecordSet.pruneDangling_closed _

theorem kept_within_closed : (kept g r).Within (closed r) :=
  (RecordSet.pruneDangling_within _).trans (buildable_within g r)

/-- The `kept` records are records of `r`. -/
theorem kept_within : (kept g r).Within r := (kept_within_closed g r).trans (closed_within r)

/-- Every `kept` relation builds. -/
theorem outcome_of_mem_kept {x : RelationRecord} (hx : x ∈ (kept g r).relations) :
    ∃ b, outcome g r x = .ok b := by
  have hbuild := (RecordSet.pruneDangling_within (buildable g r)).relations hx
  exact (BuiltRelation.refusal?_isNone_iff g _).1 (List.mem_filter.1 hbuild).2

/-! ## The run -/

/-- A relation is `lost` exactly if one of the removals is about it. -/
theorem mem_lost {removals : List RecordSet.Removal} {id : Id} :
    id ∈ lost removals ↔
      0 < Failure.mentions (removals.map RecordSet.Removal.failure) .relation id := by
  rw [Failure.mentions, List.countP_pos_iff, lost]
  simp only [List.mem_map, List.mem_filter, decide_eq_true_eq]
  constructor
  · rintro ⟨y, ⟨hy, hkind⟩, hid⟩
    exact ⟨y.failure, ⟨y, hy, rfl⟩, by rw [RecordSet.Removal.record?_failure, hkind, hid]⟩
  · rintro ⟨f, ⟨y, hy, rfl⟩, hrecord⟩
    obtain ⟨hkind, hid⟩ := Prod.mk.inj (Option.some.inj hrecord)
    exact ⟨y, ⟨hy, hkind⟩, hid⟩

/-- The relations that the second clean-up drops are found by their identifiers (`lost`). -/
theorem relations_kept :
    (kept g r).relations =
      (buildable g r).relations.filter fun x => x.id ∉ lost (buildable g r).pruneDangling.2 := by
  have hsub : (kept g r).relations.Sublist (buildable g r).relations :=
    RecordSet.pruneRelations_sublist _ _ _
  have hdrops := RecordSet.drops_pruneDangling (fun _ => False) (distinct_buildable g r)
  refine (eq_filter_of_sublist hsub (distinct_buildable g r .relation)).trans
    (List.filter_congr fun x hx => decide_eq_decide.2 ?_)
  have hmem : x.id ∈ (buildable g r).ids .relation := List.mem_map_of_mem hx
  change x.id ∈ (kept g r).ids .relation ↔ _
  rw [mem_lost]
  rcases hdrops.present_or_named hmem with ⟨hin, hzero⟩ | ⟨hout, hone⟩
  · exact ⟨fun _ => by omega, fun _ => hin⟩
  · exact ⟨fun hin => absurd hin hout, fun hnot => by omega⟩

/-- The `entries` that are not `lost` are what the `kept` relations become. -/
theorem entries_kept :
    (entries g r).filter (fun p => p.1 ∉ lost (buildable g r).pruneDangling.2) =
      (kept g r).relations.filterMap (BuiltRelation.product? g (classes r)) := by
  rw [relations_kept, buildable, List.filter_filter, List.filterMap_filter, entries,
    List.filter_filterMap]
  refine List.filterMap_congr fun x _ => ?_
  cases hx : BuiltRelation.ofRecord g (classes r) x with
  | ok b =>
    have hproduct : BuiltRelation.product? g (classes r) x = some (x.id, b) :=
      (BuiltRelation.product?_eq_some g _).2 ⟨hx, rfl⟩
    have hnone : BuiltRelation.refusal? g (classes r) x = none := by
      rw [BuiltRelation.refusal?, hx]
    simp [hproduct, hnone, Option.filter]
  | error fault =>
    have hproduct : BuiltRelation.product? g (classes r) x = none := by
      rw [BuiltRelation.product?, hx]
      rfl
    simp [hproduct]

/-- Where every relation builds (`refused` is empty), there is nothing left to clean up. -/
theorem pruneDangling_of_refused_eq_nil (h : refused g r = []) :
    (buildable g r).pruneDangling = (closed r, []) := by
  have hall : ∀ x ∈ (closed r).relations,
      (BuiltRelation.refusal? g (classes r) x).isNone = true := by
    intro x hx
    have hnot := List.filter_eq_nil_iff.1 (List.map_eq_nil_iff.1 h) x hx
    simpa using hnot
  rw [buildable, List.filter_eq_self.2 hall, (closed_closed r).pruneDangling]

/-- The end of `ofRecords`, once the relations are built. -/
theorem settles_cleanUp :
    Settles (fun policy =>
        if (refused g r).isEmpty then pure (.ofParts (classes r) (closed r) (entries g r))
        else
          RecordSet.prune policy { closed r with
            relations := (closed r).relations.filter (·.id ∉ refused g r) } >>= fun p =>
          pure (.ofParts (classes r) p.1 ((entries g r).filter (·.1 ∉ lost p.2))))
      ((buildable g r).pruneDangling.2.map RecordSet.Removal.failure) (.ok (map g r)) := by
  have hentries := entries_kept g r
  by_cases hempty : refused g r = []
  · have hnone := pruneDangling_of_refused_eq_nil g r hempty
    have hkept : kept g r = closed r := by rw [kept, hnone]
    have hmap : map g r = .ofParts (classes r) (closed r) (entries g r) := by
      rw [map, ← hentries, hkept, hnone]
      simp [lost]
    simp only [hempty, List.isEmpty_nil, if_true, hnone, List.map_nil, hmap]
    exact settles_pure _
  · have hrest : { closed r with
        relations := (closed r).relations.filter (·.id ∉ refused g r) } = buildable g r := by
      rw [refused, filter_not_mem_keys (distinct_closed r .relation), buildable]
      simp only [Bool.not_not]
    have hmap : map g r = .ofParts (classes r) (buildable g r).pruneDangling.1
        ((entries g r).filter (·.1 ∉ lost (buildable g r).pruneDangling.2)) := by
      rw [map, ← hentries, kept]
    have hne : ¬(refused g r).isEmpty = true := fun h => hempty (List.isEmpty_iff.1 h)
    simp only [if_neg hne, hrest, hmap]
    exact (buildable g r).settles_prune.map fun p =>
      RoadMap.ofParts (classes r) p.1 ((entries g r).filter (·.1 ∉ lost p.2))

/-- `ofRecords` comes across the `failures` of the stages and results in their `map`. -/
theorem settles_ofRecords :
    Settles (fun policy => RoadMap.ofRecords g policy r) (failures g r) (.ok (map g r)) :=
  r.settles_dropDuplicates.bind (r.dropDuplicateIds.1.settles_prune.bind
    ((BuiltRelation.settles_buildAll g (classes r) (closed r).relations).bind
      (settles_cleanUp g r)))

end Assembly

end RoadNet
