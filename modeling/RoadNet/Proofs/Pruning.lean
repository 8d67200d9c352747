import RoadNet.Proofs.Records
import RoadNet.Proofs.Reporting

/-!
# RoadNet.Proofs.Pruning

Dropping the records that refer to missing ones leaves the greatest closed part of a record
set.

* `pruneDangling_closed` — no reference of what is left dangles;
* `within_pruneDangling`, `sublists_pruneDangling` — whatever is closed in itself is left,
  reference cycles included;
* `pruneDangling_sublists` — what is left keeps its order;
* `drops_pruneDangling` — every record that goes is reported once, after the record it misses.

Relations go in rounds. `pruneRelations_rounds` is the one induction over them: each property
is proved of a list that no round changes and carried over one round.
-/

namespace RoadNet

/-- The `placeholder` of a member is of its kind of record. -/
@[simp] theorem Member.recordKind_placeholder (m : Member) :
    m.placeholder.kind.recordKind = m.kind := by
  rcases m with ⟨role, kind, id⟩
  cases kind <;> rfl

@[simp] theorem Member.id_placeholder (m : Member) : m.placeholder.id = m.id := by
  rcases m with ⟨role, kind, id⟩
  cases kind <;> rfl

namespace RecordSet

/-! ## Single removals -/

/-- The `Removal` of a way names a node that is not there. -/
theorem wayRemoval?_eq_some {nodes : List Id} {w : WayRecord} {y : Removal}
    (h : wayRemoval? nodes w = some y) :
    ∃ id ∈ w.nodes, id ∉ nodes ∧ y = ⟨.way, w.id, "nodes", ⟨.point, id⟩⟩ := by
  obtain ⟨id, hid, rfl⟩ := Option.map_eq_some_iff.1 h
  exact ⟨id, List.mem_of_find?_eq_some hid, by simpa using List.find?_some hid, rfl⟩

/-- A way has no `Removal` exactly if all of its nodes are there. -/
theorem wayRemoval?_isNone_iff {nodes : List Id} {w : WayRecord} :
    (wayRemoval? nodes w).isNone = true ↔ w.nodes ⊆ nodes := by
  rw [Option.isNone_iff_eq_none, wayRemoval?, Option.map_eq_none_iff, List.find?_eq_none]
  simp [List.subset_def]

/-- The `Removal` of a relation names a member that is not there. -/
theorem relationRemoval?_eq_some {nodes ways relations : List Id} {x : RelationRecord}
    {y : Removal} (h : relationRemoval? nodes ways relations x = some y) :
    ∃ m ∈ x.members, isListed nodes ways relations m = false ∧
      y = ⟨.relation, x.id, m.role, m.placeholder⟩ := by
  obtain ⟨m, hm, rfl⟩ := Option.map_eq_some_iff.1 h
  exact ⟨m, List.mem_of_find?_eq_some hm, by simpa using List.find?_some hm, rfl⟩

/-- A relation `stays` in a round exactly if all of its members are listed. -/
theorem stays_iff {nodes ways : List Id} {relations : List RelationRecord}
    {x : RelationRecord} :
    stays nodes ways relations x = true ↔
      ∀ m ∈ x.members, isListed nodes ways (relations.map (·.id)) m = true := by
  rw [stays, Option.isNone_iff_eq_none, relationRemoval?, Option.map_eq_none_iff,
    List.find?_eq_none]
  simp

/-! ## Rounds over relations -/

/-- Induction over the rounds of `pruneRelations`: no round changes the list any more (`stable`), or
a `round` leaves the relations that stay and the rounds after it do the rest. -/
theorem pruneRelations_rounds {nodes ways : List Id}
    {motive : List RelationRecord → List RelationRecord → List Removal → Prop}
    (stable : ∀ relations, (∀ x ∈ relations, stays nodes ways relations x = true) →
      motive relations relations [])
    (round : ∀ relations final later,
      motive (relations.filter (stays nodes ways relations)) final later →
      motive relations final
        (relations.filterMap (relationRemoval? nodes ways (relations.map (·.id))) ++ later))
    (relations : List RelationRecord) :
    motive relations (pruneRelations nodes ways relations).1
      (pruneRelations nodes ways relations).2 := by
  rw [pruneRelations]
  split
  next fewer =>
    exact round relations _ _
      (pruneRelations_rounds stable round (relations.filter (stays nodes ways relations)))
  next notFewer =>
    refine stable relations (List.length_filter_eq_length_iff.1 ?_)
    have hle := List.length_filter_le (stays nodes ways relations) relations
    omega
termination_by relations.length
decreasing_by assumption

/-- Where every relation `stays`, no round drops any. -/
theorem pruneRelations_of_stays {nodes ways : List Id} {relations : List RelationRecord}
    (h : ∀ x ∈ relations, stays nodes ways relations x = true) :
    pruneRelations nodes ways relations = (relations, []) := by
  rw [pruneRelations, dif_neg]
  rw [List.length_filter_eq_length_iff.2 h]
  exact Nat.lt_irrefl _

theorem pruneRelations_sublist (nodes ways : List Id) (relations : List RelationRecord) :
    (pruneRelations nodes ways relations).1.Sublist relations :=
  pruneRelations_rounds (motive := fun relations final _ => final.Sublist relations)
    (fun relations _ => List.Sublist.refl relations)
    (fun _ _ _ ih => ih.trans List.filter_sublist) relations

/-- What `pruneRelations` leaves stays among what it leaves. -/
theorem stays_of_mem_pruneRelations {nodes ways : List Id} {relations : List RelationRecord}
    {x : RelationRecord} (hx : x ∈ (pruneRelations nodes ways relations).1) :
    stays nodes ways (pruneRelations nodes ways relations).1 x = true :=
  pruneRelations_rounds
    (motive := fun _ final _ => ∀ x ∈ final, stays nodes ways final x = true)
    (fun _ hstays => hstays) (fun _ _ _ ih => ih) relations x hx

/-- A relation that `stays` among some relations stays among more of them. -/
theorem stays_of_subset {nodes ways : List Id} {part relations : List RelationRecord}
    (hsub : part ⊆ relations) {x : RelationRecord} (h : stays nodes ways part x = true) :
    stays nodes ways relations x = true := by
  refine stays_iff.2 fun m hm => ?_
  have hlisted := stays_iff.1 h m hm
  rcases m with ⟨role, kind, id⟩
  cases kind with
  | relation =>
    simp only [isListed, decide_eq_true_eq] at hlisted ⊢
    exact List.map_subset _ hsub hlisted
  | _ => exact hlisted

/-- Relations that stay among themselves (`hstays`) stay in every round. -/
theorem subset_pruneRelations {nodes ways : List Id} {part relations : List RelationRecord}
    (hstays : ∀ x ∈ part, stays nodes ways part x = true) (hsub : part ⊆ relations) :
    part ⊆ (pruneRelations nodes ways relations).1 :=
  pruneRelations_rounds (motive := fun relations final _ => part ⊆ relations → part ⊆ final)
    (fun _ _ hsub => hsub) (fun _ _ _ ih hsub => ih fun x hx =>
      List.mem_filter.2 ⟨hsub hx, stays_of_subset hsub (hstays x hx)⟩) relations hsub

/-- They also stay as often as they are there, and in their order. -/
theorem sublist_pruneRelations {nodes ways : List Id} {part relations : List RelationRecord}
    (hstays : ∀ x ∈ part, stays nodes ways part x = true) (hsub : part.Sublist relations) :
    part.Sublist (pruneRelations nodes ways relations).1 := by
  refine pruneRelations_rounds
    (motive := fun relations final _ => part.Sublist relations → part.Sublist final)
    (fun _ _ hsub => hsub) (fun relations final later ih hsub => ih ?_) relations hsub
  have hall : part.filter (stays nodes ways relations) = part :=
    List.filter_eq_self.2 fun x hx => stays_of_subset hsub.subset (hstays x hx)
  exact hall ▸ hsub.filter _

/-- Rounds that drop nothing leave every relation. -/
theorem pruneRelations_eq_self {nodes ways : List Id} (relations : List RelationRecord) :
    (pruneRelations nodes ways relations).2 = [] →
      (pruneRelations nodes ways relations).1 = relations := by
  refine pruneRelations_rounds
    (motive := fun relations final removals => removals = [] → final = relations)
    (fun _ _ _ => rfl) (fun relations final later ih h => ?_) relations
  obtain ⟨hround, hlater⟩ := List.append_eq_nil_iff.1 h
  rw [ih hlater]
  refine List.filter_eq_self.2 fun x hx => ?_
  rw [stays, List.filterMap_eq_nil_iff.1 hround x hx]
  rfl

/-! ## The closed part -/

variable {r s : RecordSet}

@[simp] theorem nodes_pruneDangling (r : RecordSet) : r.pruneDangling.1.nodes = r.nodes := rfl

/-- `pruneDangling` keeps the ways without a `Removal`. -/
theorem ways_pruneDangling (r : RecordSet) :
    r.pruneDangling.1.ways = r.ways.filter fun w => (wayRemoval? r.nodeIds w).isNone := rfl

theorem relations_pruneDangling (r : RecordSet) :
    r.pruneDangling.1.relations =
      (pruneRelations r.nodeIds r.pruneDangling.1.wayIds r.relations).1 := rfl

/-- `pruneDangling` leaves records in the order of `r`. -/
theorem pruneDangling_sublists (r : RecordSet) : r.pruneDangling.1.Sublists r :=
  ⟨List.Sublist.refl _, List.filter_sublist, pruneRelations_sublist _ _ _⟩

theorem pruneDangling_within (r : RecordSet) : r.pruneDangling.1.Within r :=
  r.pruneDangling_sublists.within

theorem Distinct.pruneDangling (h : r.Distinct) : r.pruneDangling.1.Distinct :=
  r.pruneDangling_sublists.distinct h

/-- No reference of what `pruneDangling` leaves dangles. -/
theorem pruneDangling_closed (r : RecordSet) : r.pruneDangling.1.Closed where
  ways w hw := by
    rw [ways_pruneDangling, List.mem_filter] at hw
    exact wayRemoval?_isNone_iff.1 hw.2
  relations x hx m hm := by
    rw [relations_pruneDangling] at hx
    exact (isListed_iff _ m).1 (stays_iff.1 (stays_of_mem_pruneRelations hx) m hm)

/-- `pruneDangling` keeps the ways of every `Closed` part. -/
theorem ways_subset_pruneDangling (hs : s.Closed) (h : s.Within r) :
    s.ways ⊆ r.pruneDangling.1.ways := by
  intro w hw
  rw [ways_pruneDangling, List.mem_filter]
  refine ⟨h.ways hw, wayRemoval?_isNone_iff.2 fun id hid => ?_⟩
  exact h.ids .node (hs.ways w hw id hid)

/-- The relations of a `Closed` part stay among themselves. -/
theorem stays_pruneDangling (hs : s.Closed) (h : s.Within r) {x : RelationRecord}
    (hx : x ∈ s.relations) :
    stays r.nodeIds r.pruneDangling.1.wayIds s.relations x = true := by
  refine stays_iff.2 fun m hm => ?_
  have hid := hs.relations x hx m hm
  rcases m with ⟨role, kind, id⟩
  cases kind with
  | node => exact decide_eq_true (h.ids .node hid)
  | way => exact decide_eq_true (List.map_subset _ (ways_subset_pruneDangling hs h) hid)
  | relation => exact decide_eq_true hid

/-- Every `Closed` part of a record set is left. -/
theorem within_pruneDangling (hs : s.Closed) (h : s.Within r) : s.Within r.pruneDangling.1 :=
  ⟨h.nodes, ways_subset_pruneDangling hs h,
    subset_pruneRelations (fun _ hx => stays_pruneDangling hs h hx) h.relations⟩

/-- It is left with its records as often as they are there, and in their order. -/
theorem sublists_pruneDangling (hs : s.Closed) (h : s.Sublists r) :
    s.Sublists r.pruneDangling.1 := by
  refine ⟨h.nodes, ?_, sublist_pruneRelations
    (fun _ hx => stays_pruneDangling hs h.within hx) h.relations⟩
  have hall : s.ways.filter (fun w => (wayRemoval? r.nodeIds w).isNone) = s.ways :=
    List.filter_eq_self.2 fun w hw =>
      (List.mem_filter.1 (ways_subset_pruneDangling hs h.within hw)).2
  exact hall ▸ h.ways.filter _

/-- `pruneDangling` takes nothing from a `Closed` set. -/
theorem Closed.pruneDangling (h : r.Closed) : r.pruneDangling = (r, []) := by
  have hnone : ∀ w ∈ r.ways, (wayRemoval? r.nodeIds w).isNone = true := fun w hw =>
    wayRemoval?_isNone_iff.2 (h.ways w hw)
  have hways : r.ways.filter (fun w => (wayRemoval? r.nodeIds w).isNone) = r.ways :=
    List.filter_eq_self.2 hnone
  have hremovals : r.ways.filterMap (wayRemoval? r.nodeIds) = [] :=
    List.filterMap_eq_nil_iff.2 fun w hw => Option.isNone_iff_eq_none.1 (hnone w hw)
  have hstays : ∀ x ∈ r.relations, stays r.nodeIds r.wayIds r.relations x = true :=
    fun x hx => stays_iff.2 fun m hm => (isListed_iff r m).2 (h.relations x hx m hm)
  have hrelations : pruneRelations r.nodeIds r.wayIds r.relations = (r.relations, []) :=
    pruneRelations_of_stays hstays
  rw [RecordSet.pruneDangling, hways, hremovals]
  change (⟨r.nodes, r.ways, (pruneRelations r.nodeIds r.wayIds r.relations).1⟩,
    [] ++ (pruneRelations r.nodeIds r.wayIds r.relations).2) = (r, [])
  rw [hrelations]
  rfl

/-- If `pruneDangling` drops nothing, it leaves everything. -/
theorem pruneDangling_eq_self (h : r.pruneDangling.2 = []) : r.pruneDangling.1 = r := by
  obtain ⟨hways, hrelations⟩ := List.append_eq_nil_iff.1 h
  have hkept : r.pruneDangling.1.ways = r.ways := by
    rw [ways_pruneDangling]
    refine List.filter_eq_self.2 fun w hw => ?_
    rw [List.filterMap_eq_nil_iff.1 hways w hw]
    rfl
  have hrelations' : r.pruneDangling.1.relations = r.relations :=
    pruneRelations_eq_self r.relations hrelations
  obtain ⟨nodes, ways, relations⟩ := r
  exact RecordSet.mk.injEq .. ▸ ⟨rfl, hkept, hrelations'⟩

/-! ## What is reported -/

@[simp] theorem Removal.record?_failure (y : Removal) :
    y.failure.record? = some (y.kind, y.id) := rfl

@[simp] theorem Removal.missing?_failure (y : Removal) :
    y.failure.missing? = some (y.missing.kind.recordKind, y.missing.id) := rfl

/-- One step of pruning: among the records of one kind, those with a `removal?` go, each naming a
record that is not there. -/
theorem drops_removals (kind : RecordKind) (key : α → Id) {xs : List α}
    {removal? : α → Option Removal} (foreign : Failure → Prop) (distinct : r.Distinct)
    (within : s.Within r) (hr : r.ids kind = xs.map key)
    (hs : s.ids kind = (xs.filter fun x => (removal? x).isNone).map key)
    (hother : ∀ other, other ≠ kind → s.ids other = r.ids other)
    (hremoval : ∀ x ∈ xs, ∀ y, removal? x = some y →
      y.kind = kind ∧ y.id = key x ∧ y.missing.id ∉ r.ids y.missing.kind.recordKind) :
    Drops foreign r s ((xs.filterMap removal?).map Removal.failure) := by
  rw [List.map_filterMap]
  refine Drops.of_failures kind key distinct within hr ?_ hother fun x hx f hf => ?_
  · simpa only [Option.isNone_map] using hs
  · obtain ⟨y, hy, rfl⟩ := Option.map_eq_some_iff.1 hf
    obtain ⟨hkind, hid, hgone⟩ := hremoval x hx y hy
    refine ⟨by rw [Removal.record?_failure, hkind, hid], fun k id hm => .inl ?_⟩
    rw [Removal.missing?_failure] at hm
    obtain ⟨rfl, rfl⟩ := Prod.mk.inj (Option.some.inj hm)
    exact hgone

/-- The step of `pruneDangling` over the ways. -/
theorem drops_ways (foreign : Failure → Prop) (distinct : r.Distinct) :
    Drops foreign r { r with ways := r.pruneDangling.1.ways }
      ((r.ways.filterMap (wayRemoval? r.nodeIds)).map Removal.failure) := by
  refine drops_removals .way (·.id) foreign distinct ?_ rfl rfl ?_ fun w hw y hy => ?_
  · exact ⟨List.Subset.refl _, List.filter_subset_self _, List.Subset.refl _⟩
  · intro other hother
    cases other with
    | way => exact absurd rfl hother
    | _ => rfl
  · obtain ⟨id, -, hid, rfl⟩ := wayRemoval?_eq_some hy
    exact ⟨rfl, rfl, hid⟩

/-- A round drops the relations with a missing member, those that do not `stays`. -/
theorem drops_round (foreign : Failure → Prop) (distinct : r.Distinct) :
    Drops foreign r
      { r with relations := r.relations.filter (stays r.nodeIds r.wayIds r.relations) }
      ((r.relations.filterMap (relationRemoval? r.nodeIds r.wayIds r.relationIds)).map
        Removal.failure) := by
  refine drops_removals .relation (·.id) foreign distinct ?_ rfl rfl ?_ fun x hx y hy => ?_
  · exact ⟨List.Subset.refl _, List.Subset.refl _, List.filter_subset_self _⟩
  · intro other hother
    cases other with
    | relation => exact absurd rfl hother
    | _ => rfl
  · obtain ⟨m, -, hm, rfl⟩ := relationRemoval?_eq_some hy
    refine ⟨rfl, rfl, ?_⟩
    rw [Member.id_placeholder, Member.recordKind_placeholder, ← isListed_iff]
    exact Bool.eq_false_iff.1 hm

/-- All rounds of `pruneRelations`. -/
theorem drops_rounds (foreign : Failure → Prop) (nodes : List NodeRecord)
    (ways : List WayRecord) (relations : List RelationRecord) :
    (RecordSet.mk nodes ways relations).Distinct →
      Drops foreign ⟨nodes, ways, relations⟩
        ⟨nodes, ways, (pruneRelations (nodes.map (·.id)) (ways.map (·.id)) relations).1⟩
        ((pruneRelations (nodes.map (·.id)) (ways.map (·.id)) relations).2.map
          Removal.failure) := by
  refine pruneRelations_rounds
    (motive := fun relations final removals => (RecordSet.mk nodes ways relations).Distinct →
      Drops foreign ⟨nodes, ways, relations⟩ ⟨nodes, ways, final⟩ (removals.map Removal.failure))
    (fun relations _ _ => Drops.refl foreign _) (fun relations final later ih distinct => ?_)
    relations
  have hround := drops_round foreign distinct
  rw [List.map_append]
  refine hround.trans (ih fun kind => (distinct kind).sublist ?_)
  cases kind with
  | relation => exact List.filter_sublist.map _
  | _ => exact List.Sublist.refl _

/-- Every record that `pruneDangling` drops is reported once, after the record that it misses. -/
theorem drops_pruneDangling (foreign : Failure → Prop) (distinct : r.Distinct) :
    Drops foreign r r.pruneDangling.1 (r.pruneDangling.2.map Removal.failure) := by
  have hways := drops_ways foreign distinct
  have hdistinct : RecordSet.Distinct ⟨r.nodes, r.pruneDangling.1.ways, r.relations⟩ := by
    intro kind
    cases kind with
    | way => exact (distinct .way).sublist (List.filter_sublist.map _)
    | node => exact distinct .node
    | relation => exact distinct .relation
  have hrounds := hways.trans (drops_rounds foreign _ _ _ hdistinct)
  rw [← List.map_append] at hrounds
  exact hrounds

/-- `prune` reports what `pruneDangling` drops and results in what it leaves. -/
theorem settles_prune (r : RecordSet) :
    Settles (fun policy => r.prune policy) (r.pruneDangling.2.map Removal.failure)
      (.ok r.pruneDangling) := by
  refine Settles.map (settles_reportAll fun f hf => ?_) fun _ => r.pruneDangling
  obtain ⟨y, -, rfl⟩ := List.mem_map.1 hf
  rfl

end RecordSet

end RoadNet
