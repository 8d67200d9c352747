import RoadNet.Proofs.Completeness
import RoadNet.Proofs.Flawless

/-!
# RoadNet.Proofs.Reordering

The order of the records in a file does not matter: records in another order become the same map,
and what is reported about them is the same in another order (`RoadMap.agree_of_reordered`).

That the maps agree is a matter of what is kept, and each of the two runs keeps what the other
keeps (`Assembly.map_part`). The reports need the stages one by one. None of them asks where in
its list a record stands: duplicates are counted, and a round of pruning judges every relation by
the identifiers that were there when it began (`pruneRelations_perm`).
-/

namespace RoadNet

namespace RecordSet

variable {r s : RecordSet}

/-! ## Records in another order -/

/-- The same records, those of each kind in an order of their own. -/
structure Reordered (r s : RecordSet) : Prop where
  nodes : r.nodes.Perm s.nodes
  ways : r.ways.Perm s.ways
  relations : r.relations.Perm s.relations

namespace Reordered

theorem symm (h : r.Reordered s) : s.Reordered r := ⟨h.nodes.symm, h.ways.symm, h.relations.symm⟩

theorem ids (h : r.Reordered s) (kind : RecordKind) : (r.ids kind).Perm (s.ids kind) := by
  cases kind with
  | node => exact h.nodes.map _
  | way => exact h.ways.map _
  | relation => exact h.relations.map _

theorem within (h : r.Reordered s) : r.Within s :=
  ⟨h.nodes.subset, h.ways.subset, h.relations.subset⟩

end Reordered

/-- What `p` picks from a list, and what `q` picks from the list in another order, if the two tests
agree. -/
theorem filter_perm {l l' : List α} {p q : α → Bool} (h : l.Perm l') (hpq : ∀ a, p a = q a) :
    (l.filter p).Perm (l'.filter q) := by
  rw [funext hpq]
  exact h.filter q

/-! ## Repeated identifiers -/

/-- Identifiers in another order repeat the same ones. -/
theorem repeatedIds_perm {ids ids' : List Id} (h : ids.Perm ids') :
    (repeatedIds ids).Perm (repeatedIds ids') :=
  List.perm_iff_count.2 fun id => by rw [count_repeatedIds, count_repeatedIds, h.count_eq]

/-- `dropDuplicateIds` of `Reordered` sets leaves reordered records and reports the same
identifiers. -/
theorem Reordered.dropDuplicateIds (h : r.Reordered s) :
    r.dropDuplicateIds.1.Reordered s.dropDuplicateIds.1 ∧
      r.dropDuplicateIds.2.Perm s.dropDuplicateIds.2 := by
  have hrepeated : ∀ kind, (repeatedIds (r.ids kind)).Perm (repeatedIds (s.ids kind)) :=
    fun kind => repeatedIds_perm (h.ids kind)
  refine ⟨⟨filter_perm h.nodes fun n => ?_, filter_perm h.ways fun w => ?_,
    filter_perm h.relations fun x => ?_⟩, ?_⟩
  · exact decide_eq_decide.2 (not_congr (hrepeated .node).mem_iff)
  · exact decide_eq_decide.2 (not_congr (hrepeated .way).mem_iff)
  · exact decide_eq_decide.2 (not_congr (hrepeated .relation).mem_iff)
  · exact (((hrepeated .node).map _).append ((hrepeated .way).map _)).append
      ((hrepeated .relation).map _)

/-! ## Dangling references -/

/-- `wayRemoval?` only asks which nodes are there. -/
theorem wayRemoval?_congr {nodes nodes' : List Id} (h : ∀ id, id ∈ nodes ↔ id ∈ nodes') :
    wayRemoval? nodes = wayRemoval? nodes' := by
  funext w
  simp only [wayRemoval?, h]

/-- `relationRemoval?` only asks which records of each kind are there. -/
theorem relationRemoval?_congr {nodes nodes' ways ways' relations relations' : List Id}
    (hnodes : ∀ id, id ∈ nodes ↔ id ∈ nodes') (hways : ∀ id, id ∈ ways ↔ id ∈ ways')
    (hrelations : ∀ id, id ∈ relations ↔ id ∈ relations') :
    relationRemoval? nodes ways relations = relationRemoval? nodes' ways' relations' := by
  funext x
  simp only [relationRemoval?, isListed, hnodes, hways, hrelations]

/-- A round of `pruneRelations` leaves the relations that stay to the rounds after it, also if these
are all. -/
theorem pruneRelations_round (nodes ways : List Id) (relations : List RelationRecord) :
    pruneRelations nodes ways relations =
      ((pruneRelations nodes ways (relations.filter (stays nodes ways relations))).1,
        relations.filterMap (relationRemoval? nodes ways (relations.map (·.id))) ++
          (pruneRelations nodes ways (relations.filter (stays nodes ways relations))).2) := by
  by_cases hstays : ∀ x ∈ relations, stays nodes ways relations x = true
  · have hnone : relations.filterMap (relationRemoval? nodes ways (relations.map (·.id))) = [] :=
      List.filterMap_eq_nil_iff.2 fun x hx => Option.isNone_iff_eq_none.1 (hstays x hx)
    rw [List.filter_eq_self.2 hstays, hnone]
    rfl
  · rw [pruneRelations, dif_pos]
    exact List.length_filter_lt_length_iff_exists.2 (by simpa using hstays)

/-- `pruneRelations` judges relations by the identifiers that are there, in whatever order. -/
theorem pruneRelations_perm {nodes nodes' ways ways' : List Id}
    (hnodes : ∀ id, id ∈ nodes ↔ id ∈ nodes') (hways : ∀ id, id ∈ ways ↔ id ∈ ways')
    (relations : List RelationRecord) : ∀ relations', relations.Perm relations' →
      (pruneRelations nodes ways relations).1.Perm (pruneRelations nodes' ways' relations').1 ∧
        (pruneRelations nodes ways relations).2.Perm
          (pruneRelations nodes' ways' relations').2 := by
  have hremoval : ∀ {relations relations' : List RelationRecord}, relations.Perm relations' →
      relationRemoval? nodes ways (relations.map (·.id)) =
        relationRemoval? nodes' ways' (relations'.map (·.id)) :=
    fun h => relationRemoval?_congr hnodes hways fun id => (h.map _).mem_iff
  have hstay : ∀ {relations relations' : List RelationRecord}, relations.Perm relations' →
      ∀ x, stays nodes ways relations x = stays nodes' ways' relations' x :=
    fun h x => by rw [stays, stays, hremoval h]
  refine pruneRelations_rounds
    (motive := fun relations final removals => ∀ relations', relations.Perm relations' →
      final.Perm (pruneRelations nodes' ways' relations').1 ∧
        removals.Perm (pruneRelations nodes' ways' relations').2)
    (fun relations hstays relations' h => ?_) (fun relations final later ih relations' h => ?_)
    relations
  · rw [pruneRelations_of_stays fun x hx => (hstay h x).symm.trans (hstays x (h.mem_iff.2 hx))]
    exact ⟨h, .refl []⟩
  · -- The round drops the same relations on both sides, and the rounds after it start alike.
    obtain ⟨hfinal, hlater⟩ := ih _ (filter_perm h (hstay h))
    rw [pruneRelations_round nodes' ways' relations', ← hremoval h]
    exact ⟨hfinal, (h.filterMap _).append hlater⟩

/-- `pruneDangling` of `Reordered` sets leaves reordered records and reports the same removals. -/
theorem Reordered.pruneDangling (h : r.Reordered s) :
    r.pruneDangling.1.Reordered s.pruneDangling.1 ∧
      r.pruneDangling.2.Perm s.pruneDangling.2 := by
  have hnodes : ∀ id, id ∈ r.nodeIds ↔ id ∈ s.nodeIds := fun id => (h.ids .node).mem_iff
  have hremoval : wayRemoval? r.nodeIds = wayRemoval? s.nodeIds := wayRemoval?_congr hnodes
  have hways : r.pruneDangling.1.ways.Perm s.pruneDangling.1.ways :=
    filter_perm h.ways fun w => by rw [hremoval]
  obtain ⟨hrelations, hremovals⟩ := pruneRelations_perm hnodes
    (fun id => (hways.map WayRecord.id).mem_iff) r.relations s.relations h.relations
  have hdropped : (r.ways.filterMap (wayRemoval? r.nodeIds)).Perm
      (s.ways.filterMap (wayRemoval? s.nodeIds)) := by
    rw [hremoval]
    exact h.ways.filterMap _
  exact ⟨⟨h.nodes, hways, hrelations⟩, hdropped.append hremovals⟩

end RecordSet

/-! ## Building relations -/

/-- The classes of `Reordered` records type members alike. -/
theorem Classes.reference_of_reordered {r s : RecordSet} (h : r.Reordered s) (m : Member) :
    (ofRecords r).reference m = (ofRecords s).reference m := by
  have hpolygons : ∀ id, id ∈ (ofRecords r).polygons ↔ id ∈ (ofRecords s).polygons :=
    fun id => ((h.ways.filter _).map _).mem_iff
  have hlanelets : ∀ id, id ∈ (ofRecords r).lanelets ↔ id ∈ (ofRecords s).lanelets :=
    fun id => ((h.relations.filter _).map _).mem_iff
  simp only [reference, hpolygons, hlanelets]

namespace BuiltRelation

/-- A relation fails alike where `ofRecord` makes the same of it. -/
theorem refusal?_congr {g : RuleRegistry} {c c' : Classes} {x : RelationRecord}
    (h : ofRecord g c x = ofRecord g c' x) : refusal? g c x = refusal? g c' x := by
  unfold refusal?
  rw [h]

/-- Among `Reordered` records a relation becomes the same. -/
theorem ofRecord_of_reordered {g : RuleRegistry} {r s : RecordSet} (h : r.Reordered s)
    (x : RelationRecord) : ofRecord g (.ofRecords r) x = ofRecord g (.ofRecords s) x :=
  ofRecord_congr (fun m _ => Classes.reference_of_reordered h m)
    ((h.relations.filter _).map _).mem_iff

end BuiltRelation

/-! ## The stages -/

namespace Assembly

open BuiltRelation

variable {g : RuleRegistry} {r s : RecordSet}

/-- `Reordered` records become the same map, if the factories keep the stores they are given. -/
theorem map_of_reordered (keeps : g.KeepsStores) (h : r.Reordered s) : map g r = map g s :=
  (map_part keeps h.within fun kind id _ => (h.ids kind).count_eq id |>.symm).antisymm
    (map_part keeps h.symm.within fun kind id _ => (h.ids kind).count_eq id)

/-- About `Reordered` records the same failures come up, in another order. -/
theorem failures_of_reordered (h : r.Reordered s) : (failures g r).Perm (failures g s) := by
  obtain ⟨hunique, hduplicates⟩ := h.dropDuplicateIds
  obtain ⟨hclosed, hdangling⟩ := hunique.pruneDangling
  have hrefusal : refusal? g (classes r) = refusal? g (classes s) :=
    funext fun x => refusal?_congr (ofRecord_of_reordered hclosed x)
  have hbuildable : (buildable g r).Reordered (buildable g s) :=
    ⟨hclosed.nodes, hclosed.ways,
      RecordSet.filter_perm hclosed.relations fun x => by rw [hrefusal]⟩
  have hrefusals : (refusals g r).Perm (refusals g s) := by
    rw [refusals, refusals, hrefusal]
    exact hclosed.relations.filterMap _
  exact hduplicates.append ((hdangling.map _).append
    (hrefusals.append (hbuildable.pruneDangling.2.map _)))

end Assembly

/-- Assembly does not depend on the order in which records are given (`Reordered`). Robust
`ofRecords` makes the same map of them and says the same about them, in another order; strict
`ofRecords` accepts them in every order or in none, and makes the same map. -/
theorem RoadMap.agree_of_reordered {g : RuleRegistry} (keeps : g.KeepsStores) {r s : RecordSet}
    (h : r.Reordered s) :
    (∃ m texts texts', texts.Perm texts' ∧
      (∀ messages, ofRecords g .robust r messages = (.ok m, messages ++ texts)) ∧
      ∀ messages, ofRecords g .robust s messages = (.ok m, messages ++ texts')) ∧
    ∀ messages m, (ofRecords g .strict r messages).1 = .ok m ↔
      (ofRecords g .strict s messages).1 = .ok m := by
  have hmap := Assembly.map_of_reordered keeps h
  have hfailures := Assembly.failures_of_reordered (g := g) h
  constructor
  · refine ⟨Assembly.map g r, _, _, hfailures.map Failure.message,
      (Assembly.settles_ofRecords g r).robust, ?_⟩
    rw [hmap]
    exact (Assembly.settles_ofRecords g s).robust
  · intro messages m
    have hnil : Assembly.failures g r = [] ↔ Assembly.failures g s = [] :=
      ⟨fun hr => (hr ▸ hfailures).nil_eq.symm, fun hs => (hs ▸ hfailures).eq_nil⟩
    rw [Assembly.strict_eq_ok, Assembly.strict_eq_ok, ← Assembly.failures_eq_nil_iff,
      ← Assembly.failures_eq_nil_iff, hnil, hmap]

/-- Two ways that miss nodes, a rule that refers to one of them, and a lanelet that stays. -/
def Assembly.tangled : RecordSet where
  nodes := crossing.nodes
  ways := ⟨13, [2, 4], .empty⟩ :: crossing.ways
  relations := crossing.relations ++ [⟨22, .empty, [⟨RoleName.refLine, .way, 12⟩]⟩]

/-- The same records with those of each kind in reverse. -/
def RecordSet.reverse (r : RecordSet) : RecordSet :=
  ⟨r.nodes.reverse, r.ways.reverse, r.relations.reverse⟩

/-- Either order gives the same map, though not the same way is reported first. -/
theorem RoadMap.agree_tangled :
    RuleRegistry.builtin.KeepsStores ∧ Assembly.tangled.Reordered Assembly.tangled.reverse ∧
      ∃ m texts texts', texts.Perm texts' ∧
        ofRecords .builtin .robust Assembly.tangled [] = (.ok m, texts) ∧
        ofRecords .builtin .robust Assembly.tangled.reverse [] = (.ok m, texts') ∧
        texts.head? = some "way 13: Role 'nodes' of 13 references missing point 4" ∧
        texts'.head? = some "way 12: Role 'nodes' of 12 references missing point 3" := by
  have keeps : RuleRegistry.builtin.KeepsStores := RuleRegistry.Grown.builtin.keepsStores
  have h : Assembly.tangled.Reordered Assembly.tangled.reverse :=
    ⟨(List.reverse_perm _).symm, (List.reverse_perm _).symm, (List.reverse_perm _).symm⟩
  obtain ⟨⟨m, texts, texts', hperm, hrun, hrun'⟩, -⟩ := agree_of_reordered keeps h
  have hrun : ofRecords .builtin .robust Assembly.tangled [] = (.ok m, texts) := hrun []
  have hrun' : ofRecords .builtin .robust Assembly.tangled.reverse [] = (.ok m, texts') := hrun' []
  have htexts : ∀ {r texts}, ofRecords .builtin .robust r [] = (.ok m, texts) →
      texts = (Assembly.failures .builtin r).map Failure.message := fun {r texts} hr =>
    congrArg Prod.snd (hr.symm.trans ((Assembly.settles_ofRecords .builtin r).robust []))
  refine ⟨keeps, h, m, texts, texts', hperm, hrun, hrun', ?_, ?_⟩
  · rw [htexts hrun]
    decide +kernel
  · rw [htexts hrun']
    decide +kernel

end RoadNet
