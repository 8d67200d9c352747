import RoadNet.Proofs.Assembled

/-!
# RoadNet.Proofs.Flawless

Record sets that assemble without a failure.

* `Assembly.failures_eq_nil_iff` — no failure comes up exactly if identifiers are distinct, no
  reference dangles and every relation builds;
* `Flawless.kept_eq`, `Flawless.classes_eq` — of such records all are kept, and typed as they
  stand;
* `Assembly.strict_eq_ok` — these are the records of which strict assembly makes a map.
-/

namespace RoadNet

namespace RecordSet

variable {r : RecordSet}

/-! ## Clean-ups that report nothing -/

/-- If `dropDuplicateIds` reports nothing, the set is `Distinct`. -/
theorem distinct_of_dropDuplicateIds (h : r.dropDuplicateIds.2 = []) : r.Distinct := by
  intro kind
  rw [List.nodup_iff_count_le_one]
  intro id
  have hcount := r.mentions_dropDuplicateIds kind id
  rw [h, count_repeatedIds] at hcount
  by_contra hle
  rw [if_pos (by omega)] at hcount
  cases hcount

end RecordSet

/-! ## Assembly without a failure -/

/-- A record set in order: identifiers are distinct within each kind, no reference dangles, and
every relation builds. -/
structure Flawless (g : RuleRegistry) (r : RecordSet) : Prop where
  distinct : r.Distinct
  closed : r.Closed
  builds : ∀ x ∈ r.relations, ∃ b, BuiltRelation.ofRecord g (.ofRecords r) x = .ok b

namespace Assembly

variable {g : RuleRegistry} {r : RecordSet}

/-- `Assembly.closed` leaves a `Distinct` and `Closed` set as it is. -/
theorem closed_eq (distinct : r.Distinct) (hclosed : r.Closed) : closed r = r := by
  rw [closed, RecordSet.dropDuplicateIds_of_distinct distinct, hclosed.pruneDangling]

end Assembly

namespace Flawless

open Assembly

variable {g : RuleRegistry} {r : RecordSet}

/-- The clean-up before the build takes nothing from `Flawless` records. -/
theorem closed_eq (h : Flawless g r) : Assembly.closed r = r :=
  Assembly.closed_eq h.distinct h.closed

theorem classes_eq (h : Flawless g r) : classes r = .ofRecords r := by
  rw [classes, h.closed_eq]

theorem buildable_eq (h : Flawless g r) : buildable g r = r := by
  rw [buildable, h.closed_eq, h.classes_eq]
  have hall : r.relations.filter
      (fun x => (BuiltRelation.refusal? g (.ofRecords r) x).isNone) = r.relations :=
    List.filter_eq_self.2 fun x hx => (BuiltRelation.refusal?_isNone_iff g _).2 (h.builds x hx)
  rw [hall]

/-- A run keeps all of `Flawless` records. -/
theorem kept_eq (h : Flawless g r) : kept g r = r := by
  rw [kept, h.buildable_eq, h.closed.pruneDangling]

/-- Among `Flawless` records a relation becomes what it becomes under the classes of all. -/
theorem outcome_eq (h : Flawless g r) (x : RelationRecord) :
    outcome g r x = BuiltRelation.ofRecord g (.ofRecords r) x := by
  rw [outcome, h.classes_eq]

theorem refusals_eq (h : Flawless g r) : refusals g r = [] := by
  rw [refusals, h.closed_eq, h.classes_eq]
  refine List.filterMap_eq_nil_iff.2 fun x hx => ?_
  exact Option.isNone_iff_eq_none.1 ((BuiltRelation.refusal?_isNone_iff g _).2 (h.builds x hx))

end Flawless

namespace Assembly

variable {g : RuleRegistry} {r : RecordSet}

/-- A run comes across no failure exactly if the records are `Flawless`. -/
theorem failures_eq_nil_iff : failures g r = [] ↔ Flawless g r := by
  constructor
  · intro h
    obtain ⟨hdup, h⟩ := List.append_eq_nil_iff.1 h
    obtain ⟨hprune, h⟩ := List.append_eq_nil_iff.1 h
    obtain ⟨hrefusals, -⟩ := List.append_eq_nil_iff.1 h
    have hdistinct := RecordSet.distinct_of_dropDuplicateIds hdup
    rw [RecordSet.dropDuplicateIds_of_distinct hdistinct] at hprune
    have hself : r.pruneDangling.1 = r :=
      RecordSet.pruneDangling_eq_self (List.map_eq_nil_iff.1 hprune)
    have hclosed := r.pruneDangling_closed
    rw [hself] at hclosed
    refine ⟨hdistinct, hclosed, fun x hx => ?_⟩
    rw [refusals, classes, closed_eq hdistinct hclosed] at hrefusals
    exact (BuiltRelation.refusal?_isNone_iff g _).1
      (Option.isNone_iff_eq_none.2 (List.filterMap_eq_nil_iff.1 hrefusals x hx))
  · intro h
    rw [failures, RecordSet.dropDuplicateIds_of_distinct h.distinct, h.refusals_eq,
      h.buildable_eq, h.closed.pruneDangling]
    rfl

/-- Strict `ofRecords` makes a map of exactly the `Flawless` record sets. -/
theorem strict_eq_ok {messages : List String} {m : RoadMap} :
    (RoadMap.ofRecords g .strict r messages).1 = .ok m ↔ Flawless g r ∧ m = map g r := by
  have hrun := settles_ofRecords g r
  rw [← failures_eq_nil_iff]
  constructor
  · intro h
    exact ⟨hrun.eq_nil_of_strict h, (Except.ok.inj (hrun.eq_of_ok h)).symm⟩
  · rintro ⟨hnil, rfl⟩
    rw [hrun.strict, hnil]
    rfl

/-- Strict `ofRecords` of `Flawless` records notes nothing. -/
theorem strict_of_flawless (h : Flawless g r) (messages : List String) :
    RoadMap.ofRecords g .strict r messages = (.ok (map g r), messages) := by
  rw [(settles_ofRecords g r).strict, failures_eq_nil_iff.2 h]
  rfl

end Assembly

end RoadNet
