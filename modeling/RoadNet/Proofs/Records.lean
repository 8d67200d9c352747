import Mathlib.Data.List.Nodup
import RoadNet.Record

/-!
# RoadNet.Proofs.Records

Sets of records as far as references see them: which identifiers of which kind there are, which
set is part of which, and whether all references stay inside.

The central notion is `Drops s t failures`: of the records of `s` those of `t` are left, and
`failures` accounts for the others. Every record that is gone is named once, and a failure
that blames a missing record comes after the failure of that record. Such steps compose
(`Drops.trans`), so a pipeline is accounted for stage by stage. What `Sublists` says besides is
that the records that are left stand in the same order.
-/

namespace RoadNet

/-! ## What a failure is about -/

namespace Failure

/-- The record that a failure names as the one that fails. -/
def record? : Failure → Option (RecordKind × Id)
  | malformedRecord kind (some id) _ => some (kind, id)
  | recordFailed kind id _ => some (kind, id)
  | _ => none

/-- The record that a failure blames as missing. -/
def missing? : Failure → Option (RecordKind × Id)
  | recordFailed _ _ (.unresolvedReference _ _ member) =>
    some (member.kind.recordKind, member.id)
  | _ => none

/-- How often `failures` name a record as the one that fails, in the sense of `record?`. -/
def mentions (failures : List Failure) (kind : RecordKind) (id : Id) : Nat :=
  failures.countP fun f => f.record? = some (kind, id)

@[simp] theorem mentions_append (xs ys : List Failure) (kind : RecordKind) (id : Id) :
    mentions (xs ++ ys) kind id = mentions xs kind id + mentions ys kind id :=
  List.countP_append

/-- Failures that `failure?` gives for records of one kind name these as often as they go. -/
theorem mentions_filterMap {xs : List α} {key : α → Id} {failure? : α → Option Failure}
    {kind : RecordKind}
    (h : ∀ x ∈ xs, ∀ f, failure? x = some f → f.record? = some (kind, key x)) (id : Id) :
    mentions (xs.filterMap failure?) kind id +
        ((xs.filter fun x => (failure? x).isNone).map key).count id = (xs.map key).count id := by
  induction xs with
  | nil => rfl
  | cons x rest ih =>
    have hrest := ih fun x' hx' => h x' (List.mem_cons_of_mem x hx')
    cases hx : failure? x with
    | none =>
      rw [List.filterMap_cons_none hx, List.filter_cons_of_pos (by rw [hx]; rfl), List.map_cons,
        List.map_cons, List.count_cons, List.count_cons, ← Nat.add_assoc, hrest]
    | some f =>
      have hrecord := h x List.mem_cons_self f hx
      have heq : (decide (f.record? = some (kind, id))) = (key x == id) := by
        rw [hrecord]
        simp only [Option.some.injEq, Prod.mk.injEq, true_and]
        rfl
      rw [List.filterMap_cons_some hx, List.filter_cons_of_neg (by rw [hx]; exact Bool.noConfusion),
        List.map_cons, List.count_cons, ← hrest, mentions, List.countP_cons, heq, mentions]
      omega

/-- Failures that all name records of one kind name none of another. -/
theorem mentions_other {failures : List Failure} {kind other : RecordKind}
    (h : ∀ f ∈ failures, ∃ id, f.record? = some (kind, id)) (hne : other ≠ kind) (id : Id) :
    mentions failures other id = 0 := by
  refine List.countP_eq_zero.2 fun f hf hother => ?_
  obtain ⟨id', hrecord⟩ := h f hf
  rw [decide_eq_true_eq, hrecord] at hother
  exact hne (congrArg Prod.fst (Option.some.inj hother)).symm

/-- The `message` of a failure begins with the record that fails. -/
theorem message_of_record {f : Failure} {kind : RecordKind} {id : Id}
    (h : f.record? = some (kind, id)) :
    ∃ reason, f.message = kind.name ++ " " ++ idText id ++ ": " ++ reason := by
  cases f with
  | malformedRecord kind' id' flaw =>
    cases id' with
    | none => cases h
    | some id' =>
      obtain ⟨rfl, rfl⟩ := Prod.mk.inj (Option.some.inj h)
      exact ⟨flaw.message, rfl⟩
  | recordFailed kind' id' source =>
    obtain ⟨rfl, rfl⟩ := Prod.mk.inj (Option.some.inj h)
    exact ⟨source.message, rfl⟩
  | _ => cases h

end Failure

namespace RecordSet

/-! ## Identifiers by kind -/

/-- The identifiers of the records of a kind, in order. -/
def ids (r : RecordSet) : RecordKind → List Id
  | .node => r.nodeIds
  | .way => r.wayIds
  | .relation => r.relationIds

/-- Whether `r` has a record with the identifier, as the number 1 or 0. -/
def presence (r : RecordSet) (kind : RecordKind) (id : Id) : Nat :=
  if id ∈ r.ids kind then 1 else 0

/-- A member is listed exactly if its identifier is among the `ids` of its kind. -/
theorem isListed_iff (r : RecordSet) (m : Member) :
    isListed r.nodeIds r.wayIds r.relationIds m = true ↔ m.id ∈ r.ids m.kind := by
  rcases m with ⟨role, kind, id⟩
  cases kind <;> simp [isListed, ids]

/-- No kind of record has an identifier twice. -/
def Distinct (r : RecordSet) : Prop := ∀ kind, (r.ids kind).Nodup

/-- In a set without repeated identifiers `presence` counts them. -/
theorem presence_eq_count {r : RecordSet} {kind : RecordKind} (h : (r.ids kind).Nodup)
    (id : Id) : r.presence kind id = (r.ids kind).count id := by
  unfold presence
  split
  next hmem => exact (List.count_eq_one_of_mem h hmem).symm
  next hmem => exact (List.count_eq_zero.2 hmem).symm

/-! ## Parts of a set -/

/-- Every record of `s` is one of `r`, whatever the order and the number. -/
structure Within (s r : RecordSet) : Prop where
  nodes : s.nodes ⊆ r.nodes
  ways : s.ways ⊆ r.ways
  relations : s.relations ⊆ r.relations

theorem Within.refl (r : RecordSet) : r.Within r :=
  ⟨List.Subset.refl _, List.Subset.refl _, List.Subset.refl _⟩

theorem Within.trans {s t u : RecordSet} (h : s.Within t) (k : t.Within u) : s.Within u :=
  ⟨List.Subset.trans h.nodes k.nodes, List.Subset.trans h.ways k.ways,
    List.Subset.trans h.relations k.relations⟩

theorem Within.ids {s r : RecordSet} (h : s.Within r) (kind : RecordKind) :
    s.ids kind ⊆ r.ids kind := by
  cases kind with
  | node => exact List.map_subset _ h.nodes
  | way => exact List.map_subset _ h.ways
  | relation => exact List.map_subset _ h.relations

/-- The records of `s` are among those of `r`, in the order of `r`. -/
structure Sublists (s r : RecordSet) : Prop where
  nodes : s.nodes.Sublist r.nodes
  ways : s.ways.Sublist r.ways
  relations : s.relations.Sublist r.relations

namespace Sublists

variable {s t r : RecordSet}

theorem trans (h : s.Sublists t) (k : t.Sublists r) : s.Sublists r :=
  ⟨h.nodes.trans k.nodes, h.ways.trans k.ways, h.relations.trans k.relations⟩

/-- `Sublists` implies `Within`. -/
theorem within (h : s.Sublists r) : s.Within r :=
  ⟨h.nodes.subset, h.ways.subset, h.relations.subset⟩

/-- `Sublists` of a `Distinct` set are `Distinct`. -/
theorem distinct (h : s.Sublists r) (hr : r.Distinct) : s.Distinct := fun kind =>
  match kind with
  | .node => (hr .node).sublist (h.nodes.map _)
  | .way => (hr .way).sublist (h.ways.map _)
  | .relation => (hr .relation).sublist (h.relations.map _)

end Sublists

/-! ## Closed sets -/

/-- Every reference of a record of the set names a record of the set. -/
structure Closed (r : RecordSet) : Prop where
  ways : ∀ w ∈ r.ways, ∀ id ∈ w.nodes, id ∈ r.nodeIds
  relations : ∀ x ∈ r.relations, ∀ m ∈ x.members, m.id ∈ r.ids m.kind

end RecordSet

/-! ## Causes before effects -/

/-- Whenever one of the failures blames a missing record (`missing?`), that record is `gone` from
the start or has failed before. Failures that are `foreign` are not spoken for. -/
def CausesFirst (foreign : Failure → Prop) (gone : RecordKind → Id → Prop)
    (failures : List Failure) : Prop :=
  ∀ before f after, failures = before ++ f :: after → ∀ kind id,
    f.missing? = some (kind, id) →
      gone kind id ∨ (∃ cause ∈ before, cause.record? = some (kind, id)) ∨ foreign f

namespace CausesFirst

variable {foreign : Failure → Prop} {gone later : RecordKind → Id → Prop}
variable {xs ys : List Failure}

/-- `CausesFirst` of failures that only blame records `gone` from the start. -/
theorem of_forall
    (h : ∀ f ∈ xs, ∀ kind id, f.missing? = some (kind, id) → gone kind id ∨ foreign f) :
    CausesFirst foreign gone xs := by
  rintro before f after rfl kind id hf
  rcases h f (List.mem_append_right before List.mem_cons_self) kind id hf with hg | hg
  · exact .inl hg
  · exact .inr (.inr hg)

/-- `CausesFirst` of failures that follow others: they may blame the records that failed there
too. -/
theorem append (hx : CausesFirst foreign gone xs) (hy : CausesFirst foreign later ys)
    (h : ∀ kind id, later kind id → gone kind id ∨ ∃ f ∈ xs, f.record? = some (kind, id)) :
    CausesFirst foreign gone (xs ++ ys) := by
  intro before f after heq kind id hf
  rcases List.append_eq_append_iff.1 heq with ⟨rest, rfl, hys⟩ | ⟨rest, hxs, hrest⟩
  · rcases hy rest f after hys kind id hf with hl | ⟨cause, hc, hr⟩ | hfor
    · rcases h kind id hl with hg | ⟨cause, hc, hr⟩
      · exact .inl hg
      · exact .inr (.inl ⟨cause, List.mem_append_left rest hc, hr⟩)
    · exact .inr (.inl ⟨cause, List.mem_append_right xs hc, hr⟩)
    · exact .inr (.inr hfor)
  · cases rest with
    | nil =>
      rw [List.nil_append] at hrest
      rw [List.append_nil] at hxs
      rcases hy [] f after hrest.symm kind id hf with hl | ⟨cause, hc, -⟩ | hfor
      · rcases h kind id hl with hg | ⟨cause, hc, hr⟩
        · exact .inl hg
        · exact .inr (.inl ⟨cause, hxs ▸ hc, hr⟩)
      · exact absurd hc List.not_mem_nil
      · exact .inr (.inr hfor)
    | cons f' rest =>
      obtain ⟨rfl, -⟩ := List.cons.inj hrest
      exact hx before f rest hxs kind id hf

end CausesFirst

/-! ## Dropping records -/

/-- Of the records of `s` those of `t` are left, and the `failures` account for the others. -/
structure Drops (foreign : Failure → Prop) (s t : RecordSet) (failures : List Failure) :
    Prop where
  within : t.Within s
  /-- A record is left or named by one failure. -/
  once : ∀ kind id,
    Failure.mentions failures kind id + t.presence kind id = s.presence kind id
  /-- Every failure names a record. -/
  named : ∀ f ∈ failures, ∃ kind id, f.record? = some (kind, id)
  causes : CausesFirst foreign (fun kind id => id ∉ s.ids kind) failures

namespace Drops

variable {foreign : Failure → Prop} {s t u : RecordSet} {xs ys : List Failure}

/-- Nothing is dropped. -/
theorem refl (foreign : Failure → Prop) (r : RecordSet) : Drops foreign r r [] where
  within := .refl r
  once _ _ := Nat.zero_add _
  named _ hf := absurd hf List.not_mem_nil
  causes := CausesFirst.of_forall fun _ hf => absurd hf List.not_mem_nil

/-- Among the records of one kind those for which `failure?` gives a failure go, and each failure
that blames a missing record blames one that is gone from the start. -/
theorem of_failures (kind : RecordKind) (key : α → Id) {xs : List α}
    {failure? : α → Option Failure} (distinct : s.Distinct) (within : t.Within s)
    (hs : s.ids kind = xs.map key)
    (ht : t.ids kind = (xs.filter fun x => (failure? x).isNone).map key)
    (hother : ∀ other, other ≠ kind → t.ids other = s.ids other)
    (hfailure : ∀ x ∈ xs, ∀ f, failure? x = some f → f.record? = some (kind, key x) ∧
      ∀ k id, f.missing? = some (k, id) → id ∉ s.ids k ∨ foreign f) :
    Drops foreign s t (xs.filterMap failure?) where
  within := within
  once k id := by
    by_cases hk : k = kind
    · subst hk
      have hdistinct : (t.ids k).Nodup :=
        ht ▸ (hs ▸ distinct k).sublist (List.filter_sublist.map key)
      rw [RecordSet.presence_eq_count (distinct k), RecordSet.presence_eq_count hdistinct, hs, ht]
      exact Failure.mentions_filterMap (fun x hx f hf => (hfailure x hx f hf).1) id
    · have hnamed : ∀ f ∈ xs.filterMap failure?, ∃ id, f.record? = some (kind, id) := by
        intro f hf
        obtain ⟨x, hx, hxf⟩ := List.mem_filterMap.1 hf
        exact ⟨key x, (hfailure x hx f hxf).1⟩
      rw [Failure.mentions_other hnamed hk, RecordSet.presence, RecordSet.presence, hother k hk,
        Nat.zero_add]
  named f hf := by
    obtain ⟨x, hx, hxf⟩ := List.mem_filterMap.1 hf
    exact ⟨kind, key x, (hfailure x hx f hxf).1⟩
  causes := by
    refine CausesFirst.of_forall fun f hf k id hm => ?_
    obtain ⟨x, hx, hxf⟩ := List.mem_filterMap.1 hf
    exact (hfailure x hx f hxf).2 k id hm

/-- A record that is dropped is named by one of the failures. -/
theorem exists_failure (h : Drops foreign s t xs) {kind : RecordKind} {id : Id}
    (hs : id ∈ s.ids kind) (ht : id ∉ t.ids kind) : ∃ f ∈ xs, f.record? = some (kind, id) := by
  have honce := h.once kind id
  rw [RecordSet.presence, if_neg ht, RecordSet.presence, if_pos hs] at honce
  have hpos : 0 < Failure.mentions xs kind id := by omega
  obtain ⟨f, hf, hr⟩ := List.countP_pos_iff.1 hpos
  exact ⟨f, hf, of_decide_eq_true hr⟩

/-- Records are dropped in stages: `Drops` is transitive, the failures one after the other. -/
theorem trans (h : Drops foreign s t xs) (k : Drops foreign t u ys) :
    Drops foreign s u (xs ++ ys) where
  within := k.within.trans h.within
  once kind id := by
    have hs := h.once kind id
    have ht := k.once kind id
    rw [Failure.mentions_append]
    omega
  named f hf := (List.mem_append.1 hf).elim (h.named f) (k.named f)
  causes := by
    refine h.causes.append k.causes fun kind id ht => ?_
    by_cases hs : id ∈ s.ids kind
    · exact .inr (h.exists_failure hs ht)
    · exact .inl hs

/-- A record of `s` is left and named by no failure, or it is gone and named by one. -/
theorem present_or_named (h : Drops foreign s t xs) {kind : RecordKind} {id : Id}
    (hs : id ∈ s.ids kind) :
    (id ∈ t.ids kind ∧ Failure.mentions xs kind id = 0) ∨
      (id ∉ t.ids kind ∧ Failure.mentions xs kind id = 1) := by
  have honce := h.once kind id
  unfold RecordSet.presence at honce
  rw [if_pos hs] at honce
  by_cases ht : id ∈ t.ids kind
  · rw [if_pos ht] at honce
    exact .inl ⟨ht, by omega⟩
  · rw [if_neg ht] at honce
    exact .inr ⟨ht, by omega⟩

/-- Only records of `s` are named. -/
theorem mem_of_record (h : Drops foreign s t xs) {f : Failure} (hf : f ∈ xs)
    {kind : RecordKind} {id : Id} (hr : f.record? = some (kind, id)) : id ∈ s.ids kind := by
  have honce := h.once kind id
  have hpos : 0 < Failure.mentions xs kind id :=
    List.countP_pos_iff.2 ⟨f, hf, decide_eq_true hr⟩
  unfold RecordSet.presence at honce
  by_cases hs : id ∈ s.ids kind
  · exact hs
  · rw [if_neg hs] at honce
    omega

end Drops

end RoadNet
