import RoadNet.Proofs.Records
import RoadNet.Proofs.Reporting

/-!
# RoadNet.Proofs.Duplicates

Dropping the records whose identifier is taken twice within their kind.

* `count_repeatedIds` — every identifier that a list repeats is found once, and no other;
* `ids_dropDuplicateIds`, `distinct_dropDuplicateIds` — what is left are the identifiers that
  occur once;
* `drops_duplicates` — each of the others is reported once;
* `singles_of_dropDuplicates` — the run as a whole: what is left, what is noted and in which order,
  and when a strict run succeeds.
-/

namespace RoadNet

namespace RecordSet

/-! ## Repeated identifiers -/

/-- `secondOccurrences` emits an identifier where it occurs for the second time, those `seen`
included. -/
theorem count_secondOccurrences (seen ids : List Id) (id : Id) :
    (secondOccurrences seen ids).count id =
      if seen.count id ≤ 1 ∧ 2 ≤ seen.count id + ids.count id then 1 else 0 := by
  induction ids generalizing seen with
  | nil =>
    rw [secondOccurrences, List.count_nil, if_neg (by omega)]
  | cons other rest ih =>
    rw [secondOccurrences]
    by_cases hid : other = id
    · subst hid
      split
      next hseen =>
        rw [List.count_cons_self, ih, List.count_cons_self, List.count_cons_self, if_neg (by omega),
          if_pos (by omega)]
      next hseen =>
        rw [ih, List.count_cons_self, List.count_cons_self]
        congr 1
        apply propext
        omega
    · have hseen : (other :: seen).count id = seen.count id := List.count_cons_of_ne hid
      have hrest : (other :: rest).count id = rest.count id := List.count_cons_of_ne hid
      rw [hrest]
      split
      · rw [List.count_cons_of_ne hid, ih, hseen]
      · rw [ih, hseen]

/-- `repeatedIds` has an identifier once if it occurs more than once, else not at all. -/
theorem count_repeatedIds (ids : List Id) (id : Id) :
    (repeatedIds ids).count id = if 2 ≤ ids.count id then 1 else 0 := by
  rw [repeatedIds, count_secondOccurrences, List.count_nil]
  congr 1
  apply propext
  omega

theorem mem_repeatedIds {ids : List Id} {id : Id} :
    id ∈ repeatedIds ids ↔ 2 ≤ ids.count id := by
  rw [← List.count_pos_iff, count_repeatedIds]
  split <;> omega

/-! ## The order of repetition -/

/-- The list `ids` has `id` at this place for the second time. -/
def RepeatedAt (ids : List Id) (place : Nat) (id : Id) : Prop :=
  ids[place]? = some id ∧ (ids.take place).count id = 1

/-- The identifiers that the list `ids` repeats, each once, in the order in which they are seen to
repeat (`RepeatedAt`). -/
structure Repeats (ids repeated : List Id) : Prop where
  mem : ∀ id, id ∈ repeated ↔ 2 ≤ ids.count id
  nodup : repeated.Nodup
  order : repeated.Pairwise fun a b =>
    ∃ i j, i < j ∧ RepeatedAt ids i a ∧ RepeatedAt ids j b

/-- Behind the identifiers `seen`, in the order in which they came, the next one stands at the place
`seen.length`. -/
theorem repeatedAt_length {seen rest : List Id} {id : Id} (h : seen.count id = 1) :
    RepeatedAt (seen.reverse ++ id :: rest) seen.length id := by
  rw [← List.length_reverse]
  refine ⟨by simp, ?_⟩
  rw [List.take_left, List.count_reverse, h]

/-- What `secondOccurrences` emits stands in the list behind those `seen`, for the second time. -/
theorem exists_of_mem_secondOccurrences {seen ids : List Id} {id : Id}
    (h : id ∈ secondOccurrences seen ids) :
    ∃ place, seen.length ≤ place ∧ RepeatedAt (seen.reverse ++ ids) place id := by
  induction ids generalizing seen with
  | nil => cases h
  | cons other rest ih =>
    have hlater : id ∈ secondOccurrences (other :: seen) rest →
        ∃ place, seen.length ≤ place ∧ RepeatedAt (seen.reverse ++ other :: rest) place id := by
      intro hrest
      obtain ⟨place, hplace, hat⟩ := ih hrest
      rw [List.reverse_cons, List.append_assoc, List.singleton_append] at hat
      exact ⟨place, Nat.le_of_succ_le hplace, hat⟩
    rw [secondOccurrences] at h
    split at h
    next hseen =>
      rcases List.mem_cons.1 h with rfl | hrest
      · exact ⟨seen.length, Nat.le_refl _, repeatedAt_length hseen⟩
      · exact hlater hrest
    next => exact hlater h

/-- What `secondOccurrences` emits first is seen to repeat first. -/
theorem pairwise_secondOccurrences (seen ids : List Id) :
    (secondOccurrences seen ids).Pairwise fun a b =>
      ∃ i j, i < j ∧ RepeatedAt (seen.reverse ++ ids) i a ∧
        RepeatedAt (seen.reverse ++ ids) j b := by
  induction ids generalizing seen with
  | nil => exact .nil
  | cons id rest ih =>
    have hall : (id :: seen).reverse ++ rest = seen.reverse ++ id :: rest := by
      rw [List.reverse_cons, List.append_assoc, List.singleton_append]
    have hrest := ih (id :: seen)
    rw [hall] at hrest
    rw [secondOccurrences]
    split
    next hseen =>
      refine .cons (fun later hlater => ?_) hrest
      obtain ⟨j, hj, hat⟩ := exists_of_mem_secondOccurrences hlater
      rw [hall] at hat
      exact ⟨seen.length, j, hj, repeatedAt_length hseen, hat⟩
    next => exact hrest

/-- `repeatedIds` computes what a list `Repeats`. -/
theorem repeats_repeatedIds (ids : List Id) : Repeats ids (repeatedIds ids) where
  mem _ := mem_repeatedIds
  nodup := List.nodup_iff_count_le_one.2 fun id => by
    rw [count_repeatedIds]
    split <;> omega
  order := pairwise_secondOccurrences [] ids

/-! ## What is left -/

variable (r : RecordSet)

/-- Within each kind `dropDuplicateIds` leaves the identifiers that are not among the `repeatedIds`,
in order. -/
theorem ids_dropDuplicateIds (kind : RecordKind) :
    r.dropDuplicateIds.1.ids kind =
      (r.ids kind).filter fun id => id ∉ repeatedIds (r.ids kind) := by
  cases kind <;>
    simp only [ids, nodeIds, wayIds, relationIds, dropDuplicateIds, List.filter_map] <;> rfl

theorem within_dropDuplicateIds : r.dropDuplicateIds.1.Within r :=
  ⟨List.filter_subset_self _, List.filter_subset_self _, List.filter_subset_self _⟩

/-- An identifier is left exactly if it occurs once within its kind. -/
theorem mem_ids_dropDuplicateIds {kind : RecordKind} {id : Id} :
    id ∈ r.dropDuplicateIds.1.ids kind ↔ (r.ids kind).count id = 1 := by
  rw [ids_dropDuplicateIds, List.mem_filter, decide_eq_true_iff, mem_repeatedIds,
    ← List.count_pos_iff]
  omega

/-- What `dropDuplicateIds` leaves is `Distinct`. -/
theorem distinct_dropDuplicateIds : r.dropDuplicateIds.1.Distinct := by
  intro kind
  rw [List.nodup_iff_count_le_one]
  intro id
  by_cases hid : id ∈ r.dropDuplicateIds.1.ids kind
  · have hone := r.mem_ids_dropDuplicateIds.1 hid
    rw [ids_dropDuplicateIds]
    exact hone ▸ List.filter_sublist.count_le id
  · rw [List.count_eq_zero.2 hid]
    exact Nat.zero_le 1

/-- A `Distinct` set loses nothing. -/
theorem dropDuplicateIds_of_distinct {r : RecordSet} (h : r.Distinct) :
    r.dropDuplicateIds = (r, []) := by
  have hnil : ∀ kind, repeatedIds (r.ids kind) = [] := by
    intro kind
    rw [List.eq_nil_iff_forall_not_mem]
    intro id hid
    have hle := (List.nodup_iff_count_le_one.1 (h kind)) id
    have htwo := mem_repeatedIds.1 hid
    omega
  have hn : repeatedIds r.nodeIds = [] := hnil .node
  have hw : repeatedIds r.wayIds = [] := hnil .way
  have hx : repeatedIds r.relationIds = [] := hnil .relation
  simp [dropDuplicateIds, hn, hw, hx]

/-! ## What is reported -/

/-- The failures `duplicateId` of identifiers of one kind mention a record as often as its
identifier is among them. -/
theorem mentions_duplicateId (k kind : RecordKind) (ids : List Id) (id : Id) :
    Failure.mentions (ids.map fun i => .malformedRecord k (some i) .duplicateId) kind id =
      if k = kind then ids.count id else 0 := by
  rw [Failure.mentions, List.countP_map]
  split
  next hk =>
    subst hk
    refine List.countP_congr fun i _ => ?_
    simp [Failure.record?]
  next hk =>
    refine List.countP_eq_zero.2 fun i _ => ?_
    simp [Failure.record?, hk]

/-- The failures of `dropDuplicateIds` mention a record once if its identifier is repeated. -/
theorem mentions_dropDuplicateIds (kind : RecordKind) (id : Id) :
    Failure.mentions r.dropDuplicateIds.2 kind id = (repeatedIds (r.ids kind)).count id := by
  rw [dropDuplicateIds, Failure.mentions_append, Failure.mentions_append, mentions_duplicateId,
    mentions_duplicateId, mentions_duplicateId]
  cases kind <;> simp [ids]

/-- Every failure of `dropDuplicateIds` is the `malformedRecord` of one record and blames no
other. -/
theorem duplicateId_of_mem {f : Failure} (hf : f ∈ r.dropDuplicateIds.2) :
    ∃ kind id, f = .malformedRecord kind (some id) .duplicateId := by
  simp only [dropDuplicateIds, List.mem_append, List.mem_map] at hf
  rcases hf with (⟨id, -, rfl⟩ | ⟨id, -, rfl⟩) | ⟨id, -, rfl⟩
  · exact ⟨.node, id, rfl⟩
  · exact ⟨.way, id, rfl⟩
  · exact ⟨.relation, id, rfl⟩

/-- `dropDuplicateIds` accounts for every record that it drops. -/
theorem drops_duplicates (foreign : Failure → Prop) :
    Drops foreign r r.dropDuplicateIds.1 r.dropDuplicateIds.2 where
  within := r.within_dropDuplicateIds
  once kind id := by
    rw [mentions_dropDuplicateIds, count_repeatedIds]
    have hmem : id ∈ r.ids kind ↔ 0 < (r.ids kind).count id := List.count_pos_iff.symm
    simp only [presence, mem_ids_dropDuplicateIds, hmem]
    split <;> split <;> split <;> omega
  named f hf := by
    obtain ⟨kind, id, rfl⟩ := r.duplicateId_of_mem hf
    exact ⟨kind, id, rfl⟩
  causes := by
    refine CausesFirst.of_forall fun f hf kind id hm => ?_
    obtain ⟨k, i, rfl⟩ := r.duplicateId_of_mem hf
    cases hm

theorem settles_dropDuplicates :
    Settles (fun policy => r.dropDuplicates policy) r.dropDuplicateIds.2
      (.ok r.dropDuplicateIds.1) := by
  refine Settles.map (settles_reportAll fun f hf => ?_) fun _ => r.dropDuplicateIds.1
  obtain ⟨kind, id, rfl⟩ := r.duplicateId_of_mem hf
  rfl

/-! ## The run as a whole -/

/-- The records whose identifier occurs once within their kind, in the order of `r`. -/
def singles : RecordSet :=
  ⟨r.nodes.filter fun n => r.nodeIds.count n.id = 1, r.ways.filter fun w => r.wayIds.count w.id = 1,
    r.relations.filter fun x => r.relationIds.count x.id = 1⟩

/-- The elements of a list whose key is not among the `repeatedIds` are those whose key occurs
once. -/
theorem filter_not_repeated {α : Type} (key : α → Id) (l : List α) :
    (l.filter fun x => key x ∉ repeatedIds (l.map key)) =
      l.filter fun x => (l.map key).count (key x) = 1 := by
  refine List.filter_congr fun x hx => decide_eq_decide.2 ?_
  have hpos : 0 < (l.map key).count (key x) := List.count_pos_iff.2 (List.mem_map_of_mem hx)
  rw [mem_repeatedIds]
  omega

/-- `dropDuplicateIds` leaves the `singles`. -/
theorem fst_dropDuplicateIds : r.dropDuplicateIds.1 = r.singles :=
  (RecordSet.mk.injEq ..).mpr ⟨filter_not_repeated (·.id) r.nodes,
    filter_not_repeated (·.id) r.ways, filter_not_repeated (·.id) r.relations⟩

theorem message_duplicateId (kind : RecordKind) (id : Id) :
    (Failure.malformedRecord kind (some id) .duplicateId).message =
      kind.name ++ " " ++ idText id ++ ": duplicate id" := by
  change kind.name ++ " " ++ idText id ++ ": " ++ "duplicate id" = _
  rw [String.append_assoc]
  rfl

/-- The messages of `dropDuplicateIds`: one a repeated identifier, nodes before ways before
relations. -/
theorem messages_dropDuplicateIds :
    r.dropDuplicateIds.2.map Failure.message = RecordKind.all.flatMap fun kind =>
      (repeatedIds (r.ids kind)).map fun id =>
        kind.name ++ " " ++ idText id ++ ": duplicate id" := by
  simp only [dropDuplicateIds, RecordKind.all, List.map_append, List.map_map, Function.comp_def,
    message_duplicateId, List.flatMap_cons, List.flatMap_nil, List.append_nil, List.append_assoc,
    ids]

/-- `dropDuplicates` leaves a `Distinct` set as it is under any policy, whatever identifiers its
kinds share. -/
theorem dropDuplicates_of_distinct {r : RecordSet} (h : r.Distinct) (policy : Policy)
    (messages : List String) : r.dropDuplicates policy messages = (.ok r, messages) := by
  rw [dropDuplicates, dropDuplicateIds_of_distinct h]
  rfl

/-- Strict `dropDuplicates` succeeds exactly on a `Distinct` set. -/
theorem strict_dropDuplicates_iff (messages : List String) :
    (∃ kept, (r.dropDuplicates .strict messages).1 = .ok kept) ↔ r.Distinct := by
  constructor
  · rintro ⟨kept, h⟩
    have hnil := r.settles_dropDuplicates.eq_nil_of_strict h
    intro kind
    rw [List.nodup_iff_count_le_one]
    intro id
    have hcount := r.mentions_dropDuplicateIds kind id
    rw [hnil, count_repeatedIds] at hcount
    by_contra hle
    rw [if_pos (by omega)] at hcount
    cases hcount
  · intro h
    rw [dropDuplicates_of_distinct h]
    exact ⟨r, rfl⟩

/-- Robust `dropDuplicates` leaves the `singles` of each list, the records whose identifier occurs
once in it, in order. It notes one message for each identifier that a list `Repeats`: nodes before
ways before relations, and within a kind in the order in which the identifiers are seen to repeat.
Only records of the same kind count. A second run finds nothing more, and a strict run succeeds
exactly if no list repeats an identifier. -/
theorem singles_of_dropDuplicates :
    (∃ repeated : RecordKind → List Id, (∀ kind, Repeats (r.ids kind) (repeated kind)) ∧
      ∀ messages, r.dropDuplicates .robust messages =
        (.ok r.singles, messages ++ RecordKind.all.flatMap fun kind =>
          (repeated kind).map fun id => kind.name ++ " " ++ idText id ++ ": duplicate id")) ∧
      (∀ kind id, id ∈ r.singles.ids kind ↔ (r.ids kind).count id = 1) ∧
      (∀ policy messages, r.singles.dropDuplicates policy messages = (.ok r.singles, messages)) ∧
      ∀ messages, (∃ kept, (r.dropDuplicates .strict messages).1 = .ok kept) ↔
        ∀ kind, (r.ids kind).Nodup := by
  refine ⟨⟨fun kind => repeatedIds (r.ids kind), fun kind => repeats_repeatedIds _,
    fun messages => ?_⟩, fun kind id => ?_, fun policy messages => ?_, r.strict_dropDuplicates_iff⟩
  · rw [← messages_dropDuplicateIds, ← fst_dropDuplicateIds]
    exact r.settles_dropDuplicates.robust messages
  · rw [← fst_dropDuplicateIds]
    exact r.mem_ids_dropDuplicateIds
  · rw [← fst_dropDuplicateIds]
    exact dropDuplicates_of_distinct r.distinct_dropDuplicateIds policy messages

/-- What repeats first is not what occurs first. -/
example : repeatedIds [3, 1, 2, 1, 3, 3] = [1, 3] := by decide

end RecordSet

end RoadNet
