import RoadNet.Proofs.Pruning

/-!
# RoadNet.Proofs.GreatestPart

Pruning leaves the greatest closed part of any record set and explains everything that it takes
away, also where identifiers are repeated or relations refer to each other in cycles
(`RecordSet.explained_prune`).

Repeated identifiers do not tell records apart. `Explains` therefore lists the records that are
gone and pairs them with the removals one by one. The ways go in one step, and then each round
takes relations away; every step explains itself (`explains_step`), and explanations are strung
together (`Explains.trans`).
-/

namespace RoadNet

/-! ## Records that refer to others -/

/-- A record that refers to others, a way or a relation. -/
inductive Referrer where
  | way (w : WayRecord)
  | relation (x : RelationRecord)
deriving DecidableEq

/-- The kind and the identifier of the record. -/
def Referrer.name : Referrer → RecordKind × Id
  | way w => (.way, w.id)
  | relation x => (.relation, x.id)

namespace RecordSet

/-- The records of a set that refer to others, ways first. -/
def referrers (r : RecordSet) : List Referrer := r.ways.map .way ++ r.relations.map .relation

/-- A removal names the record that goes, a `Referrer`, and a record that it refers to. -/
inductive Removal.Blames : Removal → Referrer → Prop where
  | node {w : WayRecord} {id : Id} (mem : id ∈ w.nodes) :
      Blames ⟨.way, w.id, "nodes", ⟨.point, id⟩⟩ (.way w)
  | member {x : RelationRecord} {m : Member} (mem : m ∈ x.members) :
      Blames ⟨.relation, x.id, m.role, m.placeholder⟩ (.relation x)

theorem Removal.Blames.name_eq {y : Removal} {a : Referrer} (h : y.Blames a) :
    a.name = (y.kind, y.id) := by
  cases h <;> rfl

/-- A record that `Forall₂` pairs with a removal is named by it. -/
theorem exists_removal_of_mem {removals : List Removal} {gone : List Referrer}
    (h : List.Forall₂ Removal.Blames removals gone) {a : Referrer} (ha : a ∈ gone) :
    ∃ y ∈ removals, a.name = (y.kind, y.id) := by
  induction h with
  | nil => cases ha
  | cons hblames _ ih =>
    rcases List.mem_cons.1 ha with rfl | ha
    · exact ⟨_, List.mem_cons_self, hblames.name_eq⟩
    · obtain ⟨y, hy, hname⟩ := ih ha
      exact ⟨y, List.mem_cons_of_mem _ hy, hname⟩

variable {r s t u : RecordSet}

/-- The identifiers of a set are those of its nodes and of its `referrers`. -/
theorem mem_ids_iff {kind : RecordKind} {id : Id} :
    id ∈ r.ids kind ↔
      (kind = .node ∧ id ∈ r.nodeIds) ∨ ∃ a ∈ r.referrers, a.name = (kind, id) := by
  cases kind <;> simp [ids, nodeIds, wayIds, relationIds, referrers, Referrer.name, or_and_right,
    exists_or]

/-- A set whose `referrers` are some of those of another one, and whose nodes are the same, has no
other identifiers. -/
theorem ids_subset_of_perm {gone : List Referrer} (hnodes : t.nodes = s.nodes)
    (hperm : (t.referrers ++ gone).Perm s.referrers) (kind : RecordKind) :
    t.ids kind ⊆ s.ids kind := by
  intro id hid
  rw [mem_ids_iff] at hid ⊢
  rcases hid with ⟨rfl, hnode⟩ | ⟨a, ha, hname⟩
  · exact .inl ⟨rfl, by rwa [nodeIds, ← hnodes]⟩
  · exact .inr ⟨a, hperm.subset (List.mem_append_left _ ha), hname⟩

/-! ## Explanations -/

/-- The records of `t` are those of `s` without the ones that are `gone`. The `removals` name these
in order, each with a reference to a record that is not in `t`, was not in `s` either or went
before. -/
structure Explains (s t : RecordSet) (gone : List Referrer) (removals : List Removal) : Prop where
  nodes : t.nodes = s.nodes
  perm : (t.referrers ++ gone).Perm s.referrers
  blames : List.Forall₂ Removal.Blames removals gone
  absent : ∀ y ∈ removals, y.missing.id ∉ t.ids y.missing.kind.recordKind
  causes : CausesFirst (fun _ => False) (fun kind id => id ∉ s.ids kind)
    (removals.map Removal.failure)

namespace Explains

variable {gone gone' : List Referrer} {removals removals' : List Removal}

/-- Nothing is gone. -/
theorem refl (r : RecordSet) : Explains r r [] [] where
  nodes := rfl
  perm := by rw [List.append_nil]
  blames := .nil
  absent _ hy := absurd hy List.not_mem_nil
  causes := CausesFirst.of_forall fun _ hf => absurd hf List.not_mem_nil

theorem ids_subset (h : Explains s t gone removals) (kind : RecordKind) :
    t.ids kind ⊆ s.ids kind :=
  ids_subset_of_perm h.nodes h.perm kind

/-- A record of `s` that is not in `t` is named by a removal. -/
theorem exists_removal (h : Explains s t gone removals) {kind : RecordKind} {id : Id}
    (hs : id ∈ s.ids kind) (ht : id ∉ t.ids kind) :
    ∃ y ∈ removals, y.kind = kind ∧ y.id = id := by
  rw [mem_ids_iff] at hs ht
  rcases hs with ⟨rfl, hnode⟩ | ⟨a, ha, hname⟩
  · exact absurd (.inl ⟨rfl, by rwa [nodeIds, h.nodes]⟩) ht
  · have hgone : a ∈ gone := by
      rcases List.mem_append.1 (h.perm.mem_iff.2 ha) with hleft | hgone
      · exact absurd (.inr ⟨a, hleft, hname⟩) ht
      · exact hgone
    obtain ⟨y, hy, hnamed⟩ := exists_removal_of_mem h.blames hgone
    obtain ⟨hkind, hid⟩ := Prod.mk.inj (hnamed.symm.trans hname)
    exact ⟨y, hy, hkind, hid⟩

/-- Explanations compose: what goes later may miss what went before. -/
theorem trans (h : Explains s t gone removals) (k : Explains t u gone' removals') :
    Explains s u (gone ++ gone') (removals ++ removals') where
  nodes := k.nodes.trans h.nodes
  perm := by
    have hswap : (u.referrers ++ (gone ++ gone')).Perm ((u.referrers ++ gone') ++ gone) := by
      rw [List.append_assoc]
      exact List.perm_append_comm.append_left _
    exact hswap.trans ((k.perm.append_right gone).trans h.perm)
  blames := List.rel_append h.blames k.blames
  absent y hy := by
    rcases List.mem_append.1 hy with hy | hy
    · exact fun hmem => h.absent y hy (k.ids_subset _ hmem)
    · exact k.absent y hy
  causes := by
    rw [List.map_append]
    refine h.causes.append k.causes fun kind id ht => ?_
    -- What a later removal misses was never in `s`, or an earlier one took it away.
    by_cases hs : id ∈ s.ids kind
    · obtain ⟨y, hy, rfl, rfl⟩ := h.exists_removal hs ht
      exact .inr ⟨y.failure, List.mem_map_of_mem hy, rfl⟩
    · exact .inl hs

end Explains

/-! ## One step -/

section Step

variable {f : α → Referrer} {removal? : α → Option Removal}

/-- The results of `removal?` along a list pair with the elements that have one. -/
theorem forall₂_blames {xs : List α} (h : ∀ a y, removal? a = some y → y.Blames (f a)) :
    List.Forall₂ Removal.Blames (xs.filterMap removal?)
      ((xs.filter fun a => !(removal? a).isNone).map f) := by
  induction xs with
  | nil => exact .nil
  | cons a rest ih =>
    cases ha : removal? a with
    | none =>
      rw [List.filterMap_cons_none ha, List.filter_cons_of_neg (by simp [ha])]
      exact ih
    | some y =>
      rw [List.filterMap_cons_some ha, List.filter_cons_of_pos (by simp [ha])]
      exact .cons (h a y ha) ih

/-- Of the records `xs` of one kind those with a `removal?` go, each missing a record that is not in
`s`. -/
theorem explains_step {xs : List α} (others : List Referrer) (hnodes : t.nodes = s.nodes)
    (hs : s.referrers.Perm (others ++ xs.map f))
    (ht : t.referrers.Perm (others ++ (xs.filter fun a => (removal? a).isNone).map f))
    (hremoval : ∀ a y, removal? a = some y →
      y.Blames (f a) ∧ y.missing.id ∉ s.ids y.missing.kind.recordKind) :
    Explains s t ((xs.filter fun a => !(removal? a).isNone).map f)
      (xs.filterMap removal?) := by
  have hperm : (t.referrers ++ (xs.filter fun a => !(removal? a).isNone).map f).Perm
      s.referrers := by
    have hsplit := (List.filter_append_perm (fun a => (removal? a).isNone) xs).map f
    rw [List.map_append] at hsplit
    refine (ht.append_right _).trans ?_
    rw [List.append_assoc]
    exact (hsplit.append_left others).trans hs.symm
  have hmissing : ∀ y ∈ xs.filterMap removal?,
      y.missing.id ∉ s.ids y.missing.kind.recordKind := fun y hy => by
    obtain ⟨a, -, ha⟩ := List.mem_filterMap.1 hy
    exact (hremoval a y ha).2
  -- Nothing is added, so what was missing before the step is missing after it.
  have hsub : ∀ kind, t.ids kind ⊆ s.ids kind :=
    ids_subset_of_perm hnodes hperm
  constructor
  case nodes => exact hnodes
  case perm => exact hperm
  case blames => exact forall₂_blames fun a y ha => (hremoval a y ha).1
  case absent => exact fun y hy hmem => hmissing y hy (hsub _ hmem)
  case causes =>
    refine CausesFirst.of_forall fun failure hf kind id hm => .inl ?_
    obtain ⟨y, hy, rfl⟩ := List.mem_map.1 hf
    rw [Removal.missing?_failure] at hm
    obtain ⟨rfl, rfl⟩ := Prod.mk.inj (Option.some.inj hm)
    exact hmissing y hy

end Step

/-! ## All of pruning -/

/-- The ways with a missing node go, as `pruneDangling` takes them away. -/
theorem explains_ways (r : RecordSet) :
    ∃ gone, Explains r { r with ways := r.pruneDangling.1.ways } gone
      (r.ways.filterMap (wayRemoval? r.nodeIds)) := by
  refine ⟨_, explains_step (f := .way) (r.relations.map .relation) rfl
    List.perm_append_comm List.perm_append_comm fun w y hy => ?_⟩
  obtain ⟨id, hmem, hid, rfl⟩ := wayRemoval?_eq_some hy
  exact ⟨.node hmem, hid⟩

/-- A round takes away the relations with a missing member, those that do not `stays`. -/
theorem explains_round (r : RecordSet) :
    ∃ gone, Explains r
      { r with relations := r.relations.filter (stays r.nodeIds r.wayIds r.relations) } gone
      (r.relations.filterMap (relationRemoval? r.nodeIds r.wayIds r.relationIds)) := by
  refine ⟨_, explains_step (f := .relation) (r.ways.map .way) rfl (.refl _) (.refl _)
    fun x y hy => ?_⟩
  obtain ⟨m, hmem, hm, rfl⟩ := relationRemoval?_eq_some hy
  refine ⟨.member hmem, ?_⟩
  rw [Member.id_placeholder, Member.recordKind_placeholder, ← isListed_iff]
  exact Bool.eq_false_iff.1 hm

/-- All rounds of `pruneRelations` together. -/
theorem explains_rounds (nodes : List NodeRecord) (ways : List WayRecord)
    (relations : List RelationRecord) :
    ∃ gone, Explains ⟨nodes, ways, relations⟩
      ⟨nodes, ways, (pruneRelations (nodes.map (·.id)) (ways.map (·.id)) relations).1⟩ gone
      (pruneRelations (nodes.map (·.id)) (ways.map (·.id)) relations).2 := by
  refine pruneRelations_rounds
    (motive := fun relations final removals =>
      ∃ gone, Explains ⟨nodes, ways, relations⟩ ⟨nodes, ways, final⟩ gone removals)
    (fun relations _ => ⟨[], .refl _⟩) (fun relations final later ih => ?_) relations
  obtain ⟨gone, hround⟩ := explains_round ⟨nodes, ways, relations⟩
  obtain ⟨gone', hlater⟩ := ih
  exact ⟨gone ++ gone', hround.trans hlater⟩

/-- Everything that `pruneDangling` takes away is explained. -/
theorem explains_pruneDangling (r : RecordSet) :
    ∃ gone, Explains r r.pruneDangling.1 gone r.pruneDangling.2 := by
  obtain ⟨gone, hways⟩ := explains_ways r
  obtain ⟨gone', hrounds⟩ := explains_rounds r.nodes r.pruneDangling.1.ways r.relations
  exact ⟨gone ++ gone', hways.trans hrounds⟩

/-! ## The greatest closed part -/

/-- `s` is the greatest part of `r` that is `Closed`, its records as often as in `r` and in the
order of `r`. -/
structure GreatestClosed (r s : RecordSet) : Prop where
  sublists : s.Sublists r
  closed : s.Closed
  greatest : ∀ t : RecordSet, t.Sublists r → t.Closed → t.Sublists s

/-- `pruneDangling` leaves the greatest closed part. -/
theorem pruneDangling_greatestClosed (r : RecordSet) : r.GreatestClosed r.pruneDangling.1 where
  sublists := r.pruneDangling_sublists
  closed := r.pruneDangling_closed
  greatest _ hsub hclosed := sublists_pruneDangling hclosed hsub

/-- `pruneDangling` drops nothing exactly if the set is `Closed`. -/
theorem pruneDangling_eq_nil_iff (r : RecordSet) : r.pruneDangling.2 = [] ↔ r.Closed := by
  constructor
  · intro h
    have hself := pruneDangling_eq_self h
    exact hself ▸ r.pruneDangling_closed
  · intro h
    rw [h.pruneDangling]

/-- `prune` under either policy leaves a `Closed` set as it is and reports nothing. -/
theorem prune_of_closed (h : r.Closed) (policy : Policy) (messages : List String) :
    r.prune policy messages = (.ok (r, []), messages) := by
  have hrun := r.settles_prune
  rw [h.pruneDangling] at hrun
  cases policy with
  | strict => exact hrun.strict messages
  | robust => simpa using hrun.robust messages

/-- Robust `prune` of any records leaves the greatest closed part of them (`GreatestClosed`),
reports everything that it takes away (`Explains`), and does nothing when it is repeated. Strict
`prune` succeeds exactly if nothing dangles. -/
theorem explained_prune (r : RecordSet) :
    ∃ kept gone removals,
      (∀ messages, r.prune .robust messages =
        (.ok (kept, removals), messages ++ removals.map fun y => y.failure.message)) ∧
      r.GreatestClosed kept ∧ Explains r kept gone removals ∧
      (∀ policy messages, kept.prune policy messages = (.ok (kept, []), messages)) ∧
      ∀ messages, (∃ result, (r.prune .strict messages).1 = .ok result) ↔ r.Closed := by
  obtain ⟨gone, hexplains⟩ := r.explains_pruneDangling
  refine ⟨r.pruneDangling.1, gone, r.pruneDangling.2, fun messages => ?_,
    r.pruneDangling_greatestClosed, hexplains, prune_of_closed r.pruneDangling_closed,
    fun messages => ⟨?_, fun h => ⟨_, congrArg Prod.fst (prune_of_closed h .strict messages)⟩⟩⟩
  · rw [r.settles_prune.robust, List.map_map]
    rfl
  · rintro ⟨result, hresult⟩
    have hnone := r.settles_prune.eq_nil_of_strict hresult
    exact r.pruneDangling_eq_nil_iff.1 (List.map_eq_nil_iff.1 hnone)

/-- Relations that only refer to each other are left, and a chain that leads to a missing record
goes link by link. -/
example :
    let refersTo (id member : Id) : RelationRecord := ⟨id, .empty, [⟨"refers", .relation, member⟩]⟩
    pruneDangling ⟨[], [], [refersTo 1 2, refersTo 2 1, refersTo 3 4, refersTo 4 5]⟩ =
      (⟨[], [], [refersTo 1 2, refersTo 2 1]⟩,
        [⟨.relation, 4, "refers", .regulatoryElement 5⟩,
          ⟨.relation, 3, "refers", .regulatoryElement 4⟩]) := by
  decide +kernel

end RecordSet

end RoadNet
