import RoadNet.Proofs.Disassembled

/-!
# RoadNet.Proofs.CanonicalForm

The canonical form of a record set: records in identifier order, ways that are areas and relations
that are not lanelets last, members in the order of their roles.

* `RecordSet.canonical_canon`, `RecordSet.Canonical.canon_eq` — what it makes is in canonical form,
  and such a set is its own canonical form, also if records are left out of it
  (`RecordSet.Canonical.of_sublists`);
* `RecordSet.mem_ids_canon`, `RecordSet.Closed.canon` — it has the same identifiers, and no
  reference that the records have not.
-/

namespace RoadNet

/-! ## Canonical forms -/

/-- The way with the tag `area=yes`. -/
def WayRecord.marked (w : WayRecord) : WayRecord :=
  { w with attributes := w.attributes.insert Key.area "yes" }

namespace RelationRecord

/-- The relation with the members of a lanelet only: the bounds `left` and `right` first, then the
rules. -/
def laneletForm (x : RelationRecord) : RelationRecord :=
  { x with
    members := x.role RoleName.left ++ x.role RoleName.right ++ x.role RoleName.regulatoryElement }

/-- The relation with its members in the order of their roles, as `sortBy` puts them. -/
def roleForm (x : RelationRecord) : RelationRecord :=
  { x with members := sortBy Member.role x.members }

end RelationRecord

namespace RecordSet

/-- The records in canonical form: nodes in key order, line strings before areas, lanelets before
other relations, each `marked` or in its form. -/
def canon (r : RecordSet) : RecordSet where
  nodes := sortBy NodeRecord.id r.nodes
  ways := sortBy WayRecord.id (r.ways.filter fun w => !Classes.isArea w) ++
    sortBy WayRecord.id ((r.ways.filter Classes.isArea).map WayRecord.marked)
  relations :=
    sortBy RelationRecord.id ((r.relations.filter Classes.isLanelet).map .laneletForm) ++
      sortBy RelationRecord.id ((r.relations.filter fun x => !Classes.isLanelet x).map .roleForm)

end RecordSet

/-! ## Forms of records -/

/-- Marking a way that is `marked` changes nothing. -/
theorem WayRecord.marked_marked (w : WayRecord) : w.marked.marked = w.marked := by
  rw [marked, marked, SortedMap.insert_insert]

theorem Classes.isArea_marked (w : WayRecord) : isArea w.marked = true :=
  RoadMap.isArea_polygonRecord ⟨w.id, w.nodes, w.attributes⟩

namespace RelationRecord

/-- Of the members of one `role`, those of another role are all of them or none. -/
theorem filter_role (x : RelationRecord) (role other : String) :
    (x.role role).filter (fun m => m.role = other) = if role = other then x.role role else [] := by
  rw [RelationRecord.role, List.filter_filter]
  split
  next h =>
    subst h
    simp only [Bool.and_self]
  next h =>
    refine List.filter_eq_nil_iff.2 fun m _ => ?_
    simp only [Bool.and_eq_true, decide_eq_true_eq]
    exact fun hm => h (hm.2.symm.trans hm.1)

/-- `laneletForm` is idempotent. -/
theorem laneletForm_laneletForm (x : RelationRecord) :
    x.laneletForm.laneletForm = x.laneletForm := by
  have hrole : ∀ role, x.laneletForm.role role =
      (x.role RoleName.left).filter (fun m => m.role = role) ++
        (x.role RoleName.right).filter (fun m => m.role = role) ++
        (x.role RoleName.regulatoryElement).filter (fun m => m.role = role) := fun role => by
    rw [RelationRecord.role, laneletForm, List.filter_append, List.filter_append]
  have hleft : x.laneletForm.role RoleName.left = x.role RoleName.left := by
    simp [hrole, filter_role, RoleName.left, RoleName.right, RoleName.regulatoryElement]
  have hright : x.laneletForm.role RoleName.right = x.role RoleName.right := by
    simp [hrole, filter_role, RoleName.left, RoleName.right, RoleName.regulatoryElement]
  have hrules : x.laneletForm.role RoleName.regulatoryElement =
      x.role RoleName.regulatoryElement := by
    simp [hrole, filter_role, RoleName.left, RoleName.right, RoleName.regulatoryElement]
  rw [laneletForm, hleft, hright, hrules]
  rfl

/-- `roleForm` is idempotent. -/
theorem roleForm_roleForm (x : RelationRecord) : x.roleForm.roleForm = x.roleForm := by
  rw [roleForm, roleForm, sortBy_sortBy]

end RelationRecord

section Apart

variable {p : α → Bool} {xs ys : List α} (hxs : ∀ a ∈ xs, p a = true) (hys : ∀ a ∈ ys, p a = false)

include hxs hys

theorem filter_append_eq_left : (xs ++ ys).filter p = xs := by
  have hnone : ys.filter p = [] :=
    List.filter_eq_nil_iff.2 fun a ha => Bool.eq_false_iff.1 (hys a ha)
  rw [List.filter_append, List.filter_eq_self.2 hxs, hnone, List.append_nil]

theorem filter_append_eq_right : (xs ++ ys).filter (fun a => !p a) = ys := by
  have hnone : xs.filter (fun a => !p a) = [] :=
    List.filter_eq_nil_iff.2 fun a ha => by simp [hxs a ha]
  have hall : ys.filter (fun a => !p a) = ys :=
    List.filter_eq_self.2 fun a ha => by simp [hys a ha]
  rw [List.filter_append, hnone, hall, List.nil_append]

end Apart

/-! ## Lists in two classes -/

/-- The elements of the class `front`, then the others, both in the order of `key` and every element
in the form of its class. -/
def Arranged (key : α → Id) (front : α → Bool) (form form' : α → α) (l : List α) : Prop :=
  ∃ xs ys, l = xs ++ ys ∧ InKeyOrder key xs ∧ InKeyOrder key ys ∧
    (∀ a ∈ xs, front a = true ∧ form a = a) ∧ ∀ a ∈ ys, front a = false ∧ form' a = a

namespace Arranged

variable {key : α → Id} {front : α → Bool} {form form' : α → α} {l s : List α}

/-- A sublist of an `Arranged` list is `Arranged`. -/
theorem sublist (h : Arranged key front form form' l) (hs : s.Sublist l) :
    Arranged key front form form' s := by
  obtain ⟨xs, ys, rfl, hxs, hys, hfront, hback⟩ := h
  obtain ⟨us, vs, rfl, hus, hvs⟩ := List.sublist_append_iff.1 hs
  exact ⟨us, vs, rfl, hxs.sublist hus, hys.sublist hvs, fun a ha => hfront a (hus.subset ha),
    fun a ha => hback a (hvs.subset ha)⟩

/-- Sorting the classes apart and giving every element its form makes an `Arranged` list, provided
that the forms are idempotent and keep the class. -/
theorem sorted (hform : ∀ a, form (form a) = form a) (hform' : ∀ a, form' (form' a) = form' a)
    (hfront : ∀ a, front a = true → front (form a) = true)
    (hback : ∀ a, front a = false → front (form' a) = false) (l : List α) :
    Arranged key front form form' (sortBy key ((l.filter front).map form) ++
      sortBy key ((l.filter fun a => !front a).map form')) := by
  refine ⟨_, _, rfl, inKeyOrder_sortBy key _, inKeyOrder_sortBy key _, fun a ha => ?_,
    fun a ha => ?_⟩
  · obtain ⟨b, hb, rfl⟩ := List.mem_map.1 (mem_sortBy.1 ha)
    exact ⟨hfront b (List.mem_filter.1 hb).2, hform b⟩
  · obtain ⟨b, hb, rfl⟩ := List.mem_map.1 (mem_sortBy.1 ha)
    exact ⟨hback b (Bool.not_eq_eq_eq_not.1 (List.mem_filter.1 hb).2), hform' b⟩

/-- An `Arranged` list stays as it is if it is sorted and formed. -/
theorem sorted_eq (h : Arranged key front form form' l) :
    sortBy key ((l.filter front).map form) ++
      sortBy key ((l.filter fun a => !front a).map form') = l := by
  obtain ⟨xs, ys, rfl, hxs, hys, hfront, hback⟩ := h
  have hform : xs.map form = xs :=
    (List.map_congr_left fun a ha => (hfront a ha).2).trans (List.map_id _)
  have hform' : ys.map form' = ys :=
    (List.map_congr_left fun a ha => (hback a ha).2).trans (List.map_id _)
  rw [filter_append_eq_left (fun a ha => (hfront a ha).1) fun a ha => (hback a ha).1,
    filter_append_eq_right (fun a ha => (hfront a ha).1) fun a ha => (hback a ha).1, hform, hform',
    sortBy_of_inKeyOrder hxs, sortBy_of_inKeyOrder hys]

end Arranged

namespace RecordSet

variable {r s : RecordSet}

/-! ## Sets in canonical form -/

/-- A record set in canonical form: nodes in key order, ways and relations `Arranged`. -/
structure Canonical (r : RecordSet) : Prop where
  nodes : InKeyOrder NodeRecord.id r.nodes
  ways : Arranged WayRecord.id (fun w => !Classes.isArea w) id WayRecord.marked r.ways
  relations : Arranged RelationRecord.id Classes.isLanelet .laneletForm .roleForm r.relations

theorem canon_ways (r : RecordSet) : r.canon.ways =
    sortBy WayRecord.id ((r.ways.filter fun w => !Classes.isArea w).map id) ++
      sortBy WayRecord.id ((r.ways.filter fun w => !!Classes.isArea w).map WayRecord.marked) := by
  simp only [Bool.not_not, List.map_id]
  rfl

/-- The canonical form of any record set is `Canonical`. -/
theorem canonical_canon (r : RecordSet) : r.canon.Canonical where
  nodes := inKeyOrder_sortBy _ _
  ways := by
    rw [canon_ways]
    refine .sorted (fun _ => rfl) WayRecord.marked_marked (fun _ h => h) (fun w _ => ?_) _
    rw [Classes.isArea_marked]
    rfl
  relations := by
    have hlanelet : ∀ x : RelationRecord, Classes.isLanelet x.laneletForm = Classes.isLanelet x :=
      fun _ => rfl
    have hrole : ∀ x : RelationRecord, Classes.isLanelet x.roleForm = Classes.isLanelet x :=
      fun _ => rfl
    exact .sorted RelationRecord.laneletForm_laneletForm RelationRecord.roleForm_roleForm
      (fun x h => (hlanelet x).trans h) (fun x h => (hrole x).trans h) _

/-- A `Canonical` set is its own canonical form. -/
theorem Canonical.canon_eq (h : r.Canonical) : r.canon = r := by
  have hnodes : r.canon.nodes = r.nodes := sortBy_of_inKeyOrder h.nodes
  have hways : r.canon.ways = r.ways := (canon_ways r).trans h.ways.sorted_eq
  have hrelations : r.canon.relations = r.relations := h.relations.sorted_eq
  obtain ⟨nodes, ways, relations⟩ := r
  exact RecordSet.mk.injEq .. ▸ ⟨hnodes, hways, hrelations⟩

/-- What is left of a `Canonical` set is `Canonical`. -/
theorem Canonical.of_sublists (h : r.Canonical) (hs : s.Sublists r) : s.Canonical :=
  ⟨h.nodes.sublist hs.nodes, h.ways.sublist hs.ways, h.relations.sublist hs.relations⟩

theorem canon_canon (r : RecordSet) : r.canon.canon = r.canon := r.canonical_canon.canon_eq

/-! ### The records that are there -/

/-- A way of the canonical form is one of `r`, `marked` if its tags make it an area. -/
theorem mem_canon_ways {w : WayRecord} :
    w ∈ r.canon.ways ↔ ∃ v ∈ r.ways, w = if Classes.isArea v then v.marked else v := by
  simp only [canon, List.mem_append, mem_sortBy, List.mem_map, List.mem_filter, Bool.not_eq_true']
  constructor
  · rintro (⟨hw, harea⟩ | ⟨v, ⟨hv, harea⟩, rfl⟩)
    · exact ⟨w, hw, by simp [harea]⟩
    · exact ⟨v, hv, by simp [harea]⟩
  · rintro ⟨v, hv, rfl⟩
    cases harea : Classes.isArea v with
    | false => exact .inl ⟨hv, harea⟩
    | true => exact .inr ⟨v, ⟨hv, harea⟩, rfl⟩

/-- A relation of the canonical form is one of `r`, in its `laneletForm` or its `roleForm`. -/
theorem mem_canon_relations {x : RelationRecord} :
    x ∈ r.canon.relations ↔
      ∃ y ∈ r.relations, x = if Classes.isLanelet y then y.laneletForm else y.roleForm := by
  simp only [canon, List.mem_append, mem_sortBy, List.mem_map, List.mem_filter, Bool.not_eq_true']
  constructor
  · rintro (⟨y, ⟨hy, htype⟩, rfl⟩ | ⟨y, ⟨hy, htype⟩, rfl⟩)
    · exact ⟨y, hy, by simp [htype]⟩
    · exact ⟨y, hy, by simp [htype]⟩
  · rintro ⟨y, hy, rfl⟩
    cases htype : Classes.isLanelet y with
    | true => exact .inl ⟨y, ⟨hy, htype⟩, rfl⟩
    | false => exact .inr ⟨y, ⟨hy, htype⟩, rfl⟩

/-- The canonical form has the identifiers that `r` has. -/
theorem mem_ids_canon {kind : RecordKind} {id : Id} : id ∈ r.canon.ids kind ↔ id ∈ r.ids kind := by
  have hway : ∀ v : WayRecord, (if Classes.isArea v then v.marked else v).id = v.id := fun v => by
    split <;> rfl
  have hrelation : ∀ y : RelationRecord,
      (if Classes.isLanelet y then y.laneletForm else y.roleForm).id = y.id := fun y => by
    split <;> rfl
  cases kind with
  | node => simp only [ids, nodeIds, canon, List.mem_map, mem_sortBy]
  | way =>
    simp only [ids, wayIds, List.mem_map, mem_canon_ways]
    constructor
    · rintro ⟨w, ⟨v, hv, rfl⟩, rfl⟩
      exact ⟨v, hv, (hway v).symm⟩
    · rintro ⟨v, hv, rfl⟩
      exact ⟨_, ⟨v, hv, rfl⟩, hway v⟩
  | relation =>
    simp only [ids, relationIds, List.mem_map, mem_canon_relations]
    constructor
    · rintro ⟨x, ⟨y, hy, rfl⟩, rfl⟩
      exact ⟨y, hy, (hrelation y).symm⟩
    · rintro ⟨y, hy, rfl⟩
      exact ⟨_, ⟨y, hy, rfl⟩, hrelation y⟩

/-- The canonical form of a `Closed` set is `Closed`: it has no reference that the records have
not. -/
theorem Closed.canon (h : r.Closed) : r.canon.Closed where
  ways w hw id hid := by
    obtain ⟨v, hv, rfl⟩ := mem_canon_ways.1 hw
    have hnodes : id ∈ v.nodes := by
      split at hid <;> exact hid
    have hnode : id ∈ r.canon.ids .node := mem_ids_canon.2 (h.ways v hv id hnodes)
    exact hnode
  relations x hx m hm := by
    obtain ⟨y, hy, rfl⟩ := mem_canon_relations.1 hx
    have hmember : m ∈ y.members := by
      split at hm
      · rcases List.mem_append.1 hm with hm | hm
        · rcases List.mem_append.1 hm with hm | hm <;> exact (List.mem_filter.1 hm).1
        · exact (List.mem_filter.1 hm).1
      · exact mem_sortBy.1 hm
    exact mem_ids_canon.2 (h.relations y hy m hmember)

end RecordSet

end RoadNet
