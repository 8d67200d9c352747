import RoadNet.Proofs.KeyOrder
import RoadNet.Proofs.Relations

/-!
# RoadNet.Proofs.Stores

Role stores, told by what their roles hold.

* `Tidy` — no role is kept without references, and none holds a reference twice; the interface
  of stores keeps them so (`Reached.tidy`);
* `ext_get` — tidy stores that agree on every role are equal;
* `Replaces` — what an operation does to a store: it gives one role other references;
* `ids_of_get_eq`, `get_eq_map_ids` — a role that holds references of one kind is told by their
  identifiers;
* `filter_parameters`, `inKeyOrder_parameters` — the list of all references goes through the
  roles in name order and through each role in its own order;
* `Classes.roleStore_eq_ok` — a relation reads as the one tidy store that it fills.
-/

namespace RoadNet

theorem Reference.mk_injective (kind : Kind) : Function.Injective (Reference.mk kind) :=
  fun _ _ h => congrArg Reference.id h

theorem Reference.lineString_injective : Function.Injective Reference.lineString :=
  mk_injective .lineString

theorem Reference.lanelet_injective : Function.Injective Reference.lanelet :=
  mk_injective .lanelet

namespace RoleStore

variable {s t : RoleStore}

/-! ## Tidy stores -/

/-- No role of the store is kept without references, and none holds a reference twice. -/
structure Tidy (s : RoleStore) : Prop where
  filled : ∀ role, s.roles.find? role ≠ some []
  nodup : ∀ role, (s.get role).Nodup

/-- A new store is `Tidy`. -/
theorem tidy_ofAttributes (id : Id) (attributes : Attributes) :
    (ofAttributes id attributes).Tidy where
  filled _ := nofun
  nodup _ := List.nodup_nil

/-- Attributes do not matter to `Tidy`. -/
theorem Tidy.withAttributes (h : s.Tidy) (attributes : Attributes) :
    Tidy { s with attributes := attributes } :=
  ⟨h.filled, h.nodup⟩

@[simp] theorem id_put (s : RoleStore) (role : String) (refs : List Reference) :
    (s.put role refs).id = s.id := rfl

/-- After `put` a role has an entry exactly if it was given references. -/
theorem find?_put (s : RoleStore) (role other : String) (refs : List Reference) :
    (s.put role refs).roles.find? other =
      if other = role then (if refs = [] then none else some refs) else s.roles.find? other := by
  cases refs <;> simp [RoleStore.put]

/-- `put` keeps a store `Tidy` if the references are distinct. -/
theorem Tidy.put (h : s.Tidy) {role : String} {refs : List Reference} (hrefs : refs.Nodup) :
    (s.put role refs).Tidy where
  filled other := by
    have hother := h.filled other
    rw [find?_put]
    split_ifs <;> simp_all
  nodup other := by
    rw [get_put]
    split
    · exact hrefs
    · exact h.nodup other

theorem Tidy.clear (h : s.Tidy) (role : String) : (s.clear role).Tidy :=
  h.put List.nodup_nil

/-- `add` succeeds exactly if the role does not hold the reference, and puts it last. -/
theorem add_eq_ok {role : String} {r : Reference} :
    s.add role r = .ok t ↔ r ∉ s.get role ∧ t = s.put role (s.get role ++ [r]) := by
  unfold add contains
  split
  next hmem => exact ⟨nofun, fun h => absurd (of_decide_eq_true hmem) h.1⟩
  next hmem =>
    rw [decide_eq_true_eq] at hmem
    exact ⟨fun h => ⟨hmem, (Except.ok.inj h).symm⟩, fun h => congrArg Except.ok h.2.symm⟩

theorem Tidy.add (h : s.Tidy) {role : String} {r : Reference} (hadd : s.add role r = .ok t) :
    t.Tidy := by
  obtain ⟨hnew, rfl⟩ := add_eq_ok.1 hadd
  exact h.put ((h.nodup role).append (List.nodup_singleton r)
    (List.disjoint_singleton.2 hnew))

/-- `addAll` keeps a store `Tidy`. -/
theorem Tidy.addAll (h : s.Tidy) {role : String} {refs : List Reference}
    (hadds : s.addAll role refs = .ok t) : t.Tidy :=
  foldlM_induction hadds h fun _ _ _ _ hs hadd => hs.add hadd

theorem Tidy.remove (h : s.Tidy) (role : String) (r : Reference) : (s.remove role r).2.Tidy := by
  unfold RoleStore.remove
  split
  · exact h.put ((h.nodup role).erase r)
  · exact h

/-- A list repeats nothing exactly if it has no element twice and none that was `seen` before. -/
theorem firstRepeated?_eq_none {seen refs : List Reference} :
    firstRepeated? seen refs = none ↔ refs.Nodup ∧ ∀ r ∈ refs, r ∉ seen := by
  induction refs generalizing seen with
  | nil => simp [firstRepeated?]
  | cons r rest ih =>
    rw [firstRepeated?]
    split
    next hseen => simp [hseen]
    next hseen =>
      rw [ih, List.nodup_cons, List.forall_mem_cons]
      constructor
      · rintro ⟨hnodup, hrest⟩
        exact ⟨⟨fun hr => hrest r hr List.mem_cons_self, hnodup⟩, hseen,
          fun r' hr' hmem => hrest r' hr' (List.mem_cons_of_mem r hmem)⟩
      · rintro ⟨⟨hr, hnodup⟩, -, hrest⟩
        refine ⟨hnodup, fun r' hr' hmem => ?_⟩
        rcases List.mem_cons.1 hmem with rfl | hmem
        · exact hr hr'
        · exact hrest r' hr' hmem

/-- `set` succeeds exactly if the list repeats nothing (`firstRepeated?`), and puts it in place of
the role. -/
theorem set_eq_ok {role : String} {refs : List Reference} :
    s.set role refs = .ok t ↔ firstRepeated? [] refs = none ∧ t = s.put role refs := by
  rw [set]
  cases firstRepeated? [] refs <;> simp [eq_comm]

theorem Tidy.set (h : s.Tidy) {role : String} {refs : List Reference}
    (hset : s.set role refs = .ok t) : t.Tidy := by
  obtain ⟨hnone, rfl⟩ := set_eq_ok.1 hset
  exact h.put (firstRepeated?_eq_none.1 hnone).1

/-- The stores that the interface of stores makes: a new one (`ofAttributes`), and what every edit
of attributes or roles makes of one. -/
inductive Reached : RoleStore → Prop where
  | new (id : Id) (attributes : Attributes) : Reached (ofAttributes id attributes)
  | edit {s : RoleStore} (h : Reached s) (attributes : Attributes) :
      Reached { s with attributes := attributes }
  | add {s t : RoleStore} {role : String} {r : Reference} (h : Reached s)
      (hadd : s.add role r = .ok t) : Reached t
  | remove {s : RoleStore} (h : Reached s) (role : String) (r : Reference) :
      Reached (s.remove role r).2
  | set {s t : RoleStore} {role : String} {refs : List Reference} (h : Reached s)
      (hset : s.set role refs = .ok t) : Reached t
  | setSingle {s : RoleStore} (h : Reached s) (role : String) (r : Reference) :
      Reached (s.setSingle role r)
  | clear {s : RoleStore} (h : Reached s) (role : String) : Reached (s.clear role)

/-- The interface of stores makes `Tidy` stores only. -/
theorem Reached.tidy (h : s.Reached) : s.Tidy := by
  induction h with
  | new id attributes => exact tidy_ofAttributes id attributes
  | edit _ attributes ih => exact ih.withAttributes attributes
  | add _ hadd ih => exact ih.add hadd
  | remove _ role r ih => exact ih.remove role r
  | set _ hset ih => exact ih.set hset
  | setSingle _ role r ih => exact ih.put (List.nodup_singleton r)
  | clear _ role ih => exact ih.clear role

/-! ## Equality -/

/-- In a `Tidy` store the references of a role, and whether there is such a role, are one piece of
information. -/
theorem Tidy.find?_roles (h : s.Tidy) (role : String) :
    s.roles.find? role = if s.get role = [] then none else some (s.get role) := by
  have hfilled := h.filled role
  unfold RoleStore.get
  cases hfind : s.roles.find? role with
  | none => rfl
  | some refs =>
    rw [hfind] at hfilled
    rw [Option.getD_some, if_neg fun hnil => hfilled (congrArg some hnil)]

/-- Stores with the same entries (`find?`) are equal. -/
theorem ext_find? (hid : s.id = t.id) (hattributes : s.attributes = t.attributes)
    (h : ∀ role, s.roles.find? role = t.roles.find? role) : s = t := by
  cases s
  cases t
  cases hid
  cases hattributes
  cases SortedMap.ext_find? h
  rfl

/-- `Tidy` stores that agree on every role are equal. -/
theorem ext_get (hs : s.Tidy) (ht : t.Tidy) (hid : s.id = t.id)
    (hattributes : s.attributes = t.attributes) (h : ∀ role, s.get role = t.get role) : s = t :=
  ext_find? hid hattributes fun role => by rw [hs.find?_roles, ht.find?_roles, h role]

/-- Of two calls of `put` to one role the later one counts. -/
@[simp] theorem put_put (s : RoleStore) (role : String) (refs refs' : List Reference) :
    (s.put role refs).put role refs' = s.put role refs' :=
  ext_find? rfl rfl fun other => by
    by_cases h : other = role <;> simp [find?_put, h]

theorem clear_eq_put (s : RoleStore) (role : String) : s.clear role = s.put role [] := rfl

/-- A `Tidy` store does not change if `put` gives a role what it holds. -/
theorem Tidy.put_get (h : s.Tidy) (role : String) : s.put role (s.get role) = s := by
  refine ext_get (h.put (h.nodup role)) h rfl rfl fun other => ?_
  by_cases ho : other = role <;> simp [ho]

/-! ## One role at a time -/

/-- `t` is `s` with other references in one role. -/
structure Replaces (s t : RoleStore) (role : String) (refs : List Reference) : Prop where
  id : t.id = s.id
  attributes : t.attributes = s.attributes
  get : ∀ other, t.get other = if other = role then refs else s.get other

section Replaces

variable {role : String} {refs : List Reference}

theorem Replaces.get_self (h : s.Replaces t role refs) : t.get role = refs := by
  rw [h.get, if_pos rfl]

theorem Replaces.get_other (h : s.Replaces t role refs) {other : String} (hne : other ≠ role) :
    t.get other = s.get other := by
  rw [h.get, if_neg hne]

/-- What all references of a role have, and all those that a role is given. -/
theorem Replaces.forall_mem {p : Reference → Prop} (h : s.Replaces t role refs)
    (hrefs : ∀ ref ∈ refs, p ref) {other : String} (hs : ∀ ref ∈ s.get other, p ref) :
    ∀ ref ∈ t.get other, p ref := by
  rw [h.get]
  split
  · exact hrefs
  · exact hs

/-- `put` gives one role other references and leaves all else. -/
theorem replaces_put (s : RoleStore) (role : String) (refs : List Reference) :
    s.Replaces (s.put role refs) role refs :=
  ⟨rfl, rfl, fun other => s.get_put role other refs⟩

/-- So does `add`: the role has one more reference at its end. -/
theorem replaces_of_add {r : Reference} (h : s.add role r = .ok t) :
    s.Replaces t role (s.get role ++ [r]) := by
  obtain ⟨-, rfl⟩ := add_eq_ok.1 h
  exact replaces_put s role _

/-- So does `addAll`. -/
theorem replaces_of_addAll (h : s.addAll role refs = .ok t) :
    s.Replaces t role (s.get role ++ refs) := by
  obtain ⟨hid, hattributes, hget⟩ := @foldlM_add _ (fun _ => role) (fun r => r) refs s t h
  refine ⟨hid, hattributes, fun other => ?_⟩
  rw [hget]
  split
  next heq => simp [heq]
  next hne => simp [Ne.symm hne]

/-- The flag of `remove` says whether the reference was there. -/
theorem fst_remove (s : RoleStore) (role : String) (r : Reference) :
    (s.remove role r).1 = decide (r ∈ s.get role) := by
  unfold remove contains
  split
  next hmem => exact hmem.symm
  next hmem => exact (Bool.eq_false_iff.2 hmem).symm

/-- `remove` takes the reference out of its role and leaves all else. -/
theorem replaces_remove (s : RoleStore) (role : String) (r : Reference) :
    s.Replaces (s.remove role r).2 role ((s.get role).erase r) := by
  unfold remove contains
  split
  · exact replaces_put s role _
  next hmem =>
    have hself : (s.get role).erase r = s.get role :=
      List.erase_of_not_mem fun hr => hmem (decide_eq_true hr)
    refine ⟨rfl, rfl, fun other => ?_⟩
    rw [hself]
    split
    next heq => rw [heq]
    next => rfl

theorem replaces_clear (s : RoleStore) (role : String) : s.Replaces (s.clear role) role [] :=
  ⟨rfl, rfl, s.get_clear role⟩

end Replaces

/-! ## Roles that hold one kind -/

section OneKind

variable {role : String} {kind : Kind}

/-- A role that holds the references of one kind to the identifiers `l` has these as its `ids`. -/
theorem ids_of_get_eq {l : List Id} (h : s.get role = l.map (Reference.mk kind)) :
    s.ids role kind = l := by
  have hkind : Reference.ofKind? kind ∘ Reference.mk kind = some :=
    funext fun id => if_pos rfl
  rw [ids, h, List.filterMap_map, hkind, List.filterMap_some]

/-- A role that holds references of one kind only is told by its `ids`. -/
theorem get_eq_map_ids (h : ∀ ref ∈ s.get role, ref.kind = kind) :
    s.get role = (s.ids role kind).map (Reference.mk kind) := by
  have hself : ∀ ref ∈ s.get role,
      (Reference.ofKind? kind ref).map (Reference.mk kind) = some ref := fun ref href => by
    rw [Reference.ofKind?, if_pos (h ref href), Option.map_some, ← h ref href]
  rw [ids, List.map_filterMap, List.filterMap_congr hself, List.filterMap_some]

end OneKind

/-! ## All references -/

/-- Of all references listed role by role, those of a role are what is found under it. -/
theorem filter_flatMap_entries (role : String) {l : List (String × List Reference)}
    (hnodup : (l.map Prod.fst).Nodup) :
    (l.flatMap fun p => p.2.map fun r => (p.1, r)).filter (fun p => p.1 = role) =
      ((SortedMap.findEntry role l).getD []).map fun r => (role, r) := by
  induction l with
  | nil => rfl
  | cons p rest ih =>
    obtain ⟨name, refs⟩ := p
    rw [List.map_cons, List.nodup_cons] at hnodup
    rw [List.flatMap_cons, List.filter_append, ih hnodup.2, SortedMap.findEntry]
    by_cases hname : role = name
    · subst hname
      have hnone : SortedMap.findEntry role rest = none := by
        rw [Option.eq_none_iff_forall_ne_some]
        intro refs' hfind
        exact hnodup.1 (List.mem_map.2 ⟨_, (SortedMap.findEntry_eq_some hnodup.2).1 hfind, rfl⟩)
      simp [hnone, List.filter_map, Function.comp_def]
    · simp [hname, Ne.symm hname, List.filter_map, Function.comp_def]

/-- The references of a role stand together among the `parameters`, in their order. -/
theorem filter_parameters (s : RoleStore) (role : String) :
    s.parameters.filter (fun p => p.1 = role) = (s.get role).map fun r => (role, r) :=
  filter_flatMap_entries role s.roles.nodup_keys

/-- The `parameters` are the references of all roles. -/
theorem mem_parameters {p : String × Reference} : p ∈ s.parameters ↔ p.2 ∈ s.get p.1 := by
  have hfilter := s.filter_parameters p.1
  constructor
  · intro h
    have hmem : p ∈ s.parameters.filter (fun q => q.1 = p.1) :=
      List.mem_filter.2 ⟨h, decide_eq_true rfl⟩
    rw [hfilter] at hmem
    obtain ⟨r, hr, heq⟩ := List.mem_map.1 hmem
    exact heq ▸ hr
  · intro h
    have hmem : p ∈ (s.get p.1).map fun r => (p.1, r) := List.mem_map.2 ⟨p.2, h, rfl⟩
    rw [← hfilter] at hmem
    exact (List.mem_filter.1 hmem).1

/-- The `parameters` come in the order of role names. -/
theorem inKeyOrder_parameters (s : RoleStore) : InKeyOrder Prod.fst s.parameters := by
  refine List.pairwise_flatMap.2 ⟨fun p _ => ?_, s.roles.inKeyOrder_entries.imp ?_⟩
  · rw [List.pairwise_map]
    exact List.pairwise_of_forall fun _ _ => compare_isLE_self p.1
  · intro p q hpq x hx y hy
    obtain ⟨r, -, rfl⟩ := List.mem_map.1 hx
    obtain ⟨r', -, rfl⟩ := List.mem_map.1 hy
    exact hpq

end RoleStore

/-! ## Relations that fill a store -/

namespace Classes

variable {c : Classes} {x : RelationRecord}

theorem foldlM_add_tidy {ms : List Member} {s t : RoleStore} (hs : s.Tidy)
    (h : ms.foldlM (fun s m => s.add m.role (c.reference m)) s = .ok t) : t.Tidy :=
  foldlM_induction h hs fun _ _ _ _ hs hadd => hs.add hadd

/-- Members that repeat nothing are all taken by `add`. -/
theorem foldlM_add_of_nodup {ms : List Member} {s : RoleStore}
    (h : ∀ role, (s.get role ++ (ms.filter (·.role = role)).map c.reference).Nodup) :
    ∃ t, ms.foldlM (fun s m => s.add m.role (c.reference m)) s = .ok t := by
  induction ms generalizing s with
  | nil => exact ⟨s, rfl⟩
  | cons m rest ih =>
    have hm := h m.role
    rw [List.filter_cons_of_pos (by simp), List.map_cons] at hm
    have hnew : c.reference m ∉ s.get m.role := fun hmem =>
      (List.nodup_append.1 hm).2.2 _ hmem _ List.mem_cons_self rfl
    have hadd : s.add m.role (c.reference m) =
        .ok (s.put m.role (s.get m.role ++ [c.reference m])) := RoleStore.add_eq_ok.2 ⟨hnew, rfl⟩
    obtain ⟨t, ht⟩ := ih (s := s.put m.role (s.get m.role ++ [c.reference m])) fun role => by
      rw [RoleStore.get_put]
      by_cases hrole : role = m.role
      · subst hrole
        rwa [if_pos rfl, List.append_assoc, List.singleton_append]
      · have hother := h role
        rw [List.filter_cons_of_neg (by simpa using Ne.symm hrole)] at hother
        rwa [if_neg hrole]
    exact ⟨t, by rw [List.foldlM_cons, hadd]; exact ht⟩

/-- A relation reads as the one `Tidy` store that it fills. -/
theorem roleStore_eq_ok {s : RoleStore} : c.roleStore x = .ok s ↔ c.Fills x s ∧ s.Tidy := by
  constructor
  · intro h
    exact ⟨fills_of_roleStore h,
      foldlM_add_tidy (RoleStore.tidy_ofAttributes x.id x.attributes) h⟩
  · rintro ⟨hfills, htidy⟩
    -- Reading succeeds as no reference is repeated, and ends in a store that agrees with this one.
    have hnew : ∀ role, ((RoleStore.ofAttributes x.id x.attributes).get role ++
        (x.role role).map c.reference).Nodup := fun role => by
      rw [RoleStore.get_ofAttributes, List.nil_append]
      exact hfills.roles role ▸ htidy.nodup role
    obtain ⟨t, ht⟩ := foldlM_add_of_nodup hnew
    have hread : c.roleStore x = .ok t := ht
    have hfills' := fills_of_roleStore hread
    have htidy' := foldlM_add_tidy (RoleStore.tidy_ofAttributes x.id x.attributes) ht
    have heq : t = s := RoleStore.ext_get htidy' htidy (hfills'.id.trans hfills.id.symm)
      (hfills'.attributes.trans hfills.attributes.symm)
      fun role => (hfills'.roles role).trans (hfills.roles role).symm
    rw [hread, heq]

end Classes

end RoadNet
