import RoadNet.Assembly
import RoadNet.Proofs.Attempts

/-!
# RoadNet.Proofs.Relations

What a relation becomes, given what its members name.

* `lanelet_eq_ok` — a relation reads as a lanelet exactly if each bound is one line string and
  its rules are regulatory elements;
* `fills_of_roleStore` — a store holds, role by role, what the members of the relation name;
* `ofRecord_congr` — nothing but the types of its members and of the relation itself matters;
* `ofRecord_eq_error` — where each failure comes from.
-/

namespace RoadNet

/-! ## Faults -/

/-- A fault that says how a relation breaks the `rule` and blames no other record. -/
inductive Fault.Breaks (rule : String) (id : Id) : Fault → Prop where
  | misfit (reason : Misfit) : Breaks rule id (.invalidRelation rule id reason)
  | conflict (lanelet : Id) (role existing : String) :
      Breaks rule id (.conflictingRole id lanelet role existing)

/-! ## References in a row -/

/-- References that `add` puts in one after the other stand behind those that their roles hold. -/
theorem RoleStore.foldlM_add {key : α → String} {ref : α → Reference} {l : List α}
    {s t : RoleStore} (h : l.foldlM (fun s a => s.add (key a) (ref a)) s = .ok t) :
    t.id = s.id ∧ t.attributes = s.attributes ∧
      ∀ role, t.get role = s.get role ++ (l.filter (key · = role)).map ref := by
  induction l generalizing s with
  | nil =>
    obtain rfl : s = t := Except.ok.inj h
    exact ⟨rfl, rfl, fun role => by rw [List.filter_nil, List.map_nil, List.append_nil]⟩
  | cons a rest ih =>
    rw [List.foldlM_cons] at h
    obtain ⟨s', hs', hrest⟩ := bind_eq_ok.1 h
    obtain ⟨hid, hattributes, hget⟩ := ih hrest
    unfold RoleStore.add at hs'
    split at hs'
    · cases hs'
    · obtain rfl := Except.ok.inj hs'
      refine ⟨hid, hattributes, fun role => ?_⟩
      rw [hget, RoleStore.get_put]
      by_cases hrole : role = key a
      · subst hrole
        rw [if_pos rfl, List.filter_cons_of_pos (by simp), List.map_cons, List.append_assoc,
          List.singleton_append]
      · rw [if_neg hrole, List.filter_cons_of_neg (by simpa using Ne.symm hrole)]

/-! ## References of members -/

namespace Classes

variable {c c' : Classes} {x : RelationRecord}

@[simp] theorem id_reference (c : Classes) (m : Member) : (c.reference m).id = m.id := by
  rcases m with ⟨role, kind, id⟩
  cases kind with
  | node => rfl
  | way => simp only [reference]; split <;> rfl
  | relation => simp only [reference]; split <;> rfl

@[simp] theorem recordKind_reference (c : Classes) (m : Member) :
    (c.reference m).kind.recordKind = m.kind := by
  rcases m with ⟨role, kind, id⟩
  cases kind with
  | node => rfl
  | way => simp only [reference]; split <;> rfl
  | relation => simp only [reference]; split <;> rfl

/-- `Classes.reference` of a member is a reference exactly if their kinds and identifiers agree. -/
theorem reference_eq_iff {m : Member} {ref : Reference} :
    c.reference m = ref ↔ (c.reference m).kind = ref.kind ∧ m.id = ref.id := by
  rw [← c.id_reference m]
  exact ⟨fun h => h ▸ ⟨rfl, rfl⟩, fun ⟨hkind, hid⟩ => Reference.mk.injEq .. ▸ ⟨hkind, hid⟩⟩

/-- The element that a record of a kind and identifier stands for, as `reference` types members. -/
def typed (c : Classes) (kind : RecordKind) (id : Id) : Reference := c.reference ⟨"", kind, id⟩

@[simp] theorem id_typed (c : Classes) (kind : RecordKind) (id : Id) :
    (c.typed kind id).id = id :=
  c.id_reference ⟨"", kind, id⟩

@[simp] theorem recordKind_typed (c : Classes) (kind : RecordKind) (id : Id) :
    (c.typed kind id).kind.recordKind = kind :=
  c.recordKind_reference ⟨"", kind, id⟩

/-- `reference` does not look at the role of a member. -/
theorem reference_eq_typed (c : Classes) (m : Member) : c.reference m = c.typed m.kind m.id := by
  rcases m with ⟨role, kind, id⟩
  cases kind <;> rfl

/-- A way stands for a polygon exactly if its identifier is among `polygons`. -/
@[simp] theorem typed_eq_polygon {id : Id} :
    c.typed .way id = ⟨.polygon, id⟩ ↔ id ∈ c.polygons := by
  simp [typed, reference]

@[simp] theorem typed_eq_lineString {id : Id} :
    c.typed .way id = ⟨.lineString, id⟩ ↔ id ∉ c.polygons := by
  simp [typed, reference]

/-- A relation stands for a lanelet exactly if its identifier is among `lanelets`. -/
@[simp] theorem typed_eq_lanelet {id : Id} :
    c.typed .relation id = ⟨.lanelet, id⟩ ↔ id ∈ c.lanelets := by
  simp [typed, reference]

@[simp] theorem typed_eq_regulatoryElement {id : Id} :
    c.typed .relation id = ⟨.regulatoryElement, id⟩ ↔ id ∉ c.lanelets := by
  simp [typed, reference]

/-! ## Lanelets -/

/-- The `bound` of a lanelet is the one element that its role names, a line string. -/
theorem bound_eq_ok {role : String} {id : Id} :
    c.bound x role = .ok id ↔ (x.role role).map c.reference = [.lineString id] := by
  unfold bound
  split
  next m hrole =>
    rw [hrole, List.map_singleton, List.singleton_inj, reference_eq_iff]
    split
    next hkind => exact ⟨fun h => ⟨hkind, Except.ok.inj h⟩, fun h => congrArg Except.ok h.2⟩
    next hkind => exact ⟨nofun, fun h => absurd h.1 hkind⟩
  next hrole =>
    refine ⟨nofun, fun h => ?_⟩
    obtain ⟨m, hm, -⟩ := List.map_eq_singleton_iff.1 h
    exact absurd hm (hrole m)

/-- `bound` fails only with what breaks the rules of lanelets. -/
theorem bound_failsOnly (c : Classes) (x : RelationRecord) (role : String) :
    FailsOnly (Fault.Breaks TypeTag.lanelet x.id) (c.bound x role) := by
  unfold bound
  split
  · split
    · exact .ok _
    · exact .error (.misfit _)
  · exact .error (.misfit _)

theorem laneletRule_eq_ok {m : Member} {id : Id} :
    c.laneletRule x m = .ok id ↔ c.reference m = .regulatoryElement id := by
  unfold laneletRule
  rw [reference_eq_iff]
  split
  next hkind => exact ⟨fun h => ⟨hkind, Except.ok.inj h⟩, fun h => congrArg Except.ok h.2⟩
  next hkind => exact ⟨nofun, fun h => absurd h.1 hkind⟩

/-- The rules of a lanelet are what its role names, all of them regulatory elements. -/
theorem laneletRules_eq_ok {ms : List Member} {ids : List Id} :
    ms.mapM (c.laneletRule x) = .ok ids ↔
      ms.map c.reference = ids.map Reference.regulatoryElement := by
  induction ms generalizing ids with
  | nil =>
    rw [List.mapM_nil, List.map_nil]
    exact ⟨fun h => by rw [← Except.ok.inj h]; rfl,
      fun h => by rw [List.map_eq_nil_iff.1 h.symm]; rfl⟩
  | cons m rest ih =>
    rw [List.mapM_cons, bind_eq_ok, List.map_cons]
    constructor
    · rintro ⟨id, hid, hrest⟩
      obtain ⟨ids', hids, heq⟩ := bind_eq_ok.1 hrest
      rw [← Except.ok.inj heq, List.map_cons, laneletRule_eq_ok.1 hid, ih.1 hids]
    · intro h
      cases ids with
      | nil => cases h
      | cons id ids' =>
        obtain ⟨hm, hrest⟩ := List.cons.inj h
        exact ⟨id, laneletRule_eq_ok.2 hm, bind_eq_ok.2 ⟨ids', ih.2 hrest, rfl⟩⟩

theorem laneletRule_failsOnly (c : Classes) (x : RelationRecord) (m : Member) :
    FailsOnly (Fault.Breaks TypeTag.lanelet x.id) (c.laneletRule x m) := by
  unfold laneletRule
  split
  · exact .ok _
  · exact .error (.misfit _)

/-- What the relation `x` says about the lanelet `l`: its data, its bounds and its rules. -/
structure Describes (c : Classes) (x : RelationRecord) (l : Lanelet) : Prop where
  id : l.id = x.id
  attributes : l.attributes = x.attributes
  left : (x.role RoleName.left).map c.reference = [.lineString l.left]
  right : (x.role RoleName.right).map c.reference = [.lineString l.right]
  rules : (x.role RoleName.regulatoryElement).map c.reference =
    l.regulatoryElements.map Reference.regulatoryElement

/-- A relation reads as a lanelet exactly if it `Describes` it. -/
theorem lanelet_eq_ok {l : Lanelet} : c.lanelet x = .ok l ↔ c.Describes x l := by
  unfold lanelet
  rw [bind_eq_ok]
  constructor
  · rintro ⟨left, hleft, h⟩
    obtain ⟨right, hright, h⟩ := bind_eq_ok.1 h
    obtain ⟨rules, hrules, h⟩ := bind_eq_ok.1 h
    cases h
    exact ⟨rfl, rfl, bound_eq_ok.1 hleft, bound_eq_ok.1 hright, laneletRules_eq_ok.1 hrules⟩
  · intro h
    obtain ⟨id, left, right, rules, attributes⟩ := l
    obtain ⟨rfl, rfl, hleft, hright, hrules⟩ := h
    exact ⟨left, bound_eq_ok.2 hleft, bind_eq_ok.2 ⟨right, bound_eq_ok.2 hright,
      bind_eq_ok.2 ⟨rules, laneletRules_eq_ok.2 hrules, rfl⟩⟩⟩

/-- Reading a lanelet fails only with what breaks the rules of lanelets (`Fault.Breaks`). -/
theorem lanelet_failsOnly (c : Classes) (x : RelationRecord) :
    FailsOnly (Fault.Breaks TypeTag.lanelet x.id) (c.lanelet x) :=
  (bound_failsOnly c x RoleName.left).bind fun _ =>
    (bound_failsOnly c x RoleName.right).bind fun _ =>
      (FailsOnly.mapM (laneletRule_failsOnly c x) _).bind fun _ => .ok _

/-! ## Stores -/

/-- The data of the relation `x` as the store `s`: role by role what its members name. -/
structure Fills (c : Classes) (x : RelationRecord) (s : RoleStore) : Prop where
  id : s.id = x.id
  attributes : s.attributes = x.attributes
  roles : ∀ role, s.get role = (x.role role).map c.reference

/-- Members are refused only where a role would hold an element twice, as `duplicateReference`. -/
theorem foldlM_add_eq_error {ms : List Member} {s : RoleStore} {fault : Fault}
    (h : ms.foldlM (fun s m => s.add m.role (c.reference m)) s = .error fault) :
    ∃ role member, fault = .duplicateReference s.id role member := by
  induction ms generalizing s with
  | nil => cases h
  | cons m rest ih =>
    rw [List.foldlM_cons] at h
    rcases bind_eq_error.1 h with h | ⟨s', hs', hrest⟩
    · unfold RoleStore.add at h
      split at h
      · exact ⟨_, _, (Except.error.inj h).symm⟩
      · cases h
    · unfold RoleStore.add at hs'
      split at hs'
      · cases hs'
      · obtain rfl := Except.ok.inj hs'
        obtain ⟨role, member, hfault⟩ := ih hrest
        exact ⟨role, member, hfault⟩

/-- The `roleStore` of a relation holds what its members name. -/
theorem fills_of_roleStore {s : RoleStore} (h : c.roleStore x = .ok s) : c.Fills x s := by
  obtain ⟨hid, hattributes, hget⟩ := RoleStore.foldlM_add h
  exact ⟨hid, hattributes, fun role => hget role⟩

/-- `roleStore` fails only with `duplicateReference`. -/
theorem roleStore_eq_error {fault : Fault} (h : c.roleStore x = .error fault) :
    ∃ role member, fault = .duplicateReference x.id role member :=
  foldlM_add_eq_error h

/-! ## Only the types of members matter -/

theorem role_subset (x : RelationRecord) (role : String) : x.role role ⊆ x.members :=
  List.filter_sublist.subset

/-- `bound` looks at its relation only through `reference` of the members. -/
theorem bound_congr (h : ∀ m ∈ x.members, c.reference m = c'.reference m) (role : String) :
    c.bound x role = c'.bound x role := by
  unfold bound
  split
  next m hrole =>
    have hm : m ∈ x.members := role_subset x role (hrole ▸ List.mem_singleton_self m)
    rw [h m hm]
  next => rfl

theorem laneletRules_congr {ms : List Member}
    (h : ∀ m ∈ ms, c.reference m = c'.reference m) :
    ms.mapM (c.laneletRule x) = ms.mapM (c'.laneletRule x) := by
  induction ms with
  | nil => rfl
  | cons m rest ih =>
    rw [List.mapM_cons, List.mapM_cons, ih fun m' hm' => h m' (List.mem_cons_of_mem m hm'),
      laneletRule, laneletRule, h m List.mem_cons_self]

/-- So does `lanelet`. -/
theorem lanelet_congr (h : ∀ m ∈ x.members, c.reference m = c'.reference m) :
    c.lanelet x = c'.lanelet x := by
  unfold lanelet
  rw [bound_congr h, bound_congr h,
    laneletRules_congr fun m hm => h m (role_subset x RoleName.regulatoryElement hm)]

theorem foldlM_add_congr {ms : List Member} (h : ∀ m ∈ ms, c.reference m = c'.reference m)
    (s : RoleStore) :
    ms.foldlM (fun s m => s.add m.role (c.reference m)) s =
      ms.foldlM (fun s m => s.add m.role (c'.reference m)) s := by
  induction ms generalizing s with
  | nil => rfl
  | cons m rest ih =>
    rw [List.foldlM_cons, List.foldlM_cons, h m List.mem_cons_self]
    exact congrArg _ (funext fun s' => ih (fun m' hm' => h m' (List.mem_cons_of_mem m hm')) s')

/-- So does `roleStore`. -/
theorem roleStore_congr (h : ∀ m ∈ x.members, c.reference m = c'.reference m) :
    c.roleStore x = c'.roleStore x :=
  foldlM_add_congr h _

end Classes

/-! ## Rules -/

namespace RuleRegistry

variable {g : RuleRegistry} {s : RoleStore}

/-- Every registered factory that accepts a store hands it on as the store of its element. -/
def KeepsStores (g : RuleRegistry) : Prop :=
  ∀ name factory, g.factories.find? name = some factory →
    ∀ s e, factory s = .ok e → e.store = s

/-- `upgrade` reads a store by the factory that it names, or leaves it plain data (`generic`). -/
theorem upgrade_eq_ok {e : RegulatoryElement} (h : g.upgrade s = .ok e) :
    (∃ name factory, g.factories.find? name = some factory ∧ factory s = .ok e) ∨
      e = .generic s := by
  unfold upgrade at h
  split at h
  next name hname =>
    unfold resolve at h
    split at h
    next factory hfactory => exact .inl ⟨name, factory, hfactory, h⟩
    next => exact .inr (Except.ok.inj h).symm
  next => exact .inr (Except.ok.inj h).symm

/-- A fault of `upgrade` is that of the factory that the store names. -/
theorem upgrade_eq_error {fault : Fault} (h : g.upgrade s = .error fault) :
    ∃ name factory, s.ruleName? = some name ∧ g.factories.find? name = some factory ∧
      factory s = .error fault := by
  unfold upgrade at h
  split at h
  next name hname =>
    unfold resolve at h
    split at h
    next factory hfactory => exact ⟨name, factory, hname, hfactory, h⟩
    next => cases h
  next => cases h

/-- `upgrade` hands on the store. -/
theorem KeepsStores.upgrade (keeps : g.KeepsStores) {e : RegulatoryElement}
    (h : g.upgrade s = .ok e) : e.store = s := by
  rcases upgrade_eq_ok h with ⟨name, factory, hfactory, he⟩ | rfl
  · exact keeps name factory hfactory s e he
  · rfl

end RuleRegistry

/-! ## Building -/

namespace BuiltRelation

variable {g : RuleRegistry} {c c' : Classes} {x : RelationRecord}

/-- A relation builds to a lanelet exactly if it is classed as one and `Describes` it. -/
theorem ofRecord_eq_lanelet {l : Lanelet} :
    ofRecord g c x = .ok (.lanelet l) ↔ x.id ∈ c.lanelets ∧ c.Describes x l := by
  unfold ofRecord
  split
  next hmem =>
    rw [map_eq_ok, ← Classes.lanelet_eq_ok]
    exact ⟨fun ⟨l', hl, heq⟩ => ⟨hmem, lanelet.inj heq ▸ hl⟩, fun h => ⟨l, h.2, rfl⟩⟩
  next hmem =>
    refine ⟨fun h => ?_, fun h => absurd h.1 hmem⟩
    obtain ⟨e, -, heq⟩ := map_eq_ok.1 h
    cases heq

/-- A relation builds to a regulatory element exactly if it is not classed as a lanelet and
`upgrade` makes the element of its store. -/
theorem ofRecord_eq_element {e : RegulatoryElement} :
    ofRecord g c x = .ok (.element e) ↔
      x.id ∉ c.lanelets ∧ ∃ s, c.roleStore x = .ok s ∧ g.upgrade s = .ok e := by
  unfold ofRecord
  split
  next hmem =>
    refine ⟨fun h => ?_, fun h => absurd hmem h.1⟩
    obtain ⟨l, -, heq⟩ := map_eq_ok.1 h
    cases heq
  next hmem =>
    rw [map_eq_ok]
    constructor
    · rintro ⟨e', he, heq⟩
      exact ⟨hmem, bind_eq_ok.1 (element.inj heq ▸ he)⟩
    · rintro ⟨-, hs⟩
      exact ⟨e, bind_eq_ok.2 hs, rfl⟩

/-- A relation fails as a lanelet (`Fault.Breaks`), because a role names an element twice, or by the
verdict of its rule. -/
theorem ofRecord_eq_error {fault : Fault} (h : ofRecord g c x = .error fault) :
    Fault.Breaks TypeTag.lanelet x.id fault ∨
      (∃ role member, fault = .duplicateReference x.id role member) ∨
      ∃ s, c.roleStore x = .ok s ∧ g.upgrade s = .error fault := by
  unfold ofRecord at h
  split at h
  · exact .inl (Classes.lanelet_failsOnly c x fault (map_eq_error.1 h))
  · rcases bind_eq_error.1 (map_eq_error.1 h) with h | h
    · exact .inr (.inl (Classes.roleStore_eq_error h))
    · exact .inr (.inr h)

/-- `ofRecord` looks at the classes only through the types of its members and the decision on the
relation itself. -/
theorem ofRecord_congr (h : ∀ m ∈ x.members, c.reference m = c'.reference m)
    (hx : x.id ∈ c.lanelets ↔ x.id ∈ c'.lanelets) : ofRecord g c x = ofRecord g c' x := by
  unfold ofRecord
  rw [Classes.lanelet_congr h, Classes.roleStore_congr h]
  simp only [hx]

end BuiltRelation

end RoadNet
