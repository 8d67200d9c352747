import Mathlib.Data.List.Duplicate
import Mathlib.Data.Prod.Basic
import RoadNet.Proofs.ByteOrder
import RoadNet.Proofs.Histories

/-!
# RoadNet.Proofs.StoreHistories

Role stores that are edited call by call keep one form (`RoleStore.regular_after`), and giving a
role new references at once is the same as building it up again one by one
(`RoleStore.set_allOrNone`).

A call names the role that it edits and what that role holds then (`Call.role?`, `Call.leaves`).
What a call does to a store is said once: it is refused and changes nothing, or it replaces its one
role (`call_eq`, `call_attributes`). That a call keeps to its role, and that a run makes of the
roles what its accepted calls make of plain lists, is read off that.
-/

namespace RoadNet

namespace RoleStore

/-! ## Calls -/

/-- The calls that edit a store. -/
inductive Call where
  | add (role : String) (r : Reference)
  | remove (role : String) (r : Reference)
  | set (role : String) (refs : List Reference)
  | setSingle (role : String) (r : Reference)
  | clear (role : String)
  | stampRule (rule : String)
  /-- Any change to the attributes. -/
  | edit (change : Attributes → Attributes)

/-- The answer of a store to a call, and the store that the call leaves. -/
def call (s : RoleStore) : Call → Outcome RoleStore
  | .add role r => .ofAttempt s (s.add role r)
  | .remove role r => .ofRemoval (s.remove role r)
  | .set role refs => .ofAttempt s (s.set role refs)
  | .setSingle role r => .ofEdit (s.setSingle role r)
  | .clear role => .ofEdit (s.clear role)
  | .stampRule rule => .ofEdit (s.stampRule rule)
  | .edit change => .ofEdit { s with attributes := change s.attributes }

/-- The role that a call edits. -/
def Call.role? : Call → Option String
  | .add role _ => some role
  | .remove role _ => some role
  | .set role _ => some role
  | .setSingle role _ => some role
  | .clear role => some role
  | .stampRule _ => none
  | .edit _ => none

/-- What a call makes of the references of the role that it edits: an added one comes last, and a
removed one is taken out with `erase`. -/
def Call.leaves (refs : List Reference) : Call → List Reference
  | .add _ r => refs ++ [r]
  | .remove _ r => refs.erase r
  | .set _ new => new
  | .setSingle _ r => [r]
  | .clear _ => []
  | .stampRule _ => refs
  | .edit _ => refs

/-- What a call makes of lists of references by role. -/
def Call.replay (roles : String → List Reference) (c : Call) : String → List Reference :=
  match c.role? with
  | some role => Function.update roles role (c.leaves (roles role))
  | none => roles

/-! ## One call -/

variable {s t : RoleStore} {role : String} {c : Call}

/-- A call that edits a role is refused and changes nothing, or gives the role what it `leaves`. -/
theorem call_eq (s : RoleStore) (h : c.role? = some role) :
    ((s.call c).answer.isRefused = true ∧ (s.call c).state = s) ∨
      ((s.call c).answer.isRefused = false ∧
        s.Replaces (s.call c).state role (c.leaves (s.get role))) := by
  -- The calls that may fail, told by what they lead to.
  have hattempt {x : Except Fault RoleStore} {refs : List Reference}
      (hok : ∀ t, x = .ok t → s.Replaces t role refs) :
      ((Outcome.ofAttempt s x).answer.isRefused = true ∧ (Outcome.ofAttempt s x).state = s) ∨
        ((Outcome.ofAttempt s x).answer.isRefused = false ∧
          s.Replaces (Outcome.ofAttempt s x).state role refs) := by
    exact Outcome.of_attempt
      (r := fun t refused =>
        (refused = true ∧ t = s) ∨ (refused = false ∧ s.Replaces t role refs))
      (fun t ht => .inr ⟨rfl, hok t ht⟩) (.inl ⟨rfl, rfl⟩)
  cases c with
  | add role r =>
    cases h
    exact hattempt fun t hadd => replaces_of_add hadd
  | remove role r =>
    cases h
    exact .inr ⟨rfl, replaces_remove s role r⟩
  | set role refs =>
    cases h
    exact hattempt fun t hset => (set_eq_ok.1 hset).2 ▸ replaces_put s role refs
  | setSingle role r =>
    cases h
    exact .inr ⟨rfl, replaces_put s role [r]⟩
  | clear role =>
    cases h
    exact .inr ⟨rfl, replaces_clear s role⟩
  | stampRule rule => cases h
  | edit change => cases h

/-- A call that edits no role is accepted and changes attributes only. -/
theorem call_attributes (s : RoleStore) (h : c.role? = none) :
    (s.call c).answer.isRefused = false ∧
      ∃ attributes, (s.call c).state = { s with attributes := attributes } := by
  cases c with
  | stampRule rule => exact ⟨rfl, _, rfl⟩
  | edit change => exact ⟨rfl, _, rfl⟩
  | _ => cases h

/-- A refused call leaves the store as it is. -/
theorem state_of_refused (h : (s.call c).answer.isRefused = true) : (s.call c).state = s := by
  cases hrole : c.role? with
  | some role =>
    rcases s.call_eq hrole with hrefused | haccepted
    · exact hrefused.2
    · rw [haccepted.1] at h
      cases h
  | none =>
    rw [(s.call_attributes hrole).1] at h
    cases h

/-- A call to one role (`role?`) leaves all else alone. -/
theorem frame_of_role (h : c.role? = some role) :
    (s.call c).state.id = s.id ∧ (s.call c).state.attributes = s.attributes ∧
      ∀ other, other ≠ role → (s.call c).state.get other = s.get other := by
  rcases s.call_eq h with ⟨-, hstate⟩ | ⟨-, hrole⟩
  · rw [hstate]
    exact ⟨rfl, rfl, fun _ _ => rfl⟩
  · exact ⟨hrole.id, hrole.attributes, fun _ hne => hrole.get_other hne⟩

/-- The roles follow plain lists call by call, as `Call.replay` tells. -/
theorem get_call (s : RoleStore) (c : Call) :
    (s.call c).state.get =
      if (s.call c).answer.isRefused then s.get else Call.replay s.get c := by
  cases hrole : c.role? with
  | some role =>
    rcases s.call_eq hrole with ⟨hrefused, hstate⟩ | ⟨haccepted, hreplaces⟩
    · rw [if_pos hrefused, hstate]
    · funext other
      rw [haccepted, hreplaces.get]
      simp [Call.replay, hrole, Function.update_apply]
  | none =>
    obtain ⟨haccepted, attributes, hstate⟩ := s.call_attributes hrole
    rw [haccepted, hstate, if_neg Bool.false_ne_true, Call.replay, hrole]
    rfl

/-! ## Any number of calls -/

/-- A call to a store that its interface makes gives such a store. -/
theorem Reached.call (h : s.Reached) (c : Call) : (s.call c).state.Reached := by
  cases c with
  | add role r =>
    exact Outcome.of_attempt (r := fun t _ => t.Reached) (fun t hadd => h.add hadd) h
  | remove role r => exact h.remove role r
  | set role refs =>
    exact Outcome.of_attempt (r := fun t _ => t.Reached) (fun t hset => h.set hset) h
  | setSingle role r => exact h.setSingle role r
  | clear role => exact h.clear role
  | stampRule rule => exact h.edit _
  | edit change => exact h.edit _

/-- What calls make of a new store, its interface makes (`Reached`). -/
theorem reached_after (id : Id) (attributes : Attributes) (calls : List Call) :
    (after call (ofAttributes id attributes) calls).Reached :=
  after_induction (fun _ c h => h.call c) (.new id attributes) calls

/-! ## One form -/

/-- `remove` of what `add` has just put in restores a `Tidy` store. -/
theorem Tidy.remove_of_add (h : s.Tidy) {r : Reference} (hadd : s.add role r = .ok t) :
    t.remove role r = (true, s) := by
  obtain ⟨hnew, rfl⟩ := add_eq_ok.1 hadd
  simp [RoleStore.remove, contains, List.erase_append_right _ hnew, h.put_get]

/-- Each reference of each role is once among the `parameters` of a `Tidy` store. -/
theorem Tidy.nodup_parameters (h : s.Tidy) : s.parameters.Nodup := by
  refine List.nodup_iff_count_le_one.2 fun p => ?_
  have hrole : (s.parameters.filter fun q => q.1 = p.1).Nodup := by
    rw [filter_parameters]
    exact (h.nodup p.1).map (Prod.mk_right_injective p.1)
  calc s.parameters.count p
      = (s.parameters.filter fun q => q.1 = p.1).count p := (List.count_filter (by simp)).symm
    _ ≤ 1 := List.nodup_iff_count_le_one.1 hrole p

/-- The `parameters` list roles in the byte order of their names. -/
theorem byteOrder_parameters (s : RoleStore) :
    s.parameters.Pairwise fun p q => Text.bytes p.1 ≤ Text.bytes q.1 :=
  s.inKeyOrder_parameters.imp fun h => Text.isLE_compare_iff_bytes_le.1 h

/-- What holds of every store that its own calls have made. -/
structure Regular (s : RoleStore) : Prop extends s.Tidy where
  /-- Its identifier, its attributes and what its roles hold tell the store. -/
  determined : ∀ t : RoleStore, t.Reached → t.id = s.id → t.attributes = s.attributes →
    (∀ role, t.get role = s.get role) → t = s
  /-- A new reference can be added, and taking it back restores the store. -/
  restored : ∀ role r, r ∉ s.get role →
    ∃ t, s.add role r = .ok t ∧ t.remove role r = (true, s)
  /-- A call to one role leaves all else alone. -/
  frame : ∀ c role, Call.role? c = some role →
    (s.call c).state.id = s.id ∧ (s.call c).state.attributes = s.attributes ∧
      ∀ other, other ≠ role → (s.call c).state.get other = s.get other
  /-- A refused call changes nothing. -/
  refused : ∀ c, (s.call c).answer.isRefused = true → (s.call c).state = s
  /-- Each reference of each role is listed, and only once. -/
  listed : s.parameters.Nodup ∧ ∀ p, p ∈ s.parameters ↔ p.2 ∈ s.get p.1
  /-- Roles are listed in the byte order of their names. -/
  roleOrder : s.parameters.Pairwise fun p q => Text.bytes p.1 ≤ Text.bytes q.1
  /-- The references of a role are listed in their order. -/
  referenceOrder : ∀ role,
    s.parameters.filter (fun p => p.1 = role) = (s.get role).map fun r => (role, r)

/-- Every store that its interface makes is `Regular`. -/
theorem Reached.regular (h : s.Reached) : s.Regular where
  toTidy := h.tidy
  determined _ ht hid hattributes hget := ext_get ht.tidy h.tidy hid hattributes hget
  restored _ _ hnew :=
    have hadd := add_eq_ok.2 ⟨hnew, rfl⟩
    ⟨_, hadd, h.tidy.remove_of_add hadd⟩
  frame _ _ hrole := frame_of_role hrole
  refused _ hrefused := state_of_refused hrefused
  listed := ⟨h.tidy.nodup_parameters, fun _ => mem_parameters⟩
  roleOrder := s.byteOrder_parameters
  referenceOrder := s.filter_parameters

/-- After any calls to a new store, it is `Regular`, and its roles hold what the `accepted` calls
make of roles without references. -/
theorem regular_after (id : Id) (attributes : Attributes) (calls : List Call) :
    (after call (ofAttributes id attributes) calls).Regular ∧
      (after call (ofAttributes id attributes) calls).get =
        (accepted call (ofAttributes id attributes) calls).foldl Call.replay fun _ => [] := by
  have hreplays : ∀ s roles c, s.get = roles → (call s c).state.get =
      if (call s c).answer.isRefused then roles else Call.replay roles c := by
    intro s roles c hroles
    rw [← hroles]
    exact s.get_call c
  exact ⟨(reached_after id attributes calls).regular,
    after_replays (r := fun s roles => get s = roles) hreplays rfl calls⟩

/-! ## All references of a role at once -/

/-- `addAll` stops at the first reference that the role holds already or that was added before it,
that is at `firstRepeated?`. -/
theorem addAll_put (s : RoleStore) (role : String) {held seen : List Reference}
    (h : ∀ r, r ∈ seen ↔ r ∈ held) (refs : List Reference) :
    (s.put role held).addAll role refs =
      match firstRepeated? seen refs with
      | some r => .error (.duplicateReference s.id role r)
      | none => .ok (s.put role (held ++ refs)) := by
  induction refs generalizing held seen with
  | nil => simp [addAll, firstRepeated?, pure, Except.pure]
  | cons r rest ih =>
    rw [addAll, List.foldlM_cons, firstRepeated?]
    by_cases hr : r ∈ seen
    · have hadd : (s.put role held).add role r = .error (.duplicateReference s.id role r) := by
        simp [add, contains, (h r).1 hr]
      rw [hadd, if_pos hr]
      rfl
    · have hadd : (s.put role held).add role r = .ok (s.put role (held ++ [r])) :=
        add_eq_ok.2 ⟨by simpa [← h r] using hr, by simp⟩
      -- What the role holds now is again what was seen.
      have hseen : ∀ r', r' ∈ r :: seen ↔ r' ∈ held ++ [r] := fun r' => by simp [h r', or_comm]
      rw [hadd, if_neg hr, List.append_cons held r rest]
      exact ih hseen

/-- `set` is `clear` and then `addAll`. -/
theorem set_eq_addAll (s : RoleStore) (role : String) (refs : List Reference) :
    s.set role refs = (s.clear role).addAll role refs :=
  (s.addAll_put role (fun _ => Iff.rfl) refs).symm

/-- To a role that holds nothing yet `addAll` and `set` give the same. -/
theorem Tidy.addAll_eq_set (h : s.Tidy) (hrole : s.get role = []) (refs : List Reference) :
    s.addAll role refs = s.set role refs := by
  rw [set_eq_addAll, clear_eq_put, ← hrole, h.put_get]

/-- What `firstRepeated?` finds occurs twice, or it was `seen` before. -/
theorem duplicate_of_firstRepeated? {seen refs : List Reference} {r : Reference}
    (h : firstRepeated? seen refs = some r) : r ∈ seen ∧ r ∈ refs ∨ List.Duplicate r refs := by
  induction refs generalizing seen with
  | nil => cases h
  | cons r' rest ih =>
    rw [firstRepeated?] at h
    split at h
    next hseen =>
      obtain rfl := Option.some.inj h
      exact .inl ⟨hseen, List.mem_cons_self⟩
    next =>
      rcases ih h with ⟨hseen, hrest⟩ | hrest
      · rcases List.mem_cons.1 hseen with rfl | hseen
        · exact .inr (.cons_mem hrest)
        · exact .inl ⟨hseen, List.mem_cons_of_mem r' hrest⟩
      · exact .inr (.cons_duplicate hrest)

theorem duplicate_of_firstRepeated?_nil {refs : List Reference} {r : Reference}
    (h : firstRepeated? [] refs = some r) : List.Duplicate r refs :=
  (duplicate_of_firstRepeated? h).resolve_left fun hseen => List.not_mem_nil hseen.1

/-- `set` fails only with `duplicateReference`, for one of the new references. -/
theorem set_eq_error {refs : List Reference} {fault : Fault} (h : s.set role refs = .error fault) :
    ∃ r ∈ refs, fault = .duplicateReference s.id role r := by
  rw [set] at h
  cases hrepeated : firstRepeated? [] refs with
  | none => simp [hrepeated] at h
  | some r =>
    rw [hrepeated] at h
    exact ⟨r, (duplicate_of_firstRepeated?_nil hrepeated).mem, (Except.error.inj h).symm⟩

/-- `set` clears a role and adds the references one by one, all of them or none (`allOrNone`). A
role that is given none is gone, and one reference is set as `setSingle` sets it. -/
theorem set_allOrNone (s : RoleStore) (role : String) (refs : List Reference) :
    s.call (.set role refs) = allOrNone call s (.clear role :: refs.map (.add role)) ∧
      (∀ fault, s.set role refs = .error fault →
        ∃ r ∈ refs, fault = .duplicateReference s.id role r) ∧
      (s.set role [] = .ok (s.clear role) ∧ (s.clear role).roles.find? role = none) ∧
      ∀ r, s.set role [r] = .ok (s.setSingle role r) := by
  refine ⟨?_, fun _ h => set_eq_error h, ⟨rfl, ?_⟩, fun _ => rfl⟩
  · have hadd : ∀ s r, call s (.add role r) = .ofAttempt s (s.add role r) := fun _ _ => rfl
    rw [allOrNone_attempts hadd rfl, call, set_eq_addAll]
    rfl
  · rw [clear_eq_put, find?_put, if_pos rfl, if_pos rfl]

/-- Of a list that repeats two references, the one that is repeated first is blamed. -/
example : (ofAttributes 7 .empty).set RoleName.refers ([1, 2, 2, 1].map .lineString) =
    .error (.duplicateReference 7 RoleName.refers (.lineString 2)) := rfl

end RoleStore

end RoadNet
