import RoadNet.Proofs.Layers
import RoadNet.Proofs.Relations

/-!
# RoadNet.Proofs.Rules

What the built-in rules ask of a relation, and which registries read relations faithfully.

* `TrafficLight.ofStore_eq_ok`, `RightOfWay.ofStore_eq_ok`, `SignRule.check_eq_ok` — a store is
  read under a rule exactly if its roles fit;
* `RuleRegistry.failsOnly_of_mem_builtinRules` — a refusal speaks of the store alone;
* `RuleRegistry.Grown` — the built-in registry and what it grows to when factories are
  registered that read a store by one of the built-in rules or wrap it;
* `Grown.fits` — whatever a grown registry makes of a store fits its rule.
-/

namespace RoadNet

/-! ## Checks -/

/-- `checkKind` accepts exactly the stores whose role holds references of the kind only. -/
theorem RoleStore.checkKind_eq_ok {s : RoleStore} {rule role : String} {kind : Kind} :
    s.checkKind rule role kind = .ok () ↔ ∀ ref ∈ s.get role, ref.kind = kind := by
  unfold checkKind
  split
  next bad hbad =>
    refine ⟨nofun, fun h => ?_⟩
    have hkind := List.find?_some hbad
    exact absurd (h bad (List.mem_of_find?_eq_some hbad)) (of_decide_eq_true hkind)
  next hnone =>
    refine ⟨fun _ ref href => ?_, fun _ => rfl⟩
    simpa using List.find?_eq_none.1 hnone ref href

theorem RoleStore.checkKind_failsOnly (s : RoleStore) (rule role : String) (kind : Kind) :
    FailsOnly (Fault.Breaks rule s.id) (s.checkKind rule role kind) := by
  unfold checkKind
  split
  · exact .error (.misfit _)
  · exact .ok _

/-! ## Built-in rules -/

/-- What a traffic light asks of its roles, in `ofStore`. -/
structure TrafficLight.Fits (s : RoleStore) : Prop where
  lights : s.get RoleName.refers ≠ []
  stopLine : (s.get RoleName.refLine).length = 1
  refers : ∀ ref ∈ s.get RoleName.refers, ref.kind = .lineString
  refLine : ∀ ref ∈ s.get RoleName.refLine, ref.kind = .lineString

/-- `TrafficLight.ofStore` reads exactly the stores that fit, as they are. -/
theorem TrafficLight.ofStore_eq_ok {s : RoleStore} {t : TrafficLight} :
    ofStore s = .ok t ↔ t.store = s ∧ Fits s := by
  unfold ofStore
  rw [throw_if_eq_ok, throw_if_eq_ok, check_then_eq_ok, check_then_eq_ok,
    RoleStore.checkKind_eq_ok, RoleStore.checkKind_eq_ok, List.isEmpty_iff, ne_eq,
    Decidable.not_not]
  constructor
  · rintro ⟨hlights, hstop, hrefers, hline, h⟩
    exact ⟨congrArg store (Except.ok.inj h).symm, hlights, hstop, hrefers, hline⟩
  · rintro ⟨rfl, hlights, hstop, hrefers, hline⟩
    exact ⟨hlights, hstop, hrefers, hline, rfl⟩

theorem TrafficLight.ofStore_failsOnly (s : RoleStore) :
    FailsOnly (Fault.Breaks ruleName s.id) (ofStore s) :=
  .throw_if (.misfit _) <| .throw_if (.misfit _) <|
    (s.checkKind_failsOnly ruleName RoleName.refers .lineString).bind fun _ =>
      (s.checkKind_failsOnly ruleName RoleName.refLine .lineString).bind fun _ => .ok _

/-- What a right of way rule asks of its roles, in `ofStore`. -/
structure RightOfWay.Fits (s : RoleStore) : Prop where
  rightOfWay : ∀ ref ∈ s.get RoleName.rightOfWay, ref.kind = .lanelet
  yielding : ∀ ref ∈ s.get RoleName.yielding, ref.kind = .lanelet
  exclusive : ∀ ref ∈ s.get RoleName.yielding, ref ∉ s.get RoleName.rightOfWay
  stopLine : (s.get RoleName.refLine).length ≤ 1
  refLine : ∀ ref ∈ s.get RoleName.refLine, ref.kind = .lineString

/-- `RightOfWay.ofStore` reads exactly the stores that fit, as they are. -/
theorem RightOfWay.ofStore_eq_ok {s : RoleStore} {t : RightOfWay} :
    ofStore s = .ok t ↔ t.store = s ∧ Fits s := by
  unfold ofStore
  rw [check_then_eq_ok, check_then_eq_ok, check_then_eq_ok, throw_if_eq_ok,
    RoleStore.checkKind_eq_ok, RoleStore.checkKind_eq_ok, RoleStore.checkKind_eq_ok]
  constructor
  · rintro ⟨hright, hyield, hline, hstop, h⟩
    split at h
    · cases h
    next hnone =>
      refine ⟨congrArg store (Except.ok.inj h).symm, hright, hyield, fun ref href hboth => ?_,
        by omega, hline⟩
      exact List.find?_eq_none.1 hnone ref href (decide_eq_true hboth)
  · rintro ⟨rfl, hright, hyield, hexclusive, hstop, hline⟩
    refine ⟨hright, hyield, hline, by omega, ?_⟩
    split
    next both hboth =>
      have hmem := List.find?_some hboth
      exact absurd (of_decide_eq_true hmem)
        (hexclusive both (List.mem_of_find?_eq_some hboth))
    next => rfl

theorem RightOfWay.ofStore_failsOnly (s : RoleStore) :
    FailsOnly (Fault.Breaks ruleName s.id) (ofStore s) := by
  unfold ofStore
  refine (s.checkKind_failsOnly ruleName RoleName.rightOfWay .lanelet).bind fun _ =>
    (s.checkKind_failsOnly ruleName RoleName.yielding .lanelet).bind fun _ =>
      (s.checkKind_failsOnly ruleName RoleName.refLine .lineString).bind fun _ =>
        .throw_if (.misfit _) ?_
  split
  · exact .error (.conflict _ _ _)
  · exact .ok _

/-- What a sign rule asks of its roles, in `check`. -/
structure SignRule.Fits (s : RoleStore) : Prop where
  signs : s.get RoleName.refers ≠ []
  roles : ∀ role ∈ roleNames, ∀ ref ∈ s.get role, ref.kind = .lineString

/-- `check` accepts exactly the stores that fit. -/
theorem SignRule.check_eq_ok {rule : String} {s : RoleStore} :
    check rule s = .ok () ↔ Fits s := by
  have hforM : ∀ names : List String,
      (names.forM fun role => s.checkKind rule role .lineString) = .ok () ↔
        ∀ role ∈ names, ∀ ref ∈ s.get role, ref.kind = .lineString := by
    intro names
    induction names with
    | nil => exact ⟨fun _ _ h => absurd h List.not_mem_nil, fun _ => rfl⟩
    | cons role rest ih =>
      change (do s.checkKind rule role .lineString; rest.forM _ : Except Fault Unit) = _ ↔ _
      rw [check_then_eq_ok, ih, RoleStore.checkKind_eq_ok, List.forall_mem_cons]
  unfold check
  rw [throw_if_eq_ok, hforM, List.isEmpty_iff]
  exact ⟨fun ⟨hsigns, hroles⟩ => ⟨hsigns, hroles⟩, fun ⟨hsigns, hroles⟩ => ⟨hsigns, hroles⟩⟩

theorem SignRule.check_failsOnly (rule : String) (s : RoleStore) :
    FailsOnly (Fault.Breaks rule s.id) (check rule s) :=
  .throw_if (.misfit _) (.forM (fun role => s.checkKind_failsOnly rule role .lineString) _)

theorem TrafficSign.ofStore_eq_ok {s : RoleStore} {t : TrafficSign} :
    ofStore s = .ok t ↔ t.store = s ∧ SignRule.Fits s := by
  unfold ofStore
  rw [map_eq_ok, ← SignRule.check_eq_ok]
  constructor
  · rintro ⟨_, hcheck, rfl⟩
    exact ⟨rfl, hcheck⟩
  · rintro ⟨rfl, hcheck⟩
    exact ⟨(), hcheck, rfl⟩

theorem SpeedLimit.ofStore_eq_ok {s : RoleStore} {t : SpeedLimit} :
    ofStore s = .ok t ↔ t.sign.store = s ∧ SignRule.Fits s := by
  unfold ofStore
  rw [map_eq_ok, ← SignRule.check_eq_ok]
  constructor
  · rintro ⟨_, hcheck, rfl⟩
    exact ⟨rfl, hcheck⟩
  · rintro ⟨rfl, hcheck⟩
    exact ⟨(), hcheck, rfl⟩

/-! ## Elements -/

namespace RegulatoryElement

/-- What the rule of an element asks of its roles; rules from outside and plain data ask
nothing. -/
def Fits : RegulatoryElement → Prop
  | trafficLight t => TrafficLight.Fits t.store
  | rightOfWay t => RightOfWay.Fits t.store
  | trafficSign t => SignRule.Fits t.store
  | speedLimit t => SignRule.Fits t.sign.store
  | custom _ _ => True
  | generic _ => True

/-- What a faithful factory makes of a store: what a built-in rule reads in it by `ofStore`, or a
wrapper around it. -/
inductive Reads (s : RoleStore) : RegulatoryElement → Prop where
  | trafficLight {t : TrafficLight} (h : TrafficLight.ofStore s = .ok t) :
      Reads s (.trafficLight t)
  | rightOfWay {t : RightOfWay} (h : RightOfWay.ofStore s = .ok t) : Reads s (.rightOfWay t)
  | trafficSign {t : TrafficSign} (h : TrafficSign.ofStore s = .ok t) : Reads s (.trafficSign t)
  | speedLimit {t : SpeedLimit} (h : SpeedLimit.ofStore s = .ok t) : Reads s (.speedLimit t)
  | custom (ruleName : String) : Reads s (.custom ruleName s)
  | generic : Reads s (.generic s)

variable {s : RoleStore} {e : RegulatoryElement}

theorem Reads.store (h : Reads s e) : e.store = s := by
  cases h with
  | trafficLight h => exact (TrafficLight.ofStore_eq_ok.1 h).1
  | rightOfWay h => exact (RightOfWay.ofStore_eq_ok.1 h).1
  | trafficSign h => exact (TrafficSign.ofStore_eq_ok.1 h).1
  | speedLimit h => exact (SpeedLimit.ofStore_eq_ok.1 h).1
  | custom ruleName => rfl
  | generic => rfl

/-- What is read from a store fits its rule. -/
theorem Reads.fits (h : Reads s e) : e.Fits := by
  cases h with
  | trafficLight h =>
    obtain ⟨rfl, hfits⟩ := TrafficLight.ofStore_eq_ok.1 h
    exact hfits
  | rightOfWay h =>
    obtain ⟨rfl, hfits⟩ := RightOfWay.ofStore_eq_ok.1 h
    exact hfits
  | trafficSign h =>
    obtain ⟨rfl, hfits⟩ := TrafficSign.ofStore_eq_ok.1 h
    exact hfits
  | speedLimit h =>
    obtain ⟨rfl, hfits⟩ := SpeedLimit.ofStore_eq_ok.1 h
    exact hfits
  | custom ruleName => exact trivial
  | generic => exact trivial

end RegulatoryElement

/-! ## Registries -/

/-- A factory that only `Reads` stores by the built-in rules or wraps them. -/
def RuleFactory.Faithful (factory : RuleFactory) : Prop :=
  ∀ s e, factory s = .ok e → RegulatoryElement.Reads s e

namespace RuleRegistry

/-- The built-in registry, and every registry that comes from it by registering `Faithful`
factories. -/
inductive Grown : RuleRegistry → Prop where
  | builtin : Grown builtin
  | register {g g' : RuleRegistry} {name : String} {factory : RuleFactory} (grown : Grown g)
      (faithful : factory.Faithful) (h : g.register name factory = .ok g') : Grown g'

/-- The built-in rules are `Faithful`. -/
theorem faithful_of_mem_builtinRules {name : String} {factory : RuleFactory}
    (h : (name, factory) ∈ builtinRules) : factory.Faithful := by
  intro s e he
  simp only [builtinRules, List.mem_cons, Prod.mk.injEq, List.not_mem_nil, or_false] at h
  rcases h with ⟨-, rfl⟩ | ⟨-, rfl⟩ | ⟨-, rfl⟩ | ⟨-, rfl⟩
  · obtain ⟨t, ht, rfl⟩ := map_eq_ok.1 he
    exact .trafficLight ht
  · obtain ⟨t, ht, rfl⟩ := map_eq_ok.1 he
    exact .rightOfWay ht
  · obtain ⟨t, ht, rfl⟩ := map_eq_ok.1 he
    exact .trafficSign ht
  · obtain ⟨t, ht, rfl⟩ := map_eq_ok.1 he
    exact .speedLimit ht

/-- A built-in rule refuses a store in its own name and blames no other record (`Fault.Breaks`). -/
theorem failsOnly_of_mem_builtinRules {name : String} {factory : RuleFactory}
    (h : (name, factory) ∈ builtinRules) (s : RoleStore) :
    FailsOnly (Fault.Breaks name s.id) (factory s) := by
  simp only [builtinRules, List.mem_cons, Prod.mk.injEq, List.not_mem_nil, or_false] at h
  rcases h with ⟨rfl, rfl⟩ | ⟨rfl, rfl⟩ | ⟨rfl, rfl⟩ | ⟨rfl, rfl⟩
  · exact (TrafficLight.ofStore_failsOnly s).map _
  · exact (RightOfWay.ofStore_failsOnly s).map _
  · exact ((SignRule.check_failsOnly TrafficSign.ruleName s).map _).map _
  · exact ((SignRule.check_failsOnly SpeedLimit.ruleName s).map _).map _

/-- The built-in rules have names of their own, so that each name finds its rule. -/
theorem nodup_builtinRules : (builtinRules.map Prod.fst).Nodup := by decide

variable {g : RuleRegistry}

/-- Every factory of a `Grown` registry is `Faithful`. -/
theorem Grown.faithful (h : Grown g) {name : String} {factory : RuleFactory}
    (hfind : g.factories.find? name = some factory) : factory.Faithful := by
  induction h with
  | builtin =>
    exact faithful_of_mem_builtinRules ((SortedMap.find?_ofList nodup_builtinRules).1 hfind)
  | register grown faithful hregister ih =>
    unfold RuleRegistry.register at hregister
    split at hregister
    · cases hregister
    · obtain rfl := Except.ok.inj hregister
      rw [SortedMap.find?_insert] at hfind
      split at hfind
      · exact Option.some.inj hfind ▸ faithful
      · exact ih hfind

/-- The factories of a `Grown` registry keep the stores they are given. -/
theorem Grown.keepsStores (h : Grown g) : g.KeepsStores :=
  fun _ _ hfind s e he => (h.faithful hfind s e he).store

/-- Whatever a `Grown` registry makes of a store fits its rule. -/
theorem Grown.fits (h : Grown g) {s : RoleStore} {e : RegulatoryElement}
    (he : g.upgrade s = .ok e) : e.Fits := by
  rcases upgrade_eq_ok he with ⟨name, factory, hfactory, hread⟩ | rfl
  · exact (h.faithful hfactory s e hread).fits
  · exact trivial

end RuleRegistry

end RoadNet
