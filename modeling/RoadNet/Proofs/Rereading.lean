import RoadNet.Proofs.Edits
import RoadNet.Proofs.Histories
import RoadNet.Proofs.Rules

/-!
# RoadNet.Proofs.Rereading

A relation that a typed rule has made or read, and that was edited through the interface of the
rule, reads as itself again once it is plain data (`RegulatoryElement.reread_of_edited`).

The constructors, the edits and the reader check different things. What the reader asks holds from
the start (`Obtained.fits`). The edits keep all of it but one thing (`Edited.keeps`): they can take
the last light or sign away, and the reader refuses the relation then.
-/

namespace RoadNet

/-! ## Refusals -/

/-- A traffic light refuses a store without lights. -/
theorem TrafficLight.ofStore_of_bare {s : RoleStore} (h : s.get RoleName.refers = []) :
    ofStore s = .error (.invalidRelation ruleName s.id .noTrafficLights) := by
  rw [ofStore, h]
  rfl

/-- A sign rule refuses a store without signs. -/
theorem SignRule.check_of_bare {s : RoleStore} (rule : String) (h : s.get RoleName.refers = []) :
    check rule s = .error (.invalidRelation rule s.id .noTrafficSigns) := by
  rw [check, h]
  rfl

namespace RuleRegistry

variable {g : RuleRegistry} {name : String} {factory : RuleFactory}

/-- A name that a built-in rule has cannot be taken by another one: a `Grown` registry finds the
rule under it. -/
theorem Grown.find?_factories (grown : Grown g) (h : (name, factory) ∈ builtinRules) :
    g.factories.find? name = some factory := by
  induction grown with
  | builtin => exact (SortedMap.find?_ofList nodup_builtinRules).2 h
  | @register g _ added _ _ _ hregister ih =>
    unfold RuleRegistry.register at hregister
    split at hregister
    · cases hregister
    · next hfree =>
      obtain rfl := Except.ok.inj hregister
      have hne : name ≠ added := by
        rintro rfl
        simp [isRegistered, SortedMap.contains, ih] at hfree
      rw [SortedMap.find?_insert, if_neg hne]
      exact ih

/-- A `Grown` registry reads a relation that is tagged with a built-in rule under this rule. -/
theorem Grown.upgrade_builtin (grown : Grown g) {s : RoleStore}
    (h : (name, factory) ∈ builtinRules) (htag : s.ruleName? = some name) :
    g.upgrade s = factory s := by
  rw [upgrade, htag]
  dsimp only
  rw [resolve, grown.find?_factories h]

end RuleRegistry

/-! ## Elements -/

namespace RegulatoryElement

/-- The element that the store of an element reads as, by `ofStore` of the rule that the element
has. -/
def reread : RegulatoryElement → Except Fault RegulatoryElement
  | trafficLight t => (TrafficLight.ofStore t.store).map .trafficLight
  | rightOfWay t => (RightOfWay.ofStore t.store).map .rightOfWay
  | trafficSign t => (TrafficSign.ofStore t.store).map .trafficSign
  | speedLimit t => (SpeedLimit.ofStore t.sign.store).map .speedLimit
  | custom ruleName s => .ok (.custom ruleName s)
  | generic s => .ok (.generic s)

/-- What a rule says of an element that refers to nothing, for the rules that do not allow it. -/
def bareMisfit? : RegulatoryElement → Option Misfit
  | trafficLight _ => some .noTrafficLights
  | trafficSign _ => some .noTrafficSigns
  | speedLimit _ => some .noTrafficSigns
  | _ => none

/-- The element refers to nothing in `RoleName.refers` although its rule asks for it. -/
def Bare (e : RegulatoryElement) : Prop :=
  e.bareMisfit?.isSome = true ∧ e.store.get RoleName.refers = []

instance (e : RegulatoryElement) : Decidable e.Bare := inferInstanceAs (Decidable (_ ∧ _))

/-- The elements that the constructors of the typed rules make. -/
inductive Made : RegulatoryElement → Prop where
  | trafficLight {id : Id} {attributes : Attributes} {lights : List Id} {stopLine : Option Id}
      {t : TrafficLight} (h : TrafficLight.make id attributes lights stopLine = .ok t) :
      Made (.trafficLight t)
  | rightOfWay {id : Id} {attributes : Attributes} {rightOfWay yielding : List Id}
      {stopLine : Option Id} {t : RightOfWay}
      (h : RightOfWay.make id attributes rightOfWay yielding stopLine = .ok t) :
      Made (.rightOfWay t)
  | trafficSign {id : Id} {attributes : Attributes} {signs cancelling : SignGroup}
      {refLines cancelLines : List Id} {t : TrafficSign}
      (h : TrafficSign.make id attributes signs cancelling refLines cancelLines = .ok t) :
      Made (.trafficSign t)
  | speedLimit {id : Id} {attributes : Attributes} {signs cancelling : SignGroup}
      {refLines cancelLines : List Id} {t : SpeedLimit}
      (h : SpeedLimit.make id attributes signs cancelling refLines cancelLines = .ok t) :
      Made (.speedLimit t)

/-- The elements that the typed rules make (`Made`), and those that they read from plain data. -/
inductive Obtained : RegulatoryElement → Prop where
  | made {e : RegulatoryElement} (h : Made e) : Obtained e
  | trafficLight {s : RoleStore} {t : TrafficLight} (h : TrafficLight.ofStore s = .ok t) :
      Obtained (.trafficLight t)
  | rightOfWay {s : RoleStore} {t : RightOfWay} (h : RightOfWay.ofStore s = .ok t) :
      Obtained (.rightOfWay t)
  | trafficSign {s : RoleStore} {t : TrafficSign} (h : TrafficSign.ofStore s = .ok t) :
      Obtained (.trafficSign t)
  | speedLimit {s : RoleStore} {t : SpeedLimit} (h : SpeedLimit.ofStore s = .ok t) :
      Obtained (.speedLimit t)

/-- What an element becomes by calls of the interface of its rule. A speed limit is edited as the
traffic sign rule that it is. -/
inductive Edited : RegulatoryElement → RegulatoryElement → Prop where
  | trafficLight (t : TrafficLight) (calls : List TrafficLight.Call) :
      Edited (.trafficLight t) (.trafficLight (after TrafficLight.call t calls))
  | rightOfWay (t : RightOfWay) (calls : List RightOfWay.Call) :
      Edited (.rightOfWay t) (.rightOfWay (after RightOfWay.call t calls))
  | trafficSign (t : TrafficSign) (calls : List TrafficSign.Call) :
      Edited (.trafficSign t) (.trafficSign (after TrafficSign.call t calls))
  | speedLimit (t : SpeedLimit) (calls : List TrafficSign.Call) :
      Edited (.speedLimit t) (.speedLimit ⟨after TrafficSign.call t.sign calls⟩)

variable {e e₀ : RegulatoryElement}

/-! ### From the start -/

/-- An element that was `Made` fits its rule and is tagged with it. -/
theorem Made.fits (h : Made e) :
    e.Fits ∧ ∃ rule, e.typedRuleName? = some rule ∧ e.store.Tagged rule := by
  cases h with
  | trafficLight h =>
    obtain ⟨hfits, htagged⟩ := TrafficLight.fits_of_make h
    exact ⟨hfits, _, rfl, htagged⟩
  | rightOfWay h =>
    obtain ⟨hfits, htagged⟩ := RightOfWay.fits_of_make h
    exact ⟨hfits, _, rfl, htagged⟩
  | trafficSign h =>
    obtain ⟨s, hs, rfl⟩ := map_eq_ok.1 h
    obtain ⟨hfits, htagged⟩ := SignRule.fits_of_build hs
    exact ⟨hfits, _, rfl, htagged⟩
  | speedLimit h =>
    obtain ⟨s, hs, rfl⟩ := map_eq_ok.1 h
    obtain ⟨hfits, htagged⟩ := SignRule.fits_of_build hs
    exact ⟨hfits, _, rfl, htagged⟩

/-- An element that was `Obtained` fits its rule. -/
theorem Obtained.fits (h : Obtained e) : e.Fits := by
  cases h with
  | made h => exact h.fits.1
  | trafficLight h => exact (Reads.trafficLight h).fits
  | rightOfWay h => exact (Reads.rightOfWay h).fits
  | trafficSign h => exact (Reads.trafficSign h).fits
  | speedLimit h => exact (Reads.speedLimit h).fits

/-- An element that fits its rule is not `Bare`. -/
theorem Fits.not_bare (h : e.Fits) : ¬e.Bare := by
  rintro ⟨hsome, hnil⟩
  cases e with
  | trafficLight t => exact h.lights hnil
  | rightOfWay t => cases hsome
  | trafficSign t => exact h.signs hnil
  | speedLimit t => exact h.signs hnil
  | custom ruleName s => cases hsome
  | generic s => cases hsome

/-! ### After the edits -/

/-- Edits leave the rule and the attributes of an element alone, and an element that is not `Bare`
after them still fits its rule. -/
theorem Edited.keeps (h : Edited e₀ e) (fits : e₀.Fits) :
    (¬e.Bare → e.Fits) ∧ e.typedRuleName? = e₀.typedRuleName? ∧
      e.store.attributes = e₀.store.attributes := by
  cases h with
  | trafficLight t calls =>
    obtain ⟨hfits, hattributes⟩ :=
      after_induction TrafficLight.Keeps.step ⟨TrafficLight.Fits.bare fits, rfl⟩ calls
    exact ⟨fun hbare => hfits.fits fun hnil => hbare ⟨rfl, hnil⟩, rfl, hattributes⟩
  | rightOfWay t calls =>
    obtain ⟨hfits, hattributes⟩ := after_induction RightOfWay.Keeps.step ⟨fits, rfl⟩ calls
    exact ⟨fun _ => hfits, rfl, hattributes⟩
  | trafficSign t calls =>
    obtain ⟨hfits, hattributes⟩ :=
      after_induction SignRule.Keeps.step ⟨SignRule.Fits.roles fits, rfl⟩ calls
    exact ⟨fun hbare => ⟨fun hnil => hbare ⟨rfl, hnil⟩, hfits⟩, rfl, hattributes⟩
  | speedLimit t calls =>
    obtain ⟨hfits, hattributes⟩ :=
      after_induction SignRule.Keeps.step ⟨SignRule.Fits.roles fits, rfl⟩ calls
    exact ⟨fun hbare => ⟨fun hnil => hbare ⟨rfl, hnil⟩, hfits⟩, rfl, hattributes⟩

/-! ### Reading again -/

/-- An element that fits its rule is read as itself. -/
theorem reread_of_fits (h : e.Fits) : e.reread = .ok e := by
  cases e with
  | trafficLight t => exact map_eq_ok.2 ⟨t, TrafficLight.ofStore_eq_ok.2 ⟨rfl, h⟩, rfl⟩
  | rightOfWay t => exact map_eq_ok.2 ⟨t, RightOfWay.ofStore_eq_ok.2 ⟨rfl, h⟩, rfl⟩
  | trafficSign t => exact map_eq_ok.2 ⟨t, TrafficSign.ofStore_eq_ok.2 ⟨rfl, h⟩, rfl⟩
  | speedLimit t => exact map_eq_ok.2 ⟨t, SpeedLimit.ofStore_eq_ok.2 ⟨rfl, h⟩, rfl⟩
  | custom ruleName s => rfl
  | generic s => rfl

/-- A `Bare` element is refused, with the misfit that its rule has for it (`bareMisfit?`). -/
theorem reread_of_bare (h : e.Bare) :
    ∃ rule misfit, e.typedRuleName? = some rule ∧ e.bareMisfit? = some misfit ∧
      e.reread = .error (.invalidRelation rule e.store.id misfit) := by
  obtain ⟨hsome, hnil⟩ := h
  cases e with
  | trafficLight t =>
    exact ⟨_, _, rfl, rfl, map_eq_error.2 (TrafficLight.ofStore_of_bare hnil)⟩
  | rightOfWay t => cases hsome
  | trafficSign t =>
    exact ⟨_, _, rfl, rfl, map_eq_error.2 (map_eq_error.2 (SignRule.check_of_bare _ hnil))⟩
  | speedLimit t =>
    exact ⟨_, _, rfl, rfl, map_eq_error.2 (map_eq_error.2 (SignRule.check_of_bare _ hnil))⟩
  | custom ruleName s => cases hsome
  | generic s => cases hsome

/-- The built-in registry reads an element that is tagged with the rule it has (`htag`) as this rule
does. -/
theorem Edited.upgrade_eq_reread (h : Edited e₀ e) (htag : e.store.ruleName? = e.typedRuleName?) :
    RuleRegistry.builtin.upgrade e.store = e.reread := by
  have grown := RuleRegistry.Grown.builtin
  cases h with
  | trafficLight t calls => exact grown.upgrade_builtin (.head _) htag
  | rightOfWay t calls => exact grown.upgrade_builtin (.tail _ (.head _)) htag
  | trafficSign t calls => exact grown.upgrade_builtin (.tail _ (.tail _ (.head _))) htag
  | speedLimit t calls => exact grown.upgrade_builtin (.tail _ (.tail _ (.tail _ (.head _)))) htag

/-- Nothing of an element of a typed rule is lost when it becomes plain data, whatever calls have
`Edited` it: the rule reads the data as the very element (`reread`), and refuses it exactly if the
element is `Bare`, that is asks for a light or a sign of which none is left. The data of an element
that was `Made` names the rule, so that the built-in registry reads it in the same way. In any case
the registry keeps the data that it reads. -/
theorem reread_of_edited (obtained : Obtained e₀) (edited : Edited e₀ e) :
    ¬e₀.Bare ∧
      (¬e.Bare → e.reread = .ok e) ∧
      (e.Bare → ∃ rule misfit, e.typedRuleName? = some rule ∧ e.bareMisfit? = some misfit ∧
        e.reread = .error (.invalidRelation rule e.store.id misfit)) ∧
      (Made e₀ → (∃ rule, e.typedRuleName? = some rule ∧ e.store.Tagged rule) ∧
        RuleRegistry.builtin.upgrade e.store = e.reread) ∧
      ∀ s e', RuleRegistry.builtin.upgrade s = .ok e' → e'.store = s := by
  obtain ⟨hfits, hrule, hattributes⟩ := edited.keeps obtained.fits
  refine ⟨obtained.fits.not_bare, fun hbare => reread_of_fits (hfits hbare), reread_of_bare,
    fun made => ?_, fun s e' h => RuleRegistry.Grown.builtin.keepsStores.upgrade h⟩
  obtain ⟨-, rule, hrule₀, htagged₀⟩ := made.fits
  have htagged : e.store.Tagged rule := htagged₀.of_attributes_eq hattributes
  have htyped : e.typedRuleName? = some rule := hrule.trans hrule₀
  exact ⟨⟨rule, htyped, htagged⟩, edited.upgrade_eq_reread (htagged.rule.trans htyped.symm)⟩

/-- One of two lights is exchanged, and both are removed. -/
theorem reread_of_exchanged_light :
    ∃ t, TrafficLight.make 1 .empty [10, 11] (some 5) = .ok t ∧
      (let e := trafficLight (after TrafficLight.call t [.removeLight 10, .addLight 12])
       ¬e.Bare ∧ RuleRegistry.builtin.upgrade e.store = .ok e) ∧
      (let e := trafficLight (after TrafficLight.call t [.removeLight 10, .removeLight 11])
       e.Bare ∧ e.reread = .error (.invalidRelation TrafficLight.ruleName 1 .noTrafficLights)) := by
  obtain ⟨t, ht⟩ : ∃ t, TrafficLight.make 1 .empty [10, 11] (some 5) = .ok t := ⟨_, rfl⟩
  have hmade : Made (.trafficLight t) := .trafficLight ht
  refine ⟨t, ht, ?_, ?_⟩
  · obtain ⟨-, hok, -, htags, -⟩ :=
      reread_of_edited (.made hmade) (.trafficLight t [.removeLight 10, .addLight 12])
    have hlights : ¬Bare (.trafficLight (after TrafficLight.call t
        [.removeLight 10, .addLight 12])) := by
      cases ht
      decide
    exact ⟨hlights, (htags hmade).2.trans (hok hlights)⟩
  · obtain ⟨-, -, herror, -, -⟩ :=
      reread_of_edited (.made hmade) (.trafficLight t [.removeLight 10, .removeLight 11])
    have hbare : Bare (.trafficLight (after TrafficLight.call t
        [.removeLight 10, .removeLight 11])) := by
      cases ht
      decide
    obtain ⟨rule, misfit, hrule, hmisfit, hreread⟩ := herror hbare
    cases hrule
    cases hmisfit
    cases ht
    exact ⟨hbare, hreread⟩

end RegulatoryElement

end RoadNet
