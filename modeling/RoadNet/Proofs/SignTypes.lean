import RoadNet.Proofs.Rereading

/-!
# RoadNet.Proofs.SignTypes

A sign rule stores the type that its signs share when it is made. Files do not keep it, and the
type is then read off the first sign of the rule. What is read is never another type
(`SignRule.Plan.resolves_untyped`).
-/

namespace RoadNet

namespace TrafficSign

/-- The rule without its stored type, the tag `Key.signType`. -/
def untyped (t : TrafficSign) : TrafficSign :=
  ⟨{ t.store with attributes := t.store.attributes.erase Key.signType }⟩

@[simp] theorem signType?_untyped (t : TrafficSign) : t.untyped.signType? = none := by
  simp [signType?, untyped]

@[simp] theorem signs_untyped (t : TrafficSign) : t.untyped.signs = t.signs := rfl

@[simp] theorem ruleName?_untyped (t : TrafficSign) :
    t.untyped.store.ruleName? = t.store.ruleName? := by
  simp [untyped, RoleStore.ruleName?, Key.subtype, Key.signType]

/-- `resolveSignType?` of a rule without a stored type gives that of its first sign. -/
theorem resolveSignType?_untyped (t : TrafficSign) {layer : SortedMap Id LineString}
    {signs : List LineString} (hsigns : t.signs = signs.map LineString.id)
    (hlayer : ∀ sign ∈ signs, layer.find? sign.id = some sign) :
    t.untyped.resolveSignType? layer = signs.head?.bind signTypeOf? := by
  rw [resolveSignType?, signType?_untyped, signs_untyped, hsigns]
  cases signs with
  | nil => rfl
  | cons first rest =>
    have hfirst := hlayer first List.mem_cons_self
    simp [hfirst]

end TrafficSign

namespace SignRule

/-- A rule as an element. -/
def Variety.element : Variety → TrafficSign → RegulatoryElement
  | trafficSign, t => .trafficSign t
  | speedLimit, t => .speedLimit ⟨t⟩

namespace Variety

variable {v : Variety} {t : TrafficSign}

/-- A sign rule that fits is read as itself. -/
theorem reread_element (hfits : Fits t.store) : (v.element t).reread = .ok (v.element t) :=
  RegulatoryElement.reread_of_fits (by cases v <;> exact hfits)

/-- A `Grown` registry reads a sign rule by the rule that it is tagged with (`htag`). -/
theorem upgrade_element {g : RuleRegistry} (grown : g.Grown) (hfits : Fits t.store)
    (htag : t.store.ruleName? = some v.ruleName) :
    g.upgrade (v.element t).store = .ok (v.element t) := by
  rw [← reread_element hfits]
  cases v with
  | trafficSign => exact grown.upgrade_builtin (.tail _ (.tail _ (.head _))) htag
  | speedLimit => exact grown.upgrade_builtin (.tail _ (.tail _ (.tail _ (.head _)))) htag

end Variety

namespace Plan

variable {p : Plan} {v : Variety} {t : TrafficSign}

/-- The type of a `Consistent` plan that is given none is that of its first sign, if this is
tagged. -/
theorem Consistent.type?_of_head? (hgroups : p.Consistent) (hnone : p.signs.signType = none)
    {first : LineString} (hfirst : p.signs.signs.head? = some first) {type : String}
    (htype : signTypeOf? first = some type) : p.signs.type? = some type :=
  hgroups.agrees.type?_of_mem hnone <|
    List.mem_filterMap.2 ⟨first, List.mem_of_head? hfirst, htype⟩

/-- A sign rule that was `made` keeps its type without storing it (`untyped`) as long as its first
sign is tagged: any `Grown` registry reads the rule again, and so does the rule itself, and
`resolveSignType?` gives the type of the first sign, which all tagged signs share. If the first
sign is not tagged the rule has no type then, and it never has another one. -/
theorem resolves_untyped {g : RuleRegistry} (grown : g.Grown) (made : p.make v = .ok t)
    (hnone : p.signs.signType = none) :
    ∃ first type, p.signs.signs.head? = some first ∧ t.signType? = some type ∧
      g.upgrade (v.element t.untyped).store = .ok (v.element t.untyped) ∧
      (v.element t.untyped).reread = .ok (v.element t.untyped) ∧
      ∀ layer : SortedMap Id LineString,
        (∀ sign ∈ p.signs.signs, layer.find? sign.id = some sign) →
          (signTypeOf? first ≠ none → t.untyped.resolveSignType? layer = some type) ∧
          (signTypeOf? first = none → t.untyped.resolveSignType? layer = none) ∧
          ∀ other, t.untyped.resolveSignType? layer = some other → other = type := by
  obtain ⟨hgroups, htells⟩ := describes_of_make made
  obtain ⟨type, htype⟩ := hgroups.exists_type
  obtain ⟨first, rest, hsigns⟩ := List.exists_cons_of_ne_nil hgroups.signs
  have hfirst : p.signs.signs.head? = some first := by rw [hsigns, List.head?_cons]
  have hfits : Fits t.untyped.store :=
    have hfits := htells.fits hgroups
    ⟨hfits.signs, hfits.roles⟩
  have htag : t.untyped.store.ruleName? = some v.ruleName := by
    rw [TrafficSign.ruleName?_untyped, htells.tagged.rule]
  refine ⟨first, type, hfirst, htells.signType?.trans htype,
    Variety.upgrade_element grown hfits htag, Variety.reread_element hfits, fun layer hlayer => ?_⟩
  -- The rule lists its signs in the order of the group, so its first sign is that of the group.
  have hresolve : t.untyped.resolveSignType? layer = signTypeOf? first := by
    rw [t.resolveSignType?_untyped htells.signs hlayer, hfirst, Option.bind_some]
  have hsame : ∀ other, signTypeOf? first = some other → other = type := fun other hother =>
    Option.some.inj ((hgroups.type?_of_head? hnone hfirst hother).symm.trans htype)
  rw [hresolve]
  refine ⟨fun hne => ?_, fun h => h, hsame⟩
  obtain ⟨other, hother⟩ := Option.ne_none_iff_exists'.1 hne
  rw [hother, hsame other hother]

/-- A rule whose first sign is tagged, and one whose first sign is not. -/
theorem resolves_untyped_mixed :
    let layer : SortedMap Id LineString := .ofList (mixed.signs.signs.map fun s => (s.id, s))
    (∃ t, mixedBack.make .speedLimit = .ok t ∧ t.signType? = some "274" ∧
      RuleRegistry.builtin.upgrade t.untyped.store = .ok (.speedLimit ⟨t.untyped⟩) ∧
      t.untyped.resolveSignType? layer = some "274") ∧
    ∃ t, mixed.make .trafficSign = .ok t ∧ t.signType? = some "274" ∧
      t.untyped.resolveSignType? layer = none := by
  intro layer
  have hlayer : (∀ sign ∈ mixed.signs.signs, layer.find? sign.id = some sign) ∧
      ∀ sign ∈ mixedBack.signs.signs, layer.find? sign.id = some sign := by decide
  constructor
  · obtain ⟨t, ht⟩ : ∃ t, mixedBack.make .speedLimit = .ok t := ⟨_, rfl⟩
    have hstored : t.signType? = some "274" := by
      cases ht
      decide
    obtain ⟨first, type, hfirst, htype, hupgrade, -, hread⟩ := resolves_untyped .builtin ht rfl
    obtain rfl : _ = first := Option.some.inj hfirst
    obtain rfl : type = "274" := Option.some.inj (htype.symm.trans hstored)
    exact ⟨t, ht, hstored, hupgrade, (hread layer hlayer.2).1 (by decide)⟩
  · obtain ⟨t, ht⟩ : ∃ t, mixed.make .trafficSign = .ok t := ⟨_, rfl⟩
    have hstored : t.signType? = some "274" := by
      cases ht
      decide
    obtain ⟨first, type, hfirst, -, -, -, hread⟩ := resolves_untyped .builtin ht rfl
    obtain rfl : _ = first := Option.some.inj hfirst
    exact ⟨t, ht, hstored, (hread layer hlayer.1).2.1 (by decide)⟩

end Plan

end SignRule

end RoadNet
