import Mathlib.Data.List.Count
import RoadNet.Proofs.SignGroups
import RoadNet.Proofs.StoreHistories

/-!
# RoadNet.Proofs.SignRules

Which sign groups and lines make a sign rule, and which rule they make
(`SignRule.Plan.decides_make`).

* `SignRule.Plan` — what a rule is made from; `Consistent` is what is asked of its groups, and
  `Unrepeated` what is asked of its lists;
* `fill_cases` — the roles are filled one by one, and a list that repeats a line stops this;
* `Plan.build_eq_fill` — the checks of the groups come first, and then the roles are filled;
* `Plan.Describes` — a rule that has all of a plan and nothing else.
-/

namespace RoadNet

namespace SignRule

/-! ## Filling roles -/

/-- Give line strings to several roles with `addAll`, to one after the other. -/
def fill (s : RoleStore) (roles : List (String × List Id)) : Except Fault RoleStore :=
  roles.foldlM (fun s q => s.addAll q.1 (q.2.map .lineString)) s

/-- `t` is `s` with line strings in some roles. -/
structure Filled (s t : RoleStore) (roles : List (String × List Id)) : Prop where
  id : t.id = s.id
  attributes : t.attributes = s.attributes
  get : ∀ q ∈ roles, t.get q.1 = q.2.map .lineString
  other : ∀ role ∉ roles.map Prod.fst, t.roles.find? role = s.roles.find? role

/-- `addAll` gives line strings to a role that holds nothing exactly if none is repeated; else it
fails with `duplicateReference`. -/
theorem addAll_cases {s : RoleStore} (htidy : s.Tidy) {role : String} (hrole : s.get role = [])
    (lines : List Id) :
    (lines.Nodup ∧ s.addAll role (lines.map .lineString) =
        .ok (s.put role (lines.map .lineString))) ∨
      ∃ line, List.Duplicate line lines ∧ s.addAll role (lines.map .lineString) =
        .error (.duplicateReference s.id role (.lineString line)) := by
  have hnodup : (lines.map Reference.lineString).Nodup ↔ lines.Nodup :=
    List.nodup_map_iff Reference.lineString_injective
  rw [htidy.addAll_eq_set hrole, RoleStore.set, ← hnodup]
  cases hrepeated : RoleStore.firstRepeated? [] (lines.map .lineString) with
  | none => exact .inl ⟨(RoleStore.firstRepeated?_eq_none.1 hrepeated).1, rfl⟩
  | some ref =>
    have hdup := RoleStore.duplicate_of_firstRepeated?_nil hrepeated
    obtain ⟨line, -, rfl⟩ := List.mem_map.1 hdup.mem
    rw [List.duplicate_iff_two_le_count,
      List.count_map_of_injective lines _ Reference.lineString_injective] at hdup
    exact .inr ⟨line, List.duplicate_iff_two_le_count.2 hdup, rfl⟩

/-- `fill` gives roles that hold nothing their lists exactly if no list repeats a line; else it
names the first line that is repeated. -/
theorem fill_cases {roles : List (String × List Id)} (hnames : (roles.map Prod.fst).Nodup)
    {s : RoleStore} (htidy : s.Tidy) (hempty : ∀ q ∈ roles, s.get q.1 = []) :
    ((∀ q ∈ roles, q.2.Nodup) ∧ ∃ t, fill s roles = .ok t ∧ Filled s t roles) ∨
      ∃ q ∈ roles, ∃ line, List.Duplicate line q.2 ∧
        fill s roles = .error (.duplicateReference s.id q.1 (.lineString line)) := by
  induction roles generalizing s with
  | nil => exact .inl ⟨nofun, s, rfl, rfl, rfl, nofun, fun _ _ => rfl⟩
  | cons q rest ih =>
    rw [List.map_cons, List.nodup_cons] at hnames
    rw [List.forall_mem_cons] at hempty
    have hstep : fill s (q :: rest) =
        s.addAll q.1 (q.2.map .lineString) >>= fun t => fill t rest := List.foldlM_cons
    rw [hstep, List.forall_mem_cons]
    rcases addAll_cases htidy hempty.1 q.2 with ⟨hq, hadd⟩ | ⟨line, hline, hadd⟩
    · have hother : ∀ q' ∈ rest, q'.1 ≠ q.1 := fun q' hq' heq =>
        hnames.1 (heq ▸ List.mem_map_of_mem hq')
      have hput : ∀ q' ∈ rest, (s.put q.1 (q.2.map .lineString)).get q'.1 = [] := by
        intro q' hq'
        rw [RoleStore.get_put, if_neg (hother q' hq')]
        exact hempty.2 q' hq'
      have htidy' : (s.put q.1 (q.2.map .lineString)).Tidy :=
        htidy.put (hq.map Reference.lineString_injective)
      rw [hadd]
      rcases ih hnames.2 htidy' hput with ⟨hrest, t, ht, hfilled⟩ | ⟨q', hq', hblame⟩
      · refine .inl ⟨⟨hq, hrest⟩, t, ht, hfilled.id, hfilled.attributes, ?_, ?_⟩
        · rw [List.forall_mem_cons]
          refine ⟨?_, hfilled.get⟩
          have hkept := hfilled.other q.1 hnames.1
          rw [RoleStore.get, hkept, ← RoleStore.get, RoleStore.get_put, if_pos rfl]
        · intro role hrole
          rw [List.map_cons, List.mem_cons, not_or] at hrole
          rw [hfilled.other role hrole.2, RoleStore.find?_put, if_neg hrole.1]
      · exact .inr ⟨q', List.mem_cons_of_mem q hq', hblame⟩
    · rw [hadd]
      exact .inr ⟨q, List.mem_cons_self, line, hline, rfl⟩

/-! ## Plans -/

/-- What a sign rule is made from. -/
structure Plan where
  id : Id
  attributes : Attributes
  signs : SignGroup
  cancelling : SignGroup
  refLines : List Id
  cancelLines : List Id

namespace Plan

/-- The line strings of each role. -/
def roles (p : Plan) : List (String × List Id) :=
  [(RoleName.refers, p.signs.signs.map LineString.id),
   (RoleName.cancels, p.cancelling.signs.map LineString.id),
   (RoleName.refLine, p.refLines), (RoleName.cancelLine, p.cancelLines)]

/-- What is asked of the groups: there are signs, they have a type, and both groups agree
(`SignGroup.Agrees`). -/
structure Consistent (p : Plan) : Prop where
  signs : p.signs.signs ≠ []
  typed : p.signs.signType ≠ none ∨ p.signs.tags ≠ []
  agrees : p.signs.Agrees
  cancelling : p.cancelling.Agrees

/-- What is wrong with the groups of a plan, as a `Misfit`. -/
inductive Objection (p : Plan) : Misfit → Prop where
  | noSigns (h : p.signs.signs = []) : Objection p .noTrafficSigns
  | untyped (hnone : p.signs.signType = none) (htags : p.signs.tags = []) :
      Objection p .unknownSignType
  | differ {g : SignGroup} {a b : String} (hg : g = p.signs ∨ g = p.cancelling)
      (hnone : g.signType = none) (ha : a ∈ g.tags) (hb : b ∈ g.tags) (hne : a ≠ b) :
      Objection p (.signsDisagree a b)

/-- No role of the plan is given a line string twice. -/
def Unrepeated (p : Plan) : Prop := ∀ q ∈ p.roles, q.2.Nodup

instance (p : Plan) : Decidable p.Consistent :=
  decidable_of_iff
    (p.signs.signs ≠ [] ∧ (p.signs.signType ≠ none ∨ p.signs.tags ≠ []) ∧ p.signs.Agrees ∧
      p.cancelling.Agrees)
    ⟨fun h => ⟨h.1, h.2.1, h.2.2.1, h.2.2.2⟩, fun h => ⟨h.1, h.2, h.3, h.4⟩⟩

instance (p : Plan) : Decidable p.Unrepeated :=
  inferInstanceAs (Decidable (∀ q ∈ p.roles, q.2.Nodup))

/-- Make the store of a rule of the given name. -/
def build (p : Plan) (rule : String) : Except Fault RoleStore :=
  SignRule.build rule p.id p.attributes p.signs p.cancelling p.refLines p.cancelLines

variable {p : Plan} {rule : String}

/-- A plan with an `Objection` is not `Consistent`. -/
theorem Objection.not_consistent {misfit : Misfit} (h : p.Objection misfit) : ¬p.Consistent := by
  intro hgroups
  cases h with
  | noSigns h => exact hgroups.signs h
  | untyped hnone htags => simpa [hnone, htags] using hgroups.typed
  | differ hg hnone ha hb hne =>
    rcases hg with rfl | rfl
    · exact hne (hgroups.agrees hnone _ ha _ hb)
    · exact hne (hgroups.cancelling hnone _ ha _ hb)

/-- A `Consistent` plan has a type. -/
theorem Consistent.exists_type (h : p.Consistent) : ∃ type, p.signs.type? = some type :=
  Option.ne_none_iff_exists'.1 (SignGroup.type?_ne_none.2 h.typed)

/-! ### Attributes -/

/-- The store of a rule before `fill`: the attributes that are given, the tags of the rule, and the
types of the groups. -/
def tagged (p : Plan) (rule type : String) : RoleStore :=
  let stamped :=
    ((RoleStore.ofAttributes p.id p.attributes).stampRule rule).setAttribute Key.signType type
  match p.cancelling.type? with
  | some cancelType => stamped.setAttribute Key.cancelType cancelType
  | none => stamped

@[simp] theorem id_tagged (p : Plan) (rule type : String) : (p.tagged rule type).id = p.id := by
  unfold tagged
  split <;> rfl

@[simp] theorem roles_tagged (p : Plan) (rule type : String) :
    (p.tagged rule type).roles = .empty := by
  unfold tagged
  split <;> rfl

theorem tidy_tagged (p : Plan) (rule type : String) : (p.tagged rule type).Tidy :=
  ⟨by simp, by simp [RoleStore.get]⟩

/-- Keys that the rule sets itself. -/
def ownKeys : List String := [Key.type, Key.subtype, Key.signType, Key.cancelType]

/-- The attributes of a rule: its tags and types under the `ownKeys`, and else those that are
given. -/
structure Tags (p : Plan) (rule : String) (a : Attributes) : Prop where
  type : a.find? Key.type = some TypeTag.regulatoryElement
  subtype : a.find? Key.subtype = some rule
  signType : a.find? Key.signType = p.signs.type?
  cancelType : a.find? Key.cancelType = p.cancelling.type?.or (p.attributes.find? Key.cancelType)
  others : ∀ key ∉ ownKeys, a.find? key = p.attributes.find? key

/-- The store `tagged` has the attributes that `Tags` asks for. -/
theorem tags_tagged {type : String} (htype : p.signs.type? = some type) :
    p.Tags rule (p.tagged rule type).attributes := by
  unfold tagged
  constructor
  all_goals
    cases p.cancelling.type? <;>
      simp +contextual [RoleStore.setAttribute, RoleStore.stampRule, RoleStore.ofAttributes,
        Key.type, Key.subtype, Key.signType, Key.cancelType, ownKeys, htype]

/-- `Tags` leaves nothing open. -/
theorem Tags.eq {a b : Attributes} (ha : p.Tags rule a) (hb : p.Tags rule b) : a = b :=
  SortedMap.ext_find? fun key => by
    by_cases hkey : key ∈ ownKeys
    · simp only [ownKeys, List.mem_cons, List.not_mem_nil, or_false] at hkey
      rcases hkey with rfl | rfl | rfl | rfl
      · rw [ha.type, hb.type]
      · rw [ha.subtype, hb.subtype]
      · rw [ha.signType, hb.signType]
      · rw [ha.cancelType, hb.cancelType]
    · rw [ha.others key hkey, hb.others key hkey]

/-! ### Building -/

/-- `fill` of the roles of a plan, call by call. -/
theorem fill_roles (p : Plan) (s : RoleStore) :
    fill s p.roles = (do
      let s ← s.addAll RoleName.refers (p.signs.signs.map fun sign => .lineString sign.id)
      let s ← s.addAll RoleName.cancels (p.cancelling.signs.map fun sign => .lineString sign.id)
      let s ← s.addAll RoleName.refLine (p.refLines.map .lineString)
      s.addAll RoleName.cancelLine (p.cancelLines.map .lineString)) := by
  simp [fill, roles, List.foldlM_cons, Function.comp_def]

/-- `build` refuses a plan with an `Objection`, and else fills its roles. -/
theorem build_eq_fill (p : Plan) (rule : String) :
    (∃ misfit, p.Objection misfit ∧
        p.build rule = .error (.invalidRelation rule p.id misfit)) ∨
      (p.Consistent ∧ ∃ type, p.signs.type? = some type ∧
        p.build rule = fill (p.tagged rule type) p.roles) := by
  unfold build SignRule.build
  by_cases hsigns : p.signs.signs = []
  · refine .inl ⟨.noTrafficSigns, .noSigns hsigns, ?_⟩
    rw [hsigns]
    rfl
  have hnonempty : ¬p.signs.signs.isEmpty = true := by simpa using hsigns
  rw [if_neg hnonempty]
  rcases p.signs.resolve_cases rule p.id with
    ⟨hagrees, hresolve⟩ | ⟨hdiffer, a, ha, b, hb, hne, hresolve⟩
  · cases htype : p.signs.type? with
    | none =>
      obtain ⟨hnone, htags⟩ := SignGroup.type?_eq_none.1 htype
      refine .inl ⟨.unknownSignType, .untyped hnone htags, ?_⟩
      rw [hresolve, htype]
      rfl
    | some type =>
      have htyped := SignGroup.type?_ne_none.1 (htype ▸ Option.some_ne_none type)
      rcases p.cancelling.resolve_cases rule p.id with
        ⟨hcancelling, hcancel⟩ | ⟨hdiffer, a, ha, b, hb, hne, hcancel⟩
      · refine .inr ⟨⟨hsigns, htyped, hagrees, hcancelling⟩, type, rfl, ?_⟩
        rw [hresolve, htype, fill_roles]
        dsimp only [pure_bind, bind, Except.bind]
        rw [hcancel]
        rfl
      · have hnone := SignGroup.signType_eq_none_of_not_agrees hdiffer
        refine .inl ⟨.signsDisagree a b, .differ (.inr rfl) hnone ha hb hne, ?_⟩
        rw [hresolve, htype]
        dsimp only [bind, Except.bind]
        rw [hcancel]
  · have hnone := SignGroup.signType_eq_none_of_not_agrees hdiffer
    refine .inl ⟨.signsDisagree a b, .differ (.inl rfl) hnone ha hb hne, ?_⟩
    rw [hresolve]
    rfl

end Plan

/-! ## Made rules -/

/-- The rules that signs announce. -/
inductive Variety where
  | trafficSign
  | speedLimit
deriving DecidableEq

/-- The name of the rule. -/
def Variety.ruleName : Variety → String
  | trafficSign => TrafficSign.ruleName
  | speedLimit => SpeedLimit.ruleName

namespace Plan

variable {p q : Plan} {v : Variety} {rule : String} {t u : TrafficSign}

/-- Make a rule; a speed limit is given as the sign rule that it is. -/
def make (p : Plan) : Variety → Except Fault TrafficSign
  | .trafficSign =>
    TrafficSign.make p.id p.attributes p.signs p.cancelling p.refLines p.cancelLines
  | .speedLimit =>
    (SpeedLimit.make p.id p.attributes p.signs p.cancelling p.refLines p.cancelLines).map
      SpeedLimit.sign

/-- Each variety makes a rule of the store that `build` gives under its name. -/
theorem make_eq (p : Plan) (v : Variety) : p.make v = (p.build v.ruleName).map .mk := by
  cases v with
  | trafficSign => rfl
  | speedLimit =>
    have hsign : ∀ x : Except Fault RoleStore,
        (x.map fun s => SpeedLimit.mk ⟨s⟩).map SpeedLimit.sign = x.map .mk := fun x => by
      cases x <;> rfl
    exact hsign _

/-- The rule has all of the plan and nothing else. -/
structure Describes (p : Plan) (rule : String) (t : TrafficSign) : Prop where
  id : t.store.id = p.id
  signs : t.signs = p.signs.signs.map LineString.id
  cancellingSigns : t.cancellingSigns = p.cancelling.signs.map LineString.id
  refLines : t.refLines = p.refLines
  cancelLines : t.cancelLines = p.cancelLines
  /-- The roles hold line strings only. -/
  roles : ∀ q ∈ p.roles, t.store.get q.1 = q.2.map .lineString
  /-- There is no other role. -/
  others : ∀ role ∉ roleNames, t.store.roles.find? role = none
  tags : p.Tags rule t.store.attributes

theorem Describes.signType? (h : p.Describes rule t) : t.signType? = p.signs.type? :=
  h.tags.signType

theorem map_fst_roles (p : Plan) : p.roles.map Prod.fst = roleNames := rfl

/-- A store that is `tagged` and then `Filled` is what the plan describes. -/
theorem describes_of_filled {s : RoleStore} {type : String} (htype : p.signs.type? = some type)
    (h : Filled (p.tagged rule type) s p.roles) : p.Describes rule ⟨s⟩ where
  id := by rw [h.id, id_tagged]
  signs := RoleStore.ids_of_get_eq (h.get _ (.head _))
  cancellingSigns := RoleStore.ids_of_get_eq (h.get _ (.tail _ (.head _)))
  refLines := RoleStore.ids_of_get_eq (h.get _ (.tail _ (.tail _ (.head _))))
  cancelLines := RoleStore.ids_of_get_eq (h.get _ (.tail _ (.tail _ (.tail _ (.head _)))))
  roles := h.get
  others role hrole := by
    rw [h.other role (p.map_fst_roles ▸ hrole), roles_tagged]
    rfl
  tags := by
    rw [h.attributes]
    exact tags_tagged htype

/-- `build` leads to the rule that the plan describes if it is `Consistent` and `Unrepeated`; else
an `Objection` to the groups comes first, and then a line that is repeated. -/
theorem build_cases (p : Plan) (rule : String) :
    (p.Consistent ∧ p.Unrepeated ∧ ∃ s, p.build rule = .ok s ∧ p.Describes rule ⟨s⟩) ∨
      (∃ misfit, p.Objection misfit ∧
        p.build rule = .error (.invalidRelation rule p.id misfit)) ∨
      (p.Consistent ∧ ∃ q ∈ p.roles, ∃ line, List.Duplicate line q.2 ∧
        p.build rule = .error (.duplicateReference p.id q.1 (.lineString line))) := by
  rcases p.build_eq_fill rule with hrefused | ⟨hgroups, type, htype, hbuild⟩
  · exact .inr (.inl hrefused)
  · have hnames : (p.roles.map Prod.fst).Nodup := by rw [map_fst_roles]; decide
    have hempty : ∀ q ∈ p.roles, (p.tagged rule type).get q.1 = [] := fun q _ => by
      simp [RoleStore.get]
    rw [hbuild]
    rcases fill_cases hnames (p.tidy_tagged rule type) hempty with
      ⟨hlines, s, hs, hfilled⟩ | ⟨q, hq, line, hline, hblame⟩
    · exact .inl ⟨hgroups, hlines, s, hs, describes_of_filled htype hfilled⟩
    · rw [id_tagged] at hblame
      exact .inr (.inr ⟨hgroups, q, hq, line, hline, hblame⟩)

theorem describes_of_build {s : RoleStore} (h : p.build rule = .ok s) :
    p.Consistent ∧ p.Describes rule ⟨s⟩ := by
  rcases p.build_cases rule with ⟨hgroups, -, s', hs', htells⟩ | ⟨misfit, -, herror⟩ |
    ⟨-, q, -, line, -, herror⟩
  · obtain rfl : s' = s := Except.ok.inj (hs'.symm.trans h)
    exact ⟨hgroups, htells⟩
  · simp [herror] at h
  · simp [herror] at h

/-- `make` has the three outcomes of `build`. -/
theorem make_cases (p : Plan) (v : Variety) :
    (p.Consistent ∧ p.Unrepeated ∧ ∃ t, p.make v = .ok t ∧ p.Describes v.ruleName t) ∨
      (∃ misfit, p.Objection misfit ∧
        p.make v = .error (.invalidRelation v.ruleName p.id misfit)) ∨
      (p.Consistent ∧ ∃ q ∈ p.roles, ∃ line, List.Duplicate line q.2 ∧
        p.make v = .error (.duplicateReference p.id q.1 (.lineString line))) := by
  rw [make_eq]
  rcases p.build_cases v.ruleName with ⟨hgroups, hlines, s, hs, htells⟩ |
    ⟨misfit, hmisfit, hs⟩ | ⟨hgroups, q, hq, line, hline, hs⟩
  · exact .inl ⟨hgroups, hlines, ⟨s⟩, by rw [hs]; rfl, htells⟩
  · exact .inr (.inl ⟨misfit, hmisfit, by rw [hs]; rfl⟩)
  · exact .inr (.inr ⟨hgroups, q, hq, line, hline, by rw [hs]; rfl⟩)

theorem describes_of_make (h : p.make v = .ok t) : p.Consistent ∧ p.Describes v.ruleName t := by
  rw [make_eq] at h
  obtain ⟨s, hs, rfl⟩ := map_eq_ok.1 h
  exact describes_of_build hs

/-! ### Order -/

/-- The same plan with the signs of its groups in another order (`SignGroup.Reordered`). -/
structure Reordered (p q : Plan) : Prop where
  id : p.id = q.id
  attributes : p.attributes = q.attributes
  signs : p.signs.Reordered q.signs
  cancelling : p.cancelling.Reordered q.cancelling
  refLines : p.refLines = q.refLines
  cancelLines : p.cancelLines = q.cancelLines

/-- Two outcomes that differ in the order of signs only: both are rules with the same attributes
and lines, or both are refused for the same kind of reason. -/
inductive Alike : Except Fault TrafficSign → Except Fault TrafficSign → Prop where
  | made {t u : TrafficSign} (id : t.store.id = u.store.id)
      (attributes : t.store.attributes = u.store.attributes) (signs : t.signs.Perm u.signs)
      (cancellingSigns : t.cancellingSigns.Perm u.cancellingSigns)
      (refLines : t.refLines = u.refLines) (cancelLines : t.cancelLines = u.cancelLines) :
      Alike (.ok t) (.ok u)
  | groups (rule : String) (id : Id) (m n : Misfit) :
      Alike (.error (.invalidRelation rule id m)) (.error (.invalidRelation rule id n))
  | lines (id : Id) (role other : String) (m n : Reference) :
      Alike (.error (.duplicateReference id role m)) (.error (.duplicateReference id other n))

theorem Reordered.symm (h : p.Reordered q) : q.Reordered p :=
  ⟨h.id.symm, h.attributes.symm, h.signs.symm, h.cancelling.symm, h.refLines.symm,
    h.cancelLines.symm⟩

/-- A `Reordered` plan is as `Consistent` as before. -/
theorem Reordered.consistent (h : p.Reordered q) (hp : p.Consistent) : q.Consistent where
  signs hnil := hp.signs (hnil ▸ h.signs.signs).eq_nil
  typed := by
    rw [← SignGroup.type?_ne_none, ← h.signs.type?_eq hp.agrees, SignGroup.type?_ne_none]
    exact hp.typed
  agrees := h.signs.agrees_iff.1 hp.agrees
  cancelling := h.cancelling.agrees_iff.1 hp.cancelling

/-- A `Reordered` plan is as `Unrepeated` as before. -/
theorem Reordered.unrepeated (h : p.Reordered q) (hp : p.Unrepeated) : q.Unrepeated := by
  simp only [Unrepeated, roles, List.forall_mem_cons, ← h.refLines, ← h.cancelLines,
    ← (h.signs.signs.map _).nodup_iff, ← (h.cancelling.signs.map _).nodup_iff] at hp ⊢
  exact hp

/-- The `Tags` of a rule do not tell the order of its signs. -/
theorem Tags.of_reordered {a : Attributes} (ha : q.Tags rule a) (h : p.Reordered q)
    (hp : p.Consistent) : p.Tags rule a where
  type := ha.type
  subtype := ha.subtype
  signType := by rw [ha.signType, h.signs.type?_eq hp.agrees]
  cancelType := by rw [ha.cancelType, h.cancelling.type?_eq hp.cancelling, h.attributes]
  others key hkey := by rw [ha.others key hkey, h.attributes]

/-- Rules that `Reordered` plans describe are `Alike`. -/
theorem Reordered.alike_of_describes (h : p.Reordered q) (hp : p.Consistent)
    (ht : p.Describes rule t) (hu : q.Describes rule u) : Alike (.ok t) (.ok u) := by
  refine .made ?_ (ht.tags.eq (hu.tags.of_reordered h hp)) ?_ ?_ ?_ ?_
  · rw [ht.id, hu.id, h.id]
  · rw [ht.signs, hu.signs]
    exact h.signs.signs.map _
  · rw [ht.cancellingSigns, hu.cancellingSigns]
    exact h.cancelling.signs.map _
  · rw [ht.refLines, hu.refLines, h.refLines]
  · rw [ht.cancelLines, hu.cancelLines, h.cancelLines]

theorem not_unrepeated {q : String × List Id} (hq : q ∈ p.roles) {line : Id}
    (hline : List.Duplicate line q.2) : ¬p.Unrepeated := fun h => hline.not_nodup (h q hq)

/-- The order of the signs decides neither whether `make` succeeds nor what else the rule holds. -/
theorem Reordered.alike (h : p.Reordered q) (v : Variety) : Alike (p.make v) (q.make v) := by
  rcases p.make_cases v with ⟨hp, hlines, t, ht, htells⟩ | ⟨m, hm, ht⟩ |
    ⟨hp, r, hr, line, hline, ht⟩ <;>
  rcases q.make_cases v with ⟨hq, hlines', u, hu, hutells⟩ | ⟨n, hn, hu⟩ |
    ⟨hq, r', hr', line', hline', hu⟩ <;>
  rw [ht, hu]
  · exact h.alike_of_describes hp htells hutells
  · exact absurd (h.consistent hp) hn.not_consistent
  · exact absurd (h.unrepeated hlines) (not_unrepeated hr' hline')
  · exact absurd (h.symm.consistent hq) hm.not_consistent
  · rw [h.id]
    exact .groups _ _ m n
  · exact absurd (h.symm.consistent hq) hm.not_consistent
  · exact absurd (h.symm.unrepeated hlines') (not_unrepeated hr hline)
  · exact absurd (h.consistent hp) hn.not_consistent
  · rw [h.id]
    exact .lines _ _ _ _ _

/-- A sign rule is made exactly if its plan is `Consistent` and `Unrepeated`: its groups are in
order, and no role is given a line string twice. Groups that are not in order are blamed first,
with an `Objection`, and repeated line strings after them. The rule that is made has what the plan
`Describes` and nothing else, and the order of the signs makes no difference to it. -/
theorem decides_make (p : Plan) (v : Variety) :
    ((∃ t, p.make v = .ok t) ↔ p.Consistent ∧ p.Unrepeated) ∧
      (¬p.Consistent → ∃ misfit, p.Objection misfit ∧
        p.make v = .error (.invalidRelation v.ruleName p.id misfit)) ∧
      (p.Consistent → ¬p.Unrepeated → ∃ q ∈ p.roles, ∃ line, List.Duplicate line q.2 ∧
        p.make v = .error (.duplicateReference p.id q.1 (.lineString line))) ∧
      (∀ t, p.make v = .ok t → p.Describes v.ruleName t ∧
        ∃ type, t.signType? = some type ∧ p.signs.Shows type) ∧
      ∀ q, p.Reordered q → Alike (p.make v) (q.make v) := by
  have hmade : ∀ t, p.make v = .ok t → p.Describes v.ruleName t ∧
      ∃ type, t.signType? = some type ∧ p.signs.Shows type := by
    intro t ht
    obtain ⟨hgroups, htells⟩ := describes_of_make ht
    obtain ⟨type, htype⟩ := hgroups.exists_type
    exact ⟨htells, type, htells.signType?.trans htype, hgroups.agrees.shows htype⟩
  have halike : ∀ q, p.Reordered q → Alike (p.make v) (q.make v) := fun q h => h.alike v
  rcases p.make_cases v with ⟨hgroups, hlines, t, ht, -⟩ | ⟨misfit, hmisfit, ht⟩ |
    ⟨hgroups, r, hr, line, hline, ht⟩
  · exact ⟨⟨fun _ => ⟨hgroups, hlines⟩, fun _ => ⟨t, ht⟩⟩, absurd hgroups,
      fun _ => absurd hlines, hmade, halike⟩
  · have hrefused : ¬∃ t, p.make v = .ok t := by simp [ht]
    have hgroups := hmisfit.not_consistent
    exact ⟨iff_of_false hrefused fun h => hgroups h.1, fun _ => ⟨misfit, hmisfit, ht⟩,
      fun h => absurd h hgroups, hmade, halike⟩
  · have hrefused : ¬∃ t, p.make v = .ok t := by simp [ht]
    exact ⟨iff_of_false hrefused fun h => not_unrepeated hr hline h.2, absurd hgroups,
      fun _ _ => ⟨r, hr, line, hline, ht⟩, hmade, halike⟩

/-- An untagged sign and two signs of one type, tagged in either way; the cancelling sign is not
tagged, and a type for it is given with the attributes. -/
def mixed : Plan where
  id := 1
  attributes := .ofList [(Key.cancelType, "278")]
  signs.signs :=
    [⟨20, [], .empty⟩,
      ⟨21, [], .ofList [(Key.type, TypeTag.trafficSign), (Key.subtype, "274")]⟩,
      ⟨22, [], .ofList [(Key.type, "274")]⟩]
  signs.signType := none
  cancelling := ⟨[⟨30, [], .empty⟩], none⟩
  refLines := [40]
  cancelLines := []

/-- The same with the signs the other way round. -/
def mixedBack : Plan := { mixed with signs.signs := mixed.signs.signs.reverse }

/-- The signs in another order make a speed limit with the same attributes; a sign of another type
is refused, and so is a line that is given twice. -/
theorem decides_make_mixed :
    (∃ t u, mixed.make .speedLimit = .ok t ∧ mixedBack.make .speedLimit = .ok u ∧
      t.signType? = some "274" ∧ t.cancelType? = some "278" ∧
      t.signs = [20, 21, 22] ∧ u.signs = [22, 21, 20] ∧
      t.store.attributes = u.store.attributes) ∧
    (∃ misfit, { mixed with
        signs.signs := ⟨23, [], .ofList [(Key.type, "310")]⟩ :: mixed.signs.signs }.make
          .trafficSign = .error (.invalidRelation TrafficSign.ruleName 1 misfit)) ∧
    ∃ role line, { mixed with refLines := [40, 40] }.make .trafficSign =
      .error (.duplicateReference 1 role (.lineString line)) := by
  refine ⟨?_, ?_, ?_⟩
  · obtain ⟨hmade, -, -, htells, halike⟩ := decides_make mixed .speedLimit
    obtain ⟨hmade', -, -, htells', -⟩ := decides_make mixedBack .speedLimit
    obtain ⟨t, ht⟩ := hmade.2 (by decide)
    obtain ⟨u, hu⟩ := hmade'.2 (by decide)
    have hreordered : mixed.Reordered mixedBack :=
      ⟨rfl, rfl, ⟨(List.reverse_perm _).symm, rfl⟩, ⟨.refl _, rfl⟩, rfl, rfl⟩
    have hattributes : t.store.attributes = u.store.attributes := by
      have h := halike mixedBack hreordered
      rw [ht, hu] at h
      cases h with
      | made id attributes => exact attributes
    have hdescribes := (htells t ht).1
    have hsign : mixed.signs.type? = some "274" := by decide
    have hcancel :
        mixed.cancelling.type?.or (mixed.attributes.find? Key.cancelType) = some "278" := by
      decide
    exact ⟨t, u, ht, hu, hdescribes.signType?.trans hsign, hdescribes.tags.cancelType.trans hcancel,
      hdescribes.signs, (htells' u hu).1.signs, hattributes⟩
  · obtain ⟨-, hgroups, -⟩ := decides_make { mixed with
      signs.signs := ⟨23, [], .ofList [(Key.type, "310")]⟩ :: mixed.signs.signs } .trafficSign
    obtain ⟨misfit, -, hblame⟩ := hgroups (by decide)
    exact ⟨misfit, hblame⟩
  · obtain ⟨-, -, hlines, -⟩ := decides_make { mixed with refLines := [40, 40] } .trafficSign
    obtain ⟨q, -, line, -, hblame⟩ := hlines (by decide) (by decide)
    exact ⟨q.1, line, hblame⟩

end Plan

end SignRule

end RoadNet
