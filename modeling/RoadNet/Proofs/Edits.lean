import RoadNet.Proofs.Maneuvers
import RoadNet.Proofs.Rules
import RoadNet.Proofs.SignRules

/-!
# RoadNet.Proofs.Edits

What the constructor of a rule makes, and what the edits of its interface keep.

* `fits_of_make`, `SignRule.fits_of_build` — a relation that was made has what the rule asks of its
  roles, and the tags of the rule;
* `FitsBare` — what a rule asks except that there is a light or a sign, which is the one thing that
  the edits can take away;
* `Keeps.step` — one call keeps the rest, and all of the attributes.
-/

namespace RoadNet

/-! ## Tags -/

/-- The store is tagged as a regulatory element of the rule, `type` and `subtype`. -/
structure RoleStore.Tagged (s : RoleStore) (rule : String) : Prop where
  type : s.attributes.find? Key.type = some TypeTag.regulatoryElement
  rule : s.ruleName? = some rule

namespace RoleStore

variable {s t : RoleStore} {role rule : String}

/-- `stampRule` tags any store. -/
theorem tagged_stampRule (s : RoleStore) (rule : String) : (s.stampRule rule).Tagged rule where
  type := by simp [stampRule, setAttribute, Key.type, Key.subtype]
  rule := by simp [stampRule, setAttribute, ruleName?]

/-- Tags are attributes. -/
theorem Tagged.of_attributes_eq (h : s.Tagged rule) (heq : t.attributes = s.attributes) :
    t.Tagged rule where
  type := by rw [heq]; exact h.type
  rule := by rw [ruleName?, heq]; exact h.rule

end RoleStore

/-! ## Traffic lights -/

namespace TrafficLight

/-- What a traffic light asks of its roles (`Fits`), except that there is a light. -/
structure FitsBare (s : RoleStore) : Prop where
  stopLine : (s.get RoleName.refLine).length = 1
  refers : ∀ ref ∈ s.get RoleName.refers, ref.kind = .lineString
  refLine : ∀ ref ∈ s.get RoleName.refLine, ref.kind = .lineString

variable {s s' : RoleStore}

theorem Fits.bare (h : Fits s) : FitsBare s := ⟨h.stopLine, h.refers, h.refLine⟩

/-- Roles that are in order but for the lights fit if there is a light. -/
theorem FitsBare.fits (h : FitsBare s) (hlights : s.get RoleName.refers ≠ []) : Fits s :=
  ⟨hlights, h.stopLine, h.refers, h.refLine⟩

/-- Exchanging the lights for other line strings keeps `FitsBare`. -/
theorem FitsBare.replace_refers (h : FitsBare s) {refs : List Reference}
    (hrole : s.Replaces s' RoleName.refers refs) (hrefs : ∀ ref ∈ refs, ref.kind = .lineString) :
    FitsBare s' where
  stopLine := by rw [hrole.get_other (by decide)]; exact h.stopLine
  refers := hrole.forall_mem hrefs h.refers
  refLine := hrole.forall_mem hrefs h.refLine

/-- Setting the stop line makes the roles `FitsBare`, if all lights are line strings. -/
theorem fitsBare_of_stopLine {line : Id}
    (hrole : s.Replaces s' RoleName.refLine [.lineString line])
    (hrefers : ∀ ref ∈ s.get RoleName.refers, ref.kind = .lineString) : FitsBare s' where
  stopLine := by rw [hrole.get_self]; rfl
  refers := by rw [hrole.get_other (by decide)]; exact hrefers
  refLine := by rw [hrole.get_self]; exact List.forall_mem_singleton.2 rfl

/-- A traffic light with these attributes, and in order except that it may have no light
(`FitsBare`). -/
def Keeps (attributes : Attributes) (t : TrafficLight) : Prop :=
  FitsBare t.store ∧ t.store.attributes = attributes

/-- Every call to a traffic light leaves it in order, with its attributes. -/
theorem Keeps.step {attributes : Attributes} (t : TrafficLight) (c : Call)
    (h : Keeps attributes t) : Keeps attributes (t.call c).state := by
  obtain ⟨hfits, hattributes⟩ := h
  cases c with
  | addLight light =>
    have hlights : ∀ ref ∈ t.store.get RoleName.refers ++ [.lineString light],
        ref.kind = .lineString :=
      List.forall_mem_append.2 ⟨hfits.refers, List.forall_mem_singleton.2 rfl⟩
    exact Outcome.of_add (p := Keeps attributes) ⟨hfits, hattributes⟩ fun s' hrole =>
      ⟨hfits.replace_refers hrole hlights, hrole.attributes.trans hattributes⟩
  | removeLight light =>
    have hrole := t.store.replaces_remove RoleName.refers (.lineString light)
    have hlights : ∀ ref ∈ (t.store.get RoleName.refers).erase (.lineString light),
        ref.kind = .lineString :=
      fun ref href => hfits.refers ref (List.mem_of_mem_erase href)
    exact ⟨hfits.replace_refers hrole hlights, hrole.attributes.trans hattributes⟩
  | setStopLine line =>
    have hrole := t.store.replaces_put RoleName.refLine [.lineString line]
    exact ⟨fitsBare_of_stopLine hrole hfits.refers, hrole.attributes.trans hattributes⟩

/-- A traffic light of `make` fits its rule and is tagged with it. -/
theorem fits_of_make {id : Id} {attributes : Attributes} {lights : List Id} {stopLine : Option Id}
    {t : TrafficLight} (h : make id attributes lights stopLine = .ok t) :
    Fits t.store ∧ t.store.Tagged ruleName := by
  obtain ⟨hlights, h⟩ := throw_if_eq_ok.1 h
  cases stopLine with
  | none => cases h
  | some line =>
    obtain ⟨s, hs, h⟩ := bind_eq_ok.1 h
    obtain rfl := Except.ok.inj h
    have hrefers := RoleStore.replaces_of_addAll hs
    have hline := s.replaces_put RoleName.refLine [.lineString line]
    have hget : s.get RoleName.refers = lights.map .lineString := hrefers.get_self
    constructor
    · refine (fitsBare_of_stopLine hline ?_).fits ?_
      · rw [hget]
        exact List.forall_mem_map.2 fun _ _ => rfl
      · rw [hline.get_other (by decide), hget]
        simpa using hlights
    · exact ((RoleStore.tagged_stampRule _ ruleName).of_attributes_eq
        hrefers.attributes).of_attributes_eq hline.attributes

end TrafficLight

/-! ## Right of way -/

namespace RightOfWay

variable {s s' : RoleStore} {t : RightOfWay} {p : Parties}

/-- Exchanging the lanelets with right of way keeps `Fits`, if no yielding lanelet is among the new
ones (`hapart`). -/
theorem Fits.replace_rightOfWay (h : Fits s) {refs : List Reference}
    (hrole : s.Replaces s' RoleName.rightOfWay refs) (hrefs : ∀ ref ∈ refs, ref.kind = .lanelet)
    (hapart : ∀ ref ∈ s.get RoleName.yielding, ref ∉ refs) : Fits s' := by
  have hright : s'.get RoleName.rightOfWay = refs := hrole.get_self
  have hyield : s'.get RoleName.yielding = s.get RoleName.yielding := hrole.get_other (by decide)
  have hline : s'.get RoleName.refLine = s.get RoleName.refLine := hrole.get_other (by decide)
  constructor
  · rwa [hright]
  · rw [hyield]; exact h.yielding
  · rwa [hright, hyield]
  · rw [hline]; exact h.stopLine
  · rw [hline]; exact h.refLine

/-- Exchanging the yielding lanelets keeps `Fits`, if none of the new ones has right of way
(`hapart`). -/
theorem Fits.replace_yielding (h : Fits s) {refs : List Reference}
    (hrole : s.Replaces s' RoleName.yielding refs) (hrefs : ∀ ref ∈ refs, ref.kind = .lanelet)
    (hapart : ∀ ref ∈ refs, ref ∉ s.get RoleName.rightOfWay) : Fits s' := by
  have hright : s'.get RoleName.rightOfWay = s.get RoleName.rightOfWay :=
    hrole.get_other (by decide)
  have hyield : s'.get RoleName.yielding = refs := hrole.get_self
  have hline : s'.get RoleName.refLine = s.get RoleName.refLine := hrole.get_other (by decide)
  constructor
  · rw [hright]; exact h.rightOfWay
  · rwa [hyield]
  · rwa [hright, hyield]
  · rw [hline]; exact h.stopLine
  · rw [hline]; exact h.refLine

/-- Exchanging the stop line for one line string or none keeps `Fits`. -/
theorem Fits.replace_stopLine (h : Fits s) {refs : List Reference}
    (hrole : s.Replaces s' RoleName.refLine refs) (hone : refs.length ≤ 1)
    (hrefs : ∀ ref ∈ refs, ref.kind = .lineString) : Fits s' := by
  have hright : s'.get RoleName.rightOfWay = s.get RoleName.rightOfWay :=
    hrole.get_other (by decide)
  have hyield : s'.get RoleName.yielding = s.get RoleName.yielding := hrole.get_other (by decide)
  have hline : s'.get RoleName.refLine = refs := hrole.get_self
  constructor
  · rw [hright]; exact h.rightOfWay
  · rw [hyield]; exact h.yielding
  · rw [hright, hyield]; exact h.exclusive
  · rwa [hline]
  · rwa [hline]

/-- A right of way rule with these attributes whose store `Fits`. -/
def Keeps (attributes : Attributes) (t : RightOfWay) : Prop :=
  Fits t.store ∧ t.store.attributes = attributes

/-- Every call to a right of way rule leaves it in order, with its attributes. -/
theorem Keeps.step {attributes : Attributes} (t : RightOfWay) (c : Call)
    (h : Keeps attributes t) : Keeps attributes (t.call c).state := by
  obtain ⟨hfits, hattributes⟩ := h
  cases c with
  | addRightOfWay lanelet =>
    refine Outcome.of_attempt (r := fun t _ => Keeps attributes t) (fun t' hadd => ?_)
      ⟨hfits, hattributes⟩
    obtain ⟨hyield, -, rfl⟩ := addExclusive_eq_ok.1 hadd
    refine ⟨hfits.replace_rightOfWay (t.store.replaces_put _ _) ?_ ?_, hattributes⟩
    · exact List.forall_mem_append.2 ⟨hfits.rightOfWay, List.forall_mem_singleton.2 rfl⟩
    · intro ref href hmem
      rcases List.mem_append.1 hmem with hmem | hmem
      · exact hfits.exclusive ref href hmem
      · exact hyield (List.mem_singleton.1 hmem ▸ href)
  | addYield lanelet =>
    refine Outcome.of_attempt (r := fun t _ => Keeps attributes t) (fun t' hadd => ?_)
      ⟨hfits, hattributes⟩
    obtain ⟨hright, -, rfl⟩ := addExclusive_eq_ok.1 hadd
    refine ⟨hfits.replace_yielding (t.store.replaces_put _ _) ?_ ?_, hattributes⟩
    · exact List.forall_mem_append.2 ⟨hfits.yielding, List.forall_mem_singleton.2 rfl⟩
    · exact List.forall_mem_append.2 ⟨hfits.exclusive, List.forall_mem_singleton.2 hright⟩
  | removeRightOfWay lanelet =>
    have hrole := t.store.replaces_remove RoleName.rightOfWay (.lanelet lanelet)
    refine ⟨hfits.replace_rightOfWay hrole ?_ ?_, hrole.attributes.trans hattributes⟩
    · exact fun ref href => hfits.rightOfWay ref (List.mem_of_mem_erase href)
    · exact fun ref href hmem => hfits.exclusive ref href (List.mem_of_mem_erase hmem)
  | removeYield lanelet =>
    have hrole := t.store.replaces_remove RoleName.yielding (.lanelet lanelet)
    refine ⟨hfits.replace_yielding hrole ?_ ?_, hrole.attributes.trans hattributes⟩
    · exact fun ref href => hfits.yielding ref (List.mem_of_mem_erase href)
    · exact fun ref href => hfits.exclusive ref (List.mem_of_mem_erase href)
  | setStopLine line =>
    have hrole := t.store.replaces_put RoleName.refLine [.lineString line]
    have hline : ∀ ref ∈ [Reference.lineString line], ref.kind = .lineString :=
      List.forall_mem_singleton.2 rfl
    exact ⟨hfits.replace_stopLine hrole (Nat.le_refl 1) hline, hattributes⟩
  | removeStopLine =>
    have hrole := t.store.replaces_clear RoleName.refLine
    exact ⟨hfits.replace_stopLine hrole (Nat.zero_le 1) (List.forall_mem_nil _), hattributes⟩

/-- A rule `Arranged` as parties fits. -/
theorem Arranged.fits (h : Arranged t p) : Fits t.store := by
  have hdisjoint := (List.nodup_append'.1 h.nodup).2.2
  constructor
  · rw [h.rightOfWay]; exact List.forall_mem_map.2 fun _ _ => rfl
  · rw [h.yielding]; exact List.forall_mem_map.2 fun _ _ => rfl
  · rw [h.yielding]
    exact List.forall_mem_map.2 fun lanelet hl hmem => hdisjoint (h.mem_rightOfWay.1 hmem) hl
  · rw [h.stopLine, List.length_map]
    cases p.stopLine <;> simp
  · rw [h.stopLine]; exact List.forall_mem_map.2 fun _ _ => rfl

/-- A right of way rule of `make` fits its rule and is tagged with it. -/
theorem fits_of_make {id : Id} {attributes : Attributes} {rightOfWay yielding : List Id}
    {stopLine : Option Id} (h : make id attributes rightOfWay yielding stopLine = .ok t) :
    Fits t.store ∧ t.store.Tagged ruleName := by
  refine ⟨(arranged_of_make h).fits, ?_⟩
  have hstep {role opposite : String} (lanelet : Id) (t t' : RightOfWay)
      (htagged : t.store.Tagged ruleName) (hadd : t.addExclusive role opposite lanelet = .ok t') :
      t'.store.Tagged ruleName := by
    obtain ⟨-, -, rfl⟩ := addExclusive_eq_ok.1 hadd
    exact htagged.of_attributes_eq rfl
  obtain ⟨t₁, hright, h⟩ := bind_eq_ok.1 h
  obtain ⟨t₂, hyield, h⟩ := bind_eq_ok.1 h
  have h₁ := foldlM_induction (p := fun t => t.store.Tagged ruleName) hright
    (RoleStore.tagged_stampRule _ ruleName) fun lanelet _ => hstep lanelet
  have h₂ := foldlM_induction (p := fun t => t.store.Tagged ruleName) hyield h₁
    fun lanelet _ => hstep lanelet
  obtain rfl := Except.ok.inj h
  cases stopLine with
  | none => exact h₂
  | some line => exact h₂.of_attributes_eq rfl

end RightOfWay

/-! ## Signs -/

namespace SignRule

variable {s s' : RoleStore} {rule role : String}

/-- What a sign rule asks of its roles (`Fits`), except that there is a sign. -/
def FitsBare (s : RoleStore) : Prop :=
  ∀ role ∈ roleNames, ∀ ref ∈ s.get role, ref.kind = .lineString

/-- Exchanging the lines of any role for other line strings keeps `FitsBare`. -/
theorem FitsBare.replace (h : FitsBare s) {refs : List Reference} (hrole : s.Replaces s' role refs)
    (hrefs : ∀ ref ∈ refs, ref.kind = .lineString) : FitsBare s' :=
  fun other hother => hrole.forall_mem hrefs (h other hother)

/-- A rule that a consistent plan `Describes` fits. -/
theorem Plan.Describes.fits {p : Plan} {t : TrafficSign} (h : p.Describes rule t)
    (hgroups : p.Consistent) : Fits t.store := by
  refine ⟨?_, fun role hrole => ?_⟩
  · rw [h.roles _ (.head _)]
    simpa using hgroups.signs
  · obtain ⟨q, hq, rfl⟩ := List.mem_map.1 (p.map_fst_roles ▸ hrole)
    rw [h.roles q hq]
    exact List.forall_mem_map.2 fun _ _ => rfl

theorem Plan.Describes.tagged {p : Plan} {t : TrafficSign} (h : p.Describes rule t) :
    t.store.Tagged rule :=
  ⟨h.tags.type, h.tags.subtype⟩

/-- The store that `build` makes fits the sign rule and is tagged with it. -/
theorem fits_of_build {id : Id} {attributes : Attributes} {signs cancelling : SignGroup}
    {refLines cancelLines : List Id}
    (h : build rule id attributes signs cancelling refLines cancelLines = .ok s) :
    Fits s ∧ s.Tagged rule := by
  obtain ⟨hgroups, htells⟩ :=
    Plan.describes_of_build (p := ⟨id, attributes, signs, cancelling, refLines, cancelLines⟩) h
  exact ⟨htells.fits hgroups, htells.tagged⟩

/-- A sign rule with these attributes, and in order except that it may have no sign (`FitsBare`). -/
def Keeps (attributes : Attributes) (t : TrafficSign) : Prop :=
  FitsBare t.store ∧ t.store.attributes = attributes

variable {attributes : Attributes} {t : TrafficSign}

/-- Adding a line to one of the `roleNames` leaves the rule in order. -/
theorem Keeps.addTo (h : Keeps attributes t) (hname : role ∈ roleNames) (line : Id) :
    Keeps attributes (Outcome.ofAttempt t (t.addTo role line)).state := by
  have hlines : ∀ ref ∈ t.store.get role ++ [.lineString line], ref.kind = .lineString :=
    List.forall_mem_append.2 ⟨h.1 role hname, List.forall_mem_singleton.2 rfl⟩
  exact Outcome.of_add (p := Keeps attributes) h fun s' hrole =>
    ⟨h.1.replace hrole hlines, hrole.attributes.trans h.2⟩

/-- Removing a line from one of the `roleNames` leaves the rule in order. -/
theorem Keeps.removeFrom (h : Keeps attributes t) (hname : role ∈ roleNames) (line : Id) :
    Keeps attributes (t.removeFrom role line).2 := by
  have hrole := t.store.replaces_remove role (.lineString line)
  have hlines : ∀ ref ∈ (t.store.get role).erase (.lineString line), ref.kind = .lineString :=
    fun ref href => h.1 role hname ref (List.mem_of_mem_erase href)
  exact ⟨h.1.replace hrole hlines, hrole.attributes.trans h.2⟩

/-- Every call to a sign rule leaves it in order, with its attributes. -/
theorem Keeps.step (t : TrafficSign) (c : TrafficSign.Call) (h : Keeps attributes t) :
    Keeps attributes (t.call c).state := by
  cases c with
  | addSign sign => exact h.addTo (by decide) sign
  | removeSign sign => exact h.removeFrom (by decide) sign
  | addCancellingSign sign => exact h.addTo (by decide) sign
  | removeCancellingSign sign => exact h.removeFrom (by decide) sign
  | addRefLine line => exact h.addTo (by decide) line
  | removeRefLine line => exact h.removeFrom (by decide) line
  | addCancelLine line => exact h.addTo (by decide) line
  | removeCancelLine line => exact h.removeFrom (by decide) line

end SignRule

end RoadNet
