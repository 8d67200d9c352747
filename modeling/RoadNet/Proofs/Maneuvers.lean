import RoadNet.Proofs.Histories
import RoadNet.Proofs.Rules
import RoadNet.Proofs.Stores

/-!
# RoadNet.Proofs.Maneuvers

A right of way rule never holds a lanelet in both roles, whatever is done to it through its
interface (`RightOfWay.orderly_after`).

The rule is described by plain lists (`Parties`): those who have right of way, those who yield, and
the stop line. `Arranged t p` says that the roles of `t` hold exactly what `p` lists, and that no
lanelet is listed twice. Both ways to obtain a rule arrange it, and every call keeps it arranged;
everything else is read off the lists.
-/

namespace RoadNet

/-- A list of at most one element is told by its `head?`. -/
theorem toList_head?_of_length_le_one {l : List α} (h : l.length ≤ 1) : l.head?.toList = l := by
  cases l with
  | nil => rfl
  | cons a rest =>
    obtain rfl : rest = [] := by simpa using h
    rfl

namespace RightOfWay

/-! ## Parties -/

/-- The lanelets that take part in a right of way rule, and its stop line. -/
structure Parties where
  rightOfWay : List Id
  yielding : List Id
  stopLine : Option Id
deriving DecidableEq

/-- What a call makes of the parties: an added lanelet comes last in its list, and a removed one is
taken out of it with `erase`. -/
def Parties.replay (p : Parties) : Call → Parties
  | .addRightOfWay lanelet => { p with rightOfWay := p.rightOfWay ++ [lanelet] }
  | .addYield lanelet => { p with yielding := p.yielding ++ [lanelet] }
  | .removeRightOfWay lanelet => { p with rightOfWay := p.rightOfWay.erase lanelet }
  | .removeYield lanelet => { p with yielding := p.yielding.erase lanelet }
  | .setStopLine line => { p with stopLine := some line }
  | .removeStopLine => { p with stopLine := none }

/-- The parties that a rule shows through `rightOfWayLanelets`, `yieldLanelets` and `stopLine?`. -/
def parties (t : RightOfWay) : Parties := ⟨t.rightOfWayLanelets, t.yieldLanelets, t.stopLine?⟩

/-- The roles of the rule `t` hold exactly what the parties `p` list, and no lanelet is listed
twice. -/
structure Arranged (t : RightOfWay) (p : Parties) : Prop where
  rightOfWay : t.store.get RoleName.rightOfWay = p.rightOfWay.map .lanelet
  yielding : t.store.get RoleName.yielding = p.yielding.map .lanelet
  stopLine : t.store.get RoleName.refLine = p.stopLine.toList.map .lineString
  nodup : (p.rightOfWay ++ p.yielding).Nodup

variable {t t' : RightOfWay} {p : Parties}

/-- A rule `Arranged` as parties shows them. -/
theorem Arranged.parties_eq (h : Arranged t p) : t.parties = p := by
  have hright : t.rightOfWayLanelets = p.rightOfWay := RoleStore.ids_of_get_eq h.rightOfWay
  have hyield : t.yieldLanelets = p.yielding := RoleStore.ids_of_get_eq h.yielding
  have hstop : t.stopLine? = p.stopLine := by
    rw [stopLine?, RoleStore.ids_of_get_eq h.stopLine, Option.head?_toList]
  rw [parties, hright, hyield, hstop]

/-- The role of right of way holds exactly the lanelets that the parties list for it. -/
theorem Arranged.mem_rightOfWay (h : Arranged t p) {lanelet : Id} :
    .lanelet lanelet ∈ t.store.get RoleName.rightOfWay ↔ lanelet ∈ p.rightOfWay := by
  rw [h.rightOfWay]
  exact List.mem_map_of_injective Reference.lanelet_injective

/-- The role of those that yield holds exactly the lanelets that the parties list for it. -/
theorem Arranged.mem_yielding (h : Arranged t p) {lanelet : Id} :
    .lanelet lanelet ∈ t.store.get RoleName.yielding ↔ lanelet ∈ p.yielding := by
  rw [h.yielding]
  exact List.mem_map_of_injective Reference.lanelet_injective

/-! ## One call -/

/-- `addExclusive` checks the opposite role first (`conflictingRole`), then its own
(`duplicateReference`), and adds the lanelet at the end. -/
theorem addExclusive_eq (t : RightOfWay) (role opposite : String) (lanelet : Id) :
    t.addExclusive role opposite lanelet =
      if .lanelet lanelet ∈ t.store.get opposite then
        .error (.conflictingRole t.store.id lanelet role opposite)
      else if .lanelet lanelet ∈ t.store.get role then
        .error (.duplicateReference t.store.id role (.lanelet lanelet))
      else .ok ⟨t.store.put role (t.store.get role ++ [.lanelet lanelet])⟩ := by
  simp only [addExclusive, RoleStore.contains, RoleStore.add, decide_eq_true_eq]
  split
  · rfl
  · split <;> rfl

/-- `addExclusive` succeeds exactly if neither role holds the lanelet. -/
theorem addExclusive_eq_ok {role opposite : String} {lanelet : Id} :
    t.addExclusive role opposite lanelet = .ok t' ↔
      .lanelet lanelet ∉ t.store.get opposite ∧ .lanelet lanelet ∉ t.store.get role ∧
        t' = ⟨t.store.put role (t.store.get role ++ [.lanelet lanelet])⟩ := by
  rw [addExclusive_eq]
  split
  next hopposite => exact ⟨nofun, fun h => absurd hopposite h.1⟩
  next hopposite =>
    split
    next hrole => exact ⟨nofun, fun h => absurd hrole h.2.1⟩
    next hrole =>
      exact ⟨fun h => ⟨hopposite, hrole, (Except.ok.inj h).symm⟩,
        fun h => congrArg Except.ok h.2.2.symm⟩

/-! A call gives one role other references and leaves the rest alone. -/

/-- Exchanging the lanelets with right of way, all distinct from those that yield, exchanges them in
the parties. -/
theorem Arranged.replace_rightOfWay (h : Arranged t p) {l : List Id}
    (hrole : t.store.Replaces t'.store RoleName.rightOfWay (l.map .lanelet))
    (hnodup : (l ++ p.yielding).Nodup) : Arranged t' { p with rightOfWay := l } where
  rightOfWay := hrole.get_self
  yielding := (hrole.get_other (by decide)).trans h.yielding
  stopLine := (hrole.get_other (by decide)).trans h.stopLine
  nodup := hnodup

theorem Arranged.replace_yielding (h : Arranged t p) {l : List Id}
    (hrole : t.store.Replaces t'.store RoleName.yielding (l.map .lanelet))
    (hnodup : (p.rightOfWay ++ l).Nodup) : Arranged t' { p with yielding := l } where
  rightOfWay := (hrole.get_other (by decide)).trans h.rightOfWay
  yielding := hrole.get_self
  stopLine := (hrole.get_other (by decide)).trans h.stopLine
  nodup := hnodup

theorem Arranged.replace_stopLine (h : Arranged t p) {stopLine : Option Id}
    (hrole : t.store.Replaces t'.store RoleName.refLine (stopLine.toList.map .lineString)) :
    Arranged t' { p with stopLine := stopLine } where
  rightOfWay := (hrole.get_other (by decide)).trans h.rightOfWay
  yielding := (hrole.get_other (by decide)).trans h.yielding
  stopLine := hrole.get_self
  nodup := h.nodup

/-- An accepted `addRightOfWay` acts on the roles as its replay does on the parties. -/
theorem Arranged.addRightOfWay (h : Arranged t p) {lanelet : Id}
    (hadd : t.addRightOfWay lanelet = .ok t') :
    Arranged t' (p.replay (.addRightOfWay lanelet)) := by
  obtain ⟨hyield, hright, rfl⟩ := addExclusive_eq_ok.1 hadd
  rw [h.mem_yielding] at hyield
  rw [h.mem_rightOfWay] at hright
  have hnew : lanelet ∉ p.rightOfWay ++ p.yielding := by simp [hright, hyield]
  refine h.replace_rightOfWay ?_ ?_
  · rw [h.rightOfWay, ← List.map_singleton, ← List.map_append]
    exact RoleStore.replaces_put _ _ _
  · rw [List.append_assoc, List.singleton_append, List.perm_middle.nodup_iff]
    exact List.nodup_cons.2 ⟨hnew, h.nodup⟩

theorem Arranged.addYield (h : Arranged t p) {lanelet : Id}
    (hadd : t.addYield lanelet = .ok t') : Arranged t' (p.replay (.addYield lanelet)) := by
  obtain ⟨hright, hyield, rfl⟩ := addExclusive_eq_ok.1 hadd
  rw [h.mem_yielding] at hyield
  rw [h.mem_rightOfWay] at hright
  have hnew : lanelet ∉ p.rightOfWay ++ p.yielding := by simp [hright, hyield]
  refine h.replace_yielding ?_ ?_
  · rw [h.yielding, ← List.map_singleton, ← List.map_append]
    exact RoleStore.replaces_put _ _ _
  · rw [← List.append_assoc, (List.perm_append_singleton _ _).nodup_iff]
    exact List.nodup_cons.2 ⟨hnew, h.nodup⟩

/-- Each call that is never refused acts on the roles as its replay does on the parties. -/
theorem Arranged.removeRightOfWay (h : Arranged t p) (lanelet : Id) :
    Arranged (t.removeRightOfWay lanelet).2 (p.replay (.removeRightOfWay lanelet)) := by
  refine h.replace_rightOfWay ?_ ((List.erase_sublist.append_right _).nodup h.nodup)
  rw [List.map_erase Reference.lanelet_injective, ← h.rightOfWay]
  exact RoleStore.replaces_remove _ _ _

theorem Arranged.removeYield (h : Arranged t p) (lanelet : Id) :
    Arranged (t.removeYield lanelet).2 (p.replay (.removeYield lanelet)) := by
  refine h.replace_yielding ?_ ((List.erase_sublist.append_left _).nodup h.nodup)
  rw [List.map_erase Reference.lanelet_injective, ← h.yielding]
  exact RoleStore.replaces_remove _ _ _

theorem Arranged.setStopLine (h : Arranged t p) (line : Id) :
    Arranged (t.setStopLine line) (p.replay (.setStopLine line)) :=
  h.replace_stopLine (RoleStore.replaces_put _ _ _)

theorem Arranged.removeStopLine (h : Arranged t p) :
    Arranged t.removeStopLine (p.replay .removeStopLine) :=
  h.replace_stopLine (RoleStore.replaces_clear _ _)

/-- One step: a call that is accepted acts on the parties (`Parties.replay`) as it does on the
roles, and one that is refused does nothing. -/
theorem Arranged.step (h : Arranged t p) (c : Call) :
    Arranged (t.call c).state (if (t.call c).answer.isRefused then p else p.replay c) := by
  have hattempt {x : Except Fault RightOfWay} (hok : ∀ t', x = .ok t' → Arranged t' (p.replay c)) :
      Arranged (Outcome.ofAttempt t x).state
        (if (Outcome.ofAttempt t x).answer.isRefused then p else p.replay c) :=
    Outcome.of_attempt (r := fun t' refused => Arranged t' (if refused then p else p.replay c))
      hok h
  cases c with
  | addRightOfWay lanelet => exact hattempt fun t' hadd => h.addRightOfWay hadd
  | addYield lanelet => exact hattempt fun t' hadd => h.addYield hadd
  | removeRightOfWay lanelet => exact h.removeRightOfWay lanelet
  | removeYield lanelet => exact h.removeYield lanelet
  | setStopLine line => exact h.setStopLine line
  | removeStopLine => exact h.removeStopLine

/-! ## Ways to obtain a rule -/

/-- The rules that the constructors `make` and `ofStore` give, with the parties that they are made
from. -/
inductive Obtained : RightOfWay → Parties → Prop where
  | make {id : Id} {attributes : Attributes} {rightOfWay yielding : List Id}
      {stopLine : Option Id} {t : RightOfWay}
      (h : make id attributes rightOfWay yielding stopLine = .ok t) :
      Obtained t ⟨rightOfWay, yielding, stopLine⟩
  | ofStore {s : RoleStore} {t : RightOfWay} (reached : s.Reached) (h : ofStore s = .ok t) :
      Obtained t ⟨s.ids RoleName.rightOfWay .lanelet, s.ids RoleName.yielding .lanelet,
        (s.ids RoleName.refLine .lineString).head?⟩

/-- `make` arranges the roles as the parties it is given. -/
theorem arranged_of_make {id : Id} {attributes : Attributes} {rightOfWay yielding : List Id}
    {stopLine : Option Id} (h : make id attributes rightOfWay yielding stopLine = .ok t) :
    Arranged t ⟨rightOfWay, yielding, stopLine⟩ := by
  obtain ⟨t₁, hright, h⟩ := bind_eq_ok.1 h
  obtain ⟨t₂, hyield, h⟩ := bind_eq_ok.1 h
  have hstart : Arranged ⟨(RoleStore.ofAttributes id attributes).stampRule ruleName⟩
      ⟨[], [], none⟩ := ⟨rfl, rfl, rfl, List.nodup_nil⟩
  have h₁ : Arranged t₁ ⟨rightOfWay, [], none⟩ :=
    foldlM_induction_append (r := fun t l => Arranged t ⟨l, [], none⟩) hright hstart
      fun _ _ _ _ h hadd => h.addRightOfWay hadd
  have h₂ : Arranged t₂ ⟨rightOfWay, yielding, none⟩ :=
    foldlM_induction_append (r := fun t l => Arranged t ⟨rightOfWay, l, none⟩) hyield h₁
      fun _ _ _ _ h hadd => h.addYield hadd
  obtain rfl := Except.ok.inj h
  cases stopLine with
  | none => exact h₂
  | some line => exact h₂.setStopLine line

/-- A `Tidy` store that `Fits` the rule is arranged as the parties that its roles name. -/
theorem arranged_of_fits {s : RoleStore} (htidy : s.Tidy) (hfits : Fits s) :
    Arranged ⟨s⟩ ⟨s.ids RoleName.rightOfWay .lanelet, s.ids RoleName.yielding .lanelet,
      (s.ids RoleName.refLine .lineString).head?⟩ := by
  have hright := RoleStore.get_eq_map_ids hfits.rightOfWay
  have hyield := RoleStore.get_eq_map_ids hfits.yielding
  have hline := RoleStore.get_eq_map_ids hfits.refLine
  have hnodup : ∀ role, (s.get role).Nodup := htidy.nodup
  refine ⟨hright, hyield, ?_, List.nodup_append'.2 ⟨?_, ?_, ?_⟩⟩
  · have hshort := hfits.stopLine
    rw [hline, List.length_map] at hshort
    rw [toList_head?_of_length_le_one hshort]
    exact hline
  · exact List.Nodup.of_map _ (hright ▸ hnodup RoleName.rightOfWay)
  · exact List.Nodup.of_map _ (hyield ▸ hnodup RoleName.yielding)
  · intro lanelet hr hy
    refine hfits.exclusive (.lanelet lanelet) ?_ ?_
    · rw [hyield]; exact List.mem_map_of_mem hy
    · rw [hright]; exact List.mem_map_of_mem hr

/-- Both constructors arrange the roles. -/
theorem Obtained.arranged (h : Obtained t p) : Arranged t p := by
  cases h with
  | make h => exact arranged_of_make h
  | ofStore reached h =>
    obtain ⟨rfl, hfits⟩ := ofStore_eq_ok.1 h
    exact arranged_of_fits reached.tidy hfits

/-! ## Any number of calls -/

/-- What holds of a right of way rule at any time: no lanelet is listed twice, the maneuver of a
lanelet is the list that it is in, the stop line is all that its role holds, and each call answers
according to the lists. -/
structure Orderly (t : RightOfWay) : Prop where
  nodup_rightOfWay : t.rightOfWayLanelets.Nodup
  nodup_yield : t.yieldLanelets.Nodup
  disjoint : t.rightOfWayLanelets.Disjoint t.yieldLanelets
  maneuver_rightOfWay : ∀ lanelet,
    t.maneuver lanelet = .rightOfWay ↔ lanelet ∈ t.rightOfWayLanelets
  maneuver_yields : ∀ lanelet, t.maneuver lanelet = .yields ↔ lanelet ∈ t.yieldLanelets
  maneuver_unknown : ∀ lanelet,
    t.maneuver lanelet = .unknown ↔ lanelet ∉ t.rightOfWayLanelets ∧ lanelet ∉ t.yieldLanelets
  stopLine : t.store.get RoleName.refLine = t.stopLine?.toList.map .lineString
  addRightOfWay : ∀ lanelet, (t.call (.addRightOfWay lanelet)).answer =
    if lanelet ∈ t.yieldLanelets then
      .refused (.conflictingRole t.store.id lanelet RoleName.rightOfWay RoleName.yielding)
    else if lanelet ∈ t.rightOfWayLanelets then
      .refused (.duplicateReference t.store.id RoleName.rightOfWay (.lanelet lanelet))
    else .done
  addYield : ∀ lanelet, (t.call (.addYield lanelet)).answer =
    if lanelet ∈ t.rightOfWayLanelets then
      .refused (.conflictingRole t.store.id lanelet RoleName.yielding RoleName.rightOfWay)
    else if lanelet ∈ t.yieldLanelets then
      .refused (.duplicateReference t.store.id RoleName.yielding (.lanelet lanelet))
    else .done
  removeRightOfWay : ∀ lanelet, (t.call (.removeRightOfWay lanelet)).answer =
    .removed (decide (lanelet ∈ t.rightOfWayLanelets))
  removeYield : ∀ lanelet, (t.call (.removeYield lanelet)).answer =
    .removed (decide (lanelet ∈ t.yieldLanelets))
  refused : ∀ c, (t.call c).answer.isRefused = true → (t.call c).state = t

/-- A refused call leaves the rule as it is. -/
theorem state_of_refused {c : Call} (h : (t.call c).answer.isRefused = true) :
    (t.call c).state = t := by
  cases c with
  | addRightOfWay lanelet => exact Outcome.state_ofAttempt h
  | addYield lanelet => exact Outcome.state_ofAttempt h
  | removeRightOfWay lanelet => cases h
  | removeYield lanelet => cases h
  | setStopLine line => cases h
  | removeStopLine => cases h

/-- The answer to a call that adds a lanelet: `conflictingRole` before `duplicateReference`, else
done. -/
theorem answer_addExclusive (t : RightOfWay) (role opposite : String) (lanelet : Id) :
    (Outcome.ofAttempt t (t.addExclusive role opposite lanelet)).answer =
      if .lanelet lanelet ∈ t.store.get opposite then
        .refused (.conflictingRole t.store.id lanelet role opposite)
      else if .lanelet lanelet ∈ t.store.get role then
        .refused (.duplicateReference t.store.id role (.lanelet lanelet))
      else .done := by
  rw [addExclusive_eq]
  split
  · rfl
  · split <;> rfl

/-- `maneuver` names the list of the parties that a lanelet is in. -/
theorem Arranged.maneuver_eq (h : Arranged t p) (lanelet : Id) :
    t.maneuver lanelet =
      if lanelet ∈ p.rightOfWay then .rightOfWay
      else if lanelet ∈ p.yielding then .yields else .unknown := by
  simp only [maneuver, RoleStore.contains, decide_eq_true_eq, h.mem_rightOfWay, h.mem_yielding]

/-- A rule that is `Arranged` as any parties is `Orderly`. -/
theorem Arranged.orderly (h : Arranged t p) : Orderly t := by
  obtain ⟨hnodup, hnodup', hdisjoint⟩ := List.nodup_append'.1 h.nodup
  have hright : t.rightOfWayLanelets = p.rightOfWay := congrArg Parties.rightOfWay h.parties_eq
  have hyield : t.yieldLanelets = p.yielding := congrArg Parties.yielding h.parties_eq
  have hstop : t.stopLine? = p.stopLine := congrArg Parties.stopLine h.parties_eq
  constructor
  case nodup_rightOfWay => rwa [hright]
  case nodup_yield => rwa [hyield]
  case disjoint => rwa [hright, hyield]
  case maneuver_rightOfWay =>
    intro lanelet
    rw [h.maneuver_eq, hright]
    grind
  case maneuver_yields =>
    intro lanelet
    have hapart := @hdisjoint lanelet
    rw [h.maneuver_eq, hyield]
    grind
  case maneuver_unknown =>
    intro lanelet
    rw [h.maneuver_eq, hright, hyield]
    grind
  case stopLine => rw [hstop]; exact h.stopLine
  case addRightOfWay =>
    intro lanelet
    have hanswer := t.answer_addExclusive RoleName.rightOfWay RoleName.yielding lanelet
    simp only [h.mem_rightOfWay, h.mem_yielding] at hanswer
    rwa [hright, hyield]
  case addYield =>
    intro lanelet
    have hanswer := t.answer_addExclusive RoleName.yielding RoleName.rightOfWay lanelet
    simp only [h.mem_rightOfWay, h.mem_yielding] at hanswer
    rwa [hright, hyield]
  case removeRightOfWay =>
    intro lanelet
    have hfound := t.store.fst_remove RoleName.rightOfWay (.lanelet lanelet)
    simp only [h.mem_rightOfWay] at hfound
    rw [hright]
    exact congrArg Answer.removed hfound
  case removeYield =>
    intro lanelet
    have hfound := t.store.fst_remove RoleName.yielding (.lanelet lanelet)
    simp only [h.mem_yielding] at hfound
    rw [hyield]
    exact congrArg Answer.removed hfound
  case refused => exact fun c => state_of_refused

/-- A right of way rule keeps its lanelets apart, whatever calls come: it is `Orderly` `after` them,
and shows what the `accepted` calls, replayed one by one, make of the parties `p` that it started
with. -/
theorem orderly_after (h : Obtained t p) (calls : List Call) :
    Orderly (after call t calls) ∧
      (after call t calls).parties = (accepted call t calls).foldl Parties.replay p := by
  have harranged := after_replays (r := Arranged) (fun _ _ c h => h.step c) h.arranged calls
  exact ⟨harranged.orderly, harranged.parties_eq⟩

/-- Calls that move a lanelet to the other role, after two that are refused. -/
def shift : List Call :=
  [.addYield 10, .addRightOfWay 10, .removeRightOfWay 10, .addYield 10, .removeYield 99,
    .setStopLine 6, .removeStopLine, .setStopLine 7]

/-- The lanelet ends up last among those that yield. -/
theorem orderly_after_shift :
    ∃ t, make 1 .empty [10, 11] [12] (some 5) = .ok t ∧ Orderly (after call t shift) ∧
      accepted call t shift = shift.drop 2 ∧
      (after call t shift).parties = ⟨[11], [12, 10], some 7⟩ := by
  obtain ⟨t, ht⟩ : ∃ t, make 1 .empty [10, 11] [12] (some 5) = .ok t := ⟨_, rfl⟩
  have haccepted : accepted call t shift = shift.drop 2 := by
    cases ht
    decide
  obtain ⟨horderly, hparties⟩ := orderly_after (.make ht) shift
  exact ⟨t, ht, horderly, haccepted, by rw [hparties, haccepted]; rfl⟩

end RightOfWay

end RoadNet
