import RoadNet.Proofs.Histories
import RoadNet.Proofs.Rules
import RoadNet.Proofs.Stores

/-!
# RoadNet.Proofs.StopLines

A traffic light always has its stop line, whatever is done to it through its interface
(`TrafficLight.intact_after`).

The rule is described by plain data (`Signals`): its lights in order, and its one stop line.
`Shows t p` says that the roles of `t` hold exactly these and no light twice. Both ways to obtain a
traffic light show what it was obtained from, and every call shows what it makes of that
(`Shows.step`).
-/

namespace RoadNet

namespace TrafficLight

/-! ## Signals -/

/-- The lights of a rule, and the line where to stop for them. -/
structure Signals where
  lights : List Id
  stopLine : Id
deriving DecidableEq

/-- What a call makes of the signals: an added light comes last, and a removed one is taken out with
`erase`. -/
def Signals.replay (p : Signals) : Call → Signals
  | .addLight light => { p with lights := p.lights ++ [light] }
  | .removeLight light => { p with lights := p.lights.erase light }
  | .setStopLine line => { p with stopLine := line }

/-- The stop line that a call sets. -/
def Call.stopLine? : Call → Option Id
  | .setStopLine line => some line
  | _ => none

/-- The roles of the rule `t` hold exactly the signals `p`, and no light twice. -/
structure Shows (t : TrafficLight) (p : Signals) : Prop where
  refers : t.store.get RoleName.refers = p.lights.map .lineString
  refLine : t.store.get RoleName.refLine = [.lineString p.stopLine]
  nodup : p.lights.Nodup

variable {t t' : TrafficLight} {p : Signals}

theorem Shows.lights_eq (h : Shows t p) : t.lights = p.lights :=
  RoleStore.ids_of_get_eq h.refers

/-- A rule that `Shows` signals has their stop line. -/
theorem Shows.stopLine_eq (h : Shows t p) : t.stopLine = .ok p.stopLine := by
  have hids : t.store.ids RoleName.refLine .lineString = [p.stopLine] :=
    RoleStore.ids_of_get_eq h.refLine
  rw [stopLine, hids]
  rfl

theorem Shows.mem_refers (h : Shows t p) {light : Id} :
    .lineString light ∈ t.store.get RoleName.refers ↔ light ∈ p.lights := by
  rw [h.refers]
  exact List.mem_map_of_injective Reference.lineString_injective

/-! ## One call -/

/-- Exchanging the lights for others, all distinct, exchanges them in the signals. -/
theorem Shows.replace_refers (h : Shows t p) {lights : List Id}
    (hrole : t.store.Replaces t'.store RoleName.refers (lights.map .lineString))
    (hnodup : lights.Nodup) : Shows t' { p with lights := lights } where
  refers := hrole.get_self
  refLine := (hrole.get_other (by decide)).trans h.refLine
  nodup := hnodup

/-- An accepted `addLight` acts on the roles as its replay does on the signals. -/
theorem Shows.addLight (h : Shows t p) {light : Id} (hadd : t.addLight light = .ok t') :
    Shows t' (p.replay (.addLight light)) := by
  obtain ⟨s, hs, rfl⟩ := map_eq_ok.1 hadd
  have hnew : light ∉ p.lights := mt h.mem_refers.2 (RoleStore.add_eq_ok.1 hs).1
  refine h.replace_refers ?_ (h.nodup.append (List.nodup_singleton light) (by simpa using hnew))
  rw [List.map_append, ← h.refers]
  exact RoleStore.replaces_of_add hs

/-- `removeLight` acts on the roles as its replay does on the signals. -/
theorem Shows.removeLight (h : Shows t p) (light : Id) :
    Shows (t.removeLight light).2 (p.replay (.removeLight light)) := by
  refine h.replace_refers ?_ (h.nodup.erase light)
  rw [List.map_erase Reference.lineString_injective, ← h.refers]
  exact RoleStore.replaces_remove _ _ _

/-- `setStopLine` acts on the roles as its replay does on the signals. -/
theorem Shows.setStopLine (h : Shows t p) (line : Id) :
    Shows (t.setStopLine line) (p.replay (.setStopLine line)) := by
  have hrole := t.store.replaces_put RoleName.refLine [.lineString line]
  exact ⟨(hrole.get_other (by decide)).trans h.refers, hrole.get_self, h.nodup⟩

/-- One step: a call that is accepted acts on the signals (`Signals.replay`) as it does on the
roles, and one that is refused does nothing. -/
theorem Shows.step (h : Shows t p) (c : Call) :
    Shows (t.call c).state (if (t.call c).answer.isRefused then p else p.replay c) := by
  cases c with
  | addLight light =>
    exact Outcome.of_attempt
      (r := fun t' refused => Shows t' (if refused then p else p.replay (.addLight light)))
      (fun t' hadd => h.addLight hadd) h
  | removeLight light => exact h.removeLight light
  | setStopLine line => exact h.setStopLine line

/-- A refused call leaves the rule as it is. -/
theorem state_of_refused {c : Call} (h : (t.call c).answer.isRefused = true) :
    (t.call c).state = t := by
  cases c with
  | addLight light => exact Outcome.state_ofAttempt h
  | removeLight light => cases h
  | setStopLine line => cases h

/-- A call that sets the stop line is never refused. -/
theorem stopLine?_of_refused {c : Call} (h : (t.call c).answer.isRefused = true) :
    c.stopLine? = none := by
  cases c with
  | setStopLine line => cases h
  | _ => rfl

/-! ## Ways to obtain a rule -/

/-- The traffic lights that `make` and `ofStore` give, with the lights and the stop line that they
are made from. -/
inductive Obtained : TrafficLight → List Id → Option Id → Prop where
  | make {id : Id} {attributes : Attributes} {lights : List Id} {stopLine : Option Id}
      {t : TrafficLight} (h : make id attributes lights stopLine = .ok t) :
      Obtained t lights stopLine
  | ofStore {s : RoleStore} {t : TrafficLight} (reached : s.Reached) (h : ofStore s = .ok t) :
      Obtained t (s.ids RoleName.refers .lineString) (s.ids RoleName.refLine .lineString).head?

/-- `make` gives a rule that `Shows` the lights and the stop line it is given. -/
theorem shows_of_make {id : Id} {attributes : Attributes} {lights : List Id} {stopLine : Option Id}
    (h : make id attributes lights stopLine = .ok t) :
    ∃ line, stopLine = some line ∧ Shows t ⟨lights, line⟩ := by
  obtain ⟨-, h⟩ := throw_if_eq_ok.1 h
  cases stopLine with
  | none => cases h
  | some line =>
    obtain ⟨s, hs, h⟩ := bind_eq_ok.1 h
    obtain rfl := Except.ok.inj h
    have hlights := RoleStore.replaces_of_addAll hs
    have hline := s.replaces_put RoleName.refLine [.lineString line]
    have hget : s.get RoleName.refers = lights.map .lineString := hlights.get_self
    have htidy : s.Tidy := ((RoleStore.tidy_ofAttributes id attributes).withAttributes _).addAll hs
    refine ⟨line, rfl, (hline.get_other (by decide)).trans hget, hline.get_self, ?_⟩
    exact List.Nodup.of_map _ (hget ▸ htidy.nodup RoleName.refers)

/-- A `Tidy` store that `Fits` the rule shows the lights and the stop line that its roles name. -/
theorem shows_of_fits {s : RoleStore} (htidy : s.Tidy) (hfits : Fits s) :
    ∃ line, (s.ids RoleName.refLine .lineString).head? = some line ∧
      Shows ⟨s⟩ ⟨s.ids RoleName.refers .lineString, line⟩ := by
  have hrefers := RoleStore.get_eq_map_ids hfits.refers
  have hrefLine := RoleStore.get_eq_map_ids hfits.refLine
  have hone := hfits.stopLine
  rw [hrefLine, List.length_map] at hone
  obtain ⟨line, hline⟩ := List.length_eq_one_iff.1 hone
  rw [hline] at hrefLine ⊢
  exact ⟨line, rfl, hrefers, hrefLine,
    List.Nodup.of_map _ (hrefers ▸ htidy.nodup RoleName.refers)⟩

/-- Both constructors give rules that show signals. -/
theorem Obtained.shows {lights : List Id} {stopLine : Option Id} (h : Obtained t lights stopLine) :
    ∃ line, stopLine = some line ∧ Shows t ⟨lights, line⟩ := by
  cases h with
  | make h => exact shows_of_make h
  | ofStore reached h =>
    obtain ⟨rfl, hfits⟩ := ofStore_eq_ok.1 h
    exact shows_of_fits reached.tidy hfits

/-! ## Any number of calls -/

/-- What holds of a traffic light at any time: its stop line is there and is all that its role
holds, no light is listed twice, and each call answers according to the lights. -/
structure Intact (t : TrafficLight) : Prop where
  stopLine : ∃ line, t.stopLine = .ok line ∧ t.store.get RoleName.refLine = [.lineString line]
  lights : t.store.get RoleName.refers = t.lights.map .lineString
  nodup : t.lights.Nodup
  addLight : ∀ light, (t.call (.addLight light)).answer =
    if light ∈ t.lights then
      .refused (.duplicateReference t.store.id RoleName.refers (.lineString light))
    else .done
  removeLight : ∀ light, (t.call (.removeLight light)).answer =
    .removed (decide (light ∈ t.lights))
  setStopLine : ∀ line, (t.call (.setStopLine line)).answer = .done
  refused : ∀ c, (t.call c).answer.isRefused = true → (t.call c).state = t
  absent : ∀ light, light ∉ t.lights → (t.call (.removeLight light)).state = t

/-- A rule that `Shows` any signals is `Intact`. -/
theorem Shows.intact (h : Shows t p) : Intact t where
  stopLine := ⟨p.stopLine, h.stopLine_eq, h.refLine⟩
  lights := by rw [h.lights_eq]; exact h.refers
  nodup := by rw [h.lights_eq]; exact h.nodup
  addLight light := by
    have hanswer : (t.call (.addLight light)).answer = _ := Outcome.answer_add
    simp only [h.mem_refers] at hanswer
    rwa [h.lights_eq]
  removeLight light := by
    have hfound := t.store.fst_remove RoleName.refers (.lineString light)
    simp only [h.mem_refers] at hfound
    rw [h.lights_eq]
    exact congrArg Answer.removed hfound
  setStopLine _ := rfl
  refused _ := state_of_refused
  absent light hlight := by
    rw [h.lights_eq, ← h.mem_refers] at hlight
    simp [call, Outcome.ofRemoval, TrafficLight.removeLight, RoleStore.remove, RoleStore.contains,
      hlight]

/-- The last stop line that is set is the one that `replay` ends with. -/
theorem stopLine_foldl_replay (p : Signals) (calls : List Call) :
    (calls.foldl Signals.replay p).stopLine =
      (calls.filterMap Call.stopLine?).getLast?.getD p.stopLine := by
  induction calls generalizing p with
  | nil => rfl
  | cons c rest ih =>
    rw [List.foldl_cons, ih]
    cases c <;> simp [Signals.replay, Call.stopLine?, List.getLast?_cons]

/-- A traffic light keeps its stop line, whatever calls come: it is `Intact` `after` them, the line
is the last that was set, or the one that the rule was made with, and the lights are what the
`accepted` calls, replayed one by one, make of those that it was made with. -/
theorem intact_after {lights : List Id} {stopLine : Option Id} (h : Obtained t lights stopLine)
    (calls : List Call) :
    ∃ line, stopLine = some line ∧ Intact (after call t calls) ∧
      (after call t calls).stopLine =
        .ok ((calls.filterMap Call.stopLine?).getLast?.getD line) ∧
      (after call t calls).lights =
        ((accepted call t calls).foldl Signals.replay ⟨lights, line⟩).lights := by
  obtain ⟨line, rfl, hshows⟩ := h.shows
  have hafter := after_replays (r := Shows) (fun _ _ c h => h.step c) hshows calls
  -- No stop line is refused, so the accepted calls set those of all calls.
  have hline : ((accepted call t calls).foldl Signals.replay ⟨lights, line⟩).stopLine =
      (calls.filterMap Call.stopLine?).getLast?.getD line := by
    rw [stopLine_foldl_replay,
      filterMap_accepted (f := Call.stopLine?) fun _ _ => stopLine?_of_refused]
  exact ⟨line, rfl, hafter.intact, hline ▸ hafter.stopLine_eq, hafter.lights_eq⟩

/-- Calls that exchange the lights and move the stop line twice, with two that change nothing. -/
def refit : List Call :=
  [.addLight 10, .removeLight 99, .addLight 12, .setStopLine 6, .removeLight 10, .removeLight 11,
    .addLight 10, .setStopLine 7]

/-- The second stop line stays, and a light that was taken out comes back last. -/
theorem intact_after_refit :
    ∃ t, make 1 .empty [10, 11] (some 5) = .ok t ∧ Intact (after call t refit) ∧
      accepted call t refit = refit.drop 1 ∧ (after call t refit).stopLine = .ok 7 ∧
      (after call t refit).lights = [12, 10] := by
  obtain ⟨t, ht⟩ : ∃ t, make 1 .empty [10, 11] (some 5) = .ok t := ⟨_, rfl⟩
  have haccepted : accepted call t refit = refit.drop 1 := by
    cases ht
    decide
  obtain ⟨line, hline, hintact, hstop, hlights⟩ := intact_after (.make ht) refit
  obtain rfl := Option.some.inj hline
  exact ⟨t, ht, hintact, haccepted, hstop, by rw [hlights, haccepted]; rfl⟩

end TrafficLight

end RoadNet
