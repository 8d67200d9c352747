import RoadNet.Proofs.Stores
import RoadNet.Rule.RightOfWay
import RoadNet.Rule.TrafficLight
import RoadNet.Rule.TrafficSign

/-!
# RoadNet.Proofs.Histories

Relations that are edited call by call.

A call is answered and leaves a state; one that is refused leaves the state that it met. What
every call preserves holds after any list of calls (`after_induction`), and a state that some data
describes is described, after any list of calls, by what the accepted ones make of the data
(`after_replays`). Calls may also belong together, so that all of them are done or none
(`allOrNone`).

The calls of a rule are those of its own interface. Edits of the store or of the attributes behind
the rule are not among them.
-/

namespace RoadNet

/-! ## Calls and answers -/

/-- What a call to a relation answers. -/
inductive Answer where
  | done
  | refused (fault : Fault)
  /-- The flag says whether there was something to remove. -/
  | removed (found : Bool)
deriving DecidableEq

/-- Whether the call failed, that is the answer is a `refused`. -/
def Answer.isRefused : Answer → Bool
  | refused _ => true
  | _ => false

/-- The answer to a call, and the state that the call leaves. -/
structure Outcome (σ : Type) where
  answer : Answer
  state : σ
deriving DecidableEq

namespace Outcome

variable {σ : Type}

/-- A call that always succeeds. -/
def ofEdit (s : σ) : Outcome σ := ⟨.done, s⟩

/-- A call that may fail, as `Except` tells, and then leaves the state that it met. -/
def ofAttempt (s : σ) : Except Fault σ → Outcome σ
  | .ok s' => ⟨.done, s'⟩
  | .error fault => ⟨.refused fault, s⟩

/-- A call that removes something if it is there. -/
def ofRemoval (outcome : Bool × σ) : Outcome σ := ⟨.removed outcome.1, outcome.2⟩

variable {s s' : σ} {x : Except Fault σ}

/-- What holds of the state after a success (`hok`) and of the state before a refusal (`hrefused`)
holds of the outcome of `ofAttempt`. -/
theorem of_attempt {r : σ → Bool → Prop} (hok : ∀ s', x = .ok s' → r s' false)
    (hrefused : r s true) : r (ofAttempt s x).state (ofAttempt s x).answer.isRefused := by
  cases x with
  | ok s' => exact hok s' rfl
  | error fault => exact hrefused

/-- A refused attempt changes nothing. -/
theorem state_ofAttempt : (ofAttempt s x).answer.isRefused = true → (ofAttempt s x).state = s :=
  of_attempt (r := fun s' refused => refused = true → s' = s) (fun _ _ => nofun) fun _ => rfl

/-- An addition to a `RoleStore` leaves what it met, or the role with one more reference at its end
(`Replaces`). -/
theorem of_add {p : σ → Prop} {s : RoleStore} {role : String} {r : Reference}
    {wrap : RoleStore → σ} {t : σ} (h : p t)
    (hadd : ∀ s', s.Replaces s' role (s.get role ++ [r]) → p (wrap s')) :
    p (ofAttempt t ((s.add role r).map wrap)).state := by
  refine of_attempt (r := fun t _ => p t) (fun t' ht' => ?_) h
  obtain ⟨s', hs', rfl⟩ := map_eq_ok.1 ht'
  exact hadd s' (RoleStore.replaces_of_add hs')

/-- `add` is refused, with `duplicateReference`, exactly if the role holds the reference already. -/
theorem answer_add {s : RoleStore} {role : String} {r : Reference} {wrap : RoleStore → σ} {t : σ} :
    (ofAttempt t ((s.add role r).map wrap)).answer =
      if r ∈ s.get role then .refused (.duplicateReference s.id role r) else .done := by
  by_cases h : r ∈ s.get role <;> simp [RoleStore.add, RoleStore.contains, h, ofAttempt, Except.map]

end Outcome

section Histories

variable {σ κ : Type} (call : σ → κ → Outcome σ)

/-- The state after a list of calls. -/
def after (s : σ) (calls : List κ) : σ := calls.foldl (fun s c => (call s c).state) s

/-- The calls of a list that are not `refused`, each in the state that it meets. -/
def accepted : σ → List κ → List κ
  | _, [] => []
  | s, c :: rest =>
    if (call s c).answer.isRefused then accepted (call s c).state rest
    else c :: accepted (call s c).state rest

/-- The answers to a list of calls. -/
def answers : σ → List κ → List Answer
  | _, [] => []
  | s, c :: rest => (call s c).answer :: answers (call s c).state rest

/-- A list of calls of which all are done or none: the first that is `refused` undoes those before
it, and its refusal is the answer. -/
def allOrNone (s : σ) (calls : List κ) : Outcome σ :=
  match (answers call s calls).find? Answer.isRefused with
  | some refusal => ⟨refusal, s⟩
  | none => ⟨.done, after call s calls⟩

variable {call}

/-- A property that every `call` preserves (`step`) holds `after` any list of calls. -/
theorem after_induction {p : σ → Prop} (step : ∀ s c, p s → p (call s c).state) {s : σ} (h : p s)
    (calls : List κ) : p (after call s calls) := by
  induction calls generalizing s with
  | nil => exact h
  | cons c rest ih => exact ih (step s c h)

/-- Data that describes a state, and that `replay` keeps up to date call by call, describes the
state `after` any list of calls. -/
theorem after_replays {δ : Type} {r : σ → δ → Prop} {replay : δ → κ → δ}
    (step : ∀ s d c, r s d →
      r (call s c).state (if (call s c).answer.isRefused then d else replay d c))
    {s : σ} {d : δ} (h : r s d) (calls : List κ) :
    r (after call s calls) ((accepted call s calls).foldl replay d) := by
  induction calls generalizing s d with
  | nil => exact h
  | cons c rest ih =>
    have hstep := step s d c h
    rw [accepted]
    split at hstep
    next hrefused => rw [if_pos hrefused]; exact ih hstep
    next hrefused => rw [if_neg hrefused]; exact ih hstep

/-- What `f` reads off calls that are never refused, it reads off the `accepted` calls as well. -/
theorem filterMap_accepted {α : Type} {f : κ → Option α}
    (h : ∀ s c, (call s c).answer.isRefused = true → f c = none) (s : σ) (calls : List κ) :
    (accepted call s calls).filterMap f = calls.filterMap f := by
  induction calls generalizing s with
  | nil => rfl
  | cons c rest ih =>
    rw [accepted]
    split
    next hrefused => rw [List.filterMap_cons_none (h s c hrefused), ih]
    next => rw [List.filterMap_cons, List.filterMap_cons, ih]

/-- The first refusal among the `answers` to a list of attempts is what `foldlM` fails with; where
there is none, both lead to the same state. -/
theorem find?_answers {α : Type} {make : α → κ} {attempt : σ → α → Except Fault σ}
    (h : ∀ s a, call s (make a) = .ofAttempt s (attempt s a)) (s : σ) (l : List α) :
    match l.foldlM attempt s with
    | .ok t => (answers call s (l.map make)).find? Answer.isRefused = none ∧
        after call s (l.map make) = t
    | .error fault =>
        (answers call s (l.map make)).find? Answer.isRefused = some (.refused fault) := by
  induction l generalizing s with
  | nil => exact ⟨rfl, rfl⟩
  | cons a rest ih =>
    rw [List.foldlM_cons, List.map_cons, answers, after, List.foldl_cons, h]
    cases ha : attempt s a with
    | error fault => rfl
    | ok t => exact ih t

/-- `allOrNone` of a call that is accepted and of attempts after it is one attempt: the `foldlM` of
them. -/
theorem allOrNone_attempts {α : Type} {make : α → κ} {attempt : σ → α → Except Fault σ}
    (h : ∀ s a, call s (make a) = .ofAttempt s (attempt s a)) {s : σ} {c : κ}
    (hc : (call s c).answer.isRefused = false) (l : List α) :
    allOrNone call s (c :: l.map make) = .ofAttempt s (l.foldlM attempt (call s c).state) := by
  have hfind := find?_answers h (call s c).state l
  rw [allOrNone, answers, List.find?_cons_of_neg (by simp [hc]), after, List.foldl_cons]
  cases hl : l.foldlM attempt (call s c).state with
  | ok t =>
    rw [hl] at hfind
    rw [hfind.1, ← hfind.2]
    rfl
  | error fault =>
    rw [hl] at hfind
    rw [hfind]
    rfl

end Histories

/-! ## The interfaces of the rules -/

/-- The calls that edit a right of way rule. -/
inductive RightOfWay.Call where
  | addRightOfWay (lanelet : Id)
  | addYield (lanelet : Id)
  | removeRightOfWay (lanelet : Id)
  | removeYield (lanelet : Id)
  | setStopLine (line : Id)
  | removeStopLine
deriving DecidableEq

/-- The answer of a right of way rule to a call, and the rule that the call leaves. -/
def RightOfWay.call (t : RightOfWay) : Call → Outcome RightOfWay
  | .addRightOfWay lanelet => .ofAttempt t (t.addRightOfWay lanelet)
  | .addYield lanelet => .ofAttempt t (t.addYield lanelet)
  | .removeRightOfWay lanelet => .ofRemoval (t.removeRightOfWay lanelet)
  | .removeYield lanelet => .ofRemoval (t.removeYield lanelet)
  | .setStopLine line => .ofEdit (t.setStopLine line)
  | .removeStopLine => .ofEdit t.removeStopLine

/-- The calls that edit a traffic light. -/
inductive TrafficLight.Call where
  | addLight (light : Id)
  | removeLight (light : Id)
  | setStopLine (line : Id)
deriving DecidableEq

/-- The answer of a traffic light to a call, and the rule that the call leaves. -/
def TrafficLight.call (t : TrafficLight) : Call → Outcome TrafficLight
  | .addLight light => .ofAttempt t (t.addLight light)
  | .removeLight light => .ofRemoval (t.removeLight light)
  | .setStopLine line => .ofEdit (t.setStopLine line)

/-- The calls that edit a traffic sign rule or a speed limit. -/
inductive TrafficSign.Call where
  | addSign (sign : Id)
  | removeSign (sign : Id)
  | addCancellingSign (sign : Id)
  | removeCancellingSign (sign : Id)
  | addRefLine (line : Id)
  | removeRefLine (line : Id)
  | addCancelLine (line : Id)
  | removeCancelLine (line : Id)
deriving DecidableEq

/-- The answer of a traffic sign rule to a call, and the rule that the call leaves. -/
def TrafficSign.call (t : TrafficSign) : Call → Outcome TrafficSign
  | .addSign sign => .ofAttempt t (t.addSign sign)
  | .removeSign sign => .ofRemoval (t.removeSign sign)
  | .addCancellingSign sign => .ofAttempt t (t.addCancellingSign sign)
  | .removeCancellingSign sign => .ofRemoval (t.removeCancellingSign sign)
  | .addRefLine line => .ofAttempt t (t.addRefLine line)
  | .removeRefLine line => .ofRemoval (t.removeRefLine line)
  | .addCancelLine line => .ofAttempt t (t.addCancelLine line)
  | .removeCancelLine line => .ofRemoval (t.removeCancelLine line)

end RoadNet
