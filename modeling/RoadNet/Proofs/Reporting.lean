import RoadNet.Proofs.Attempts

/-!
# RoadNet.Proofs.Reporting

What a run reports, told apart from how the policy takes it. Nothing in this library branches
on the policy itself: a run under either policy comes across the same failures of single
records in the same order and then has the same result.

* `Settles run failures result` — the failures that `run` comes across and the result it has
  once they are all noted. The laws below follow the run: `Settles.bind` puts the failures of
  the second part after those of the first, `settles_reportAll` and `settles_keepGood` are the
  two places where failures of records come up;
* `TwoViews run` — what a caller sees of this: the strict run ends with the first failure that
  the robust run notes, and where the robust run notes none they end alike.
-/

namespace RoadNet

/-- How a strict run ends that comes across `failures` of records and else has a `result`. -/
def firstFailure (failures : List Failure) (result : Except Failure α) : Except Failure α :=
  match failures with
  | [] => result
  | f :: _ => .error f

/-- A run under either policy comes across `failures`, all of single records, and has `result`
when they are noted. -/
structure Settles (run : Policy → Run α) (failures : List Failure)
    (result : Except Failure α) : Prop where
  robust : ∀ messages,
    run .robust messages = (result, messages ++ failures.map Failure.message)
  strict : ∀ messages, run .strict messages = (firstFailure failures result, messages)
  recordLevel : ∀ f ∈ failures, f.isRecordLevel = true
  notRecordLevel : ∀ f, result = .error f → f.isRecordLevel = false

/-! ## Runs without failures of records -/

/-- The run that does nothing else than give a value settles without failures. -/
theorem settles_pure (a : α) : Settles (fun _ => pure a) [] (.ok a) where
  robust messages := by rw [List.map_nil, List.append_nil]; rfl
  strict _ := rfl
  recordLevel _ h := absurd h List.not_mem_nil
  notRecordLevel _ h := nomatch h

/-- A computation that is the same for both policies, and whose failures are never of record level,
settles as it ends. -/
theorem settles_lift {e : Except Failure α}
    (h : FailsOnly (fun f => f.isRecordLevel = false) e) :
    Settles (fun _ => (liftM e : Run α)) [] e where
  robust messages := by rw [List.map_nil, List.append_nil]; rfl
  strict _ := rfl
  recordLevel _ h := absurd h List.not_mem_nil
  notRecordLevel := h

/-- A failure of the whole operation settles as itself. -/
theorem settles_throw {f : Failure} (h : f.isRecordLevel = false) :
    Settles (fun _ => (throw f : Run α)) [] (.error f) where
  robust messages := by rw [List.map_nil, List.append_nil]; rfl
  strict _ := rfl
  recordLevel _ h := absurd h List.not_mem_nil
  notRecordLevel f' h' := by
    obtain rfl : f = f' := Except.error.inj h'
    exact h

/-! ## Runs one after the other -/

/-- The second part of a `Run` starts from the messages that the first has left. -/
theorem run_bind (run : Run α) (next : α → Run β) (messages : List String) :
    (run >>= next) messages =
      match run messages with
      | (.ok a, later) => next a later
      | (.error f, later) => (.error f, later) := by
  simp only [Bind.bind, ExceptT.bind, ExceptT.mk, StateT.bind]
  rcases run messages with ⟨_ | a, later⟩ <;> rfl

/-- A run that gives a value, as its continuation `next` sees it. -/
theorem run_bind_ok {run : Run α} {next : α → Run β} {messages later : List String} {a : α}
    (h : run messages = (.ok a, later)) : (run >>= next) messages = next a later := by
  rw [run_bind, h]

/-- A run that fails leaves nothing to its continuation `next`. -/
theorem run_bind_error {run : Run α} {next : α → Run β} {messages later : List String}
    {f : Failure} (h : run messages = (.error f, later)) :
    (run >>= next) messages = (.error f, later) := by
  rw [run_bind, h]

/-- Both parts of a run that gives a value give one. -/
theorem exists_of_run_bind {run : Run α} {next : α → Run β} {messages : List String} {b : β}
    (h : ((run >>= next) messages).1 = .ok b) :
    ∃ a later, run messages = (.ok a, later) ∧ (next a later).1 = .ok b := by
  rw [run_bind] at h
  rcases hrun : run messages with ⟨a | a, later⟩
  · rw [hrun] at h
    cases h
  · rw [hrun] at h
    exact ⟨a, later, rfl, h⟩

namespace Settles

variable {run : Policy → Run α} {next : Policy → α → Run β}
variable {failures later : List Failure}

/-- Two runs that settle do so one after the other; the failures of the second part come after those
of the first. -/
theorem bind {a : α} {result : Except Failure β} (h : Settles run failures (.ok a))
    (k : Settles (fun policy => next policy a) later result) :
    Settles (fun policy => run policy >>= next policy) (failures ++ later) result where
  robust messages := by
    rw [run_bind_ok (h.robust messages), k.robust, List.map_append, List.append_assoc]
  strict messages := by
    have hs := h.strict messages
    cases failures with
    | nil =>
      rw [run_bind_ok hs, k.strict]
      rfl
    | cons f rest => exact run_bind_error hs
  recordLevel f hf := by
    rcases List.mem_append.1 hf with hf | hf
    · exact h.recordLevel f hf
    · exact k.recordLevel f hf
  notRecordLevel := k.notRecordLevel

/-- Where the first part of a run fails, the second is not reached. -/
theorem bind_error {f : Failure} (h : Settles run failures (.error f)) :
    Settles (fun policy => run policy >>= next policy) failures (.error f : Except Failure β) where
  robust messages := run_bind_error (h.robust messages)
  strict messages := by
    have hs := h.strict messages
    cases failures with
    | nil => exact run_bind_error hs
    | cons f' rest => exact run_bind_error hs
  recordLevel := h.recordLevel
  notRecordLevel f' h' := by
    obtain rfl : f = f' := Except.error.inj h'
    exact h.notRecordLevel f rfl

/-- A run whose second part only gives the value another `shape`. -/
theorem map {a : α} (h : Settles run failures (.ok a)) (shape : α → β) :
    Settles (fun policy => run policy >>= fun a => pure (shape a)) failures (.ok (shape a)) := by
  have hm : Settles (fun policy => run policy >>= fun a => pure (shape a)) (failures ++ [])
      (.ok (shape a)) := h.bind (settles_pure (shape a))
  rwa [List.append_nil] at hm

/-- A run under either policy that gives a value gives the result with which it `Settles`. -/
theorem eq_of_ok {result : Except Failure α} (h : Settles run failures result) {policy : Policy}
    {messages : List String} {a : α} (ha : (run policy messages).1 = .ok a) : result = .ok a := by
  cases policy with
  | robust => rwa [h.robust] at ha
  | strict =>
    rw [h.strict] at ha
    cases failures with
    | nil => exact ha
    | cons f rest => cases ha

/-- A strict run that gives a value came across none of the failures with which it `Settles`. -/
theorem eq_nil_of_strict {result : Except Failure α} (h : Settles run failures result)
    {messages : List String} {a : α} (ha : (run .strict messages).1 = .ok a) :
    failures = [] := by
  rw [h.strict] at ha
  cases failures with
  | nil => rfl
  | cons f rest => cases ha

end Settles

/-! ## Where failures of records come up -/

/-- `report` of one failure of a record comes across that failure. -/
theorem settles_report {f : Failure} (h : f.isRecordLevel = true) :
    Settles (fun policy => policy.report f) [f] (.ok ()) where
  robust messages := by
    simp only [Policy.report, if_pos h]
    rfl
  strict _ := rfl
  recordLevel f' h' := by rwa [List.mem_singleton.1 h']
  notRecordLevel _ h := nomatch h

/-- `reportAll` comes across its failures, one after the other. -/
theorem settles_reportAll {failures : List Failure}
    (h : ∀ f ∈ failures, f.isRecordLevel = true) :
    Settles (fun policy => policy.reportAll failures) failures (.ok ()) := by
  induction failures with
  | nil => exact settles_pure ()
  | cons f rest ih =>
    have hf := settles_report (h f List.mem_cons_self)
    have hrest := ih fun f' hf' => h f' (List.mem_cons_of_mem f hf')
    have hboth : Settles (fun policy => policy.report f >>= fun _ => policy.reportAll rest)
        ([f] ++ rest) (.ok ()) := hf.bind hrest
    exact hboth

/-- The failures among attempts. -/
def failuresOf : List (Except Failure α) → List Failure :=
  List.filterMap fun attempt =>
    match attempt with
    | .ok _ => none
    | .error f => some f

/-- The results of the attempts that succeed. -/
def goodOf : List (Except Failure α) → List α := List.filterMap Except.toOption

theorem failuresOf_append (xs ys : List (Except Failure α)) :
    failuresOf (xs ++ ys) = failuresOf xs ++ failuresOf ys := List.filterMap_append

theorem goodOf_append (xs ys : List (Except Failure α)) :
    goodOf (xs ++ ys) = goodOf xs ++ goodOf ys := List.filterMap_append

theorem mem_goodOf {attempts : List (Except Failure α)} {a : α} :
    a ∈ goodOf attempts ↔ .ok a ∈ attempts := by
  simp only [goodOf, List.mem_filterMap, toOption_eq_some, exists_eq_right]

theorem mem_failuresOf {attempts : List (Except Failure α)} {f : Failure} :
    f ∈ failuresOf attempts ↔ .error f ∈ attempts := by
  rw [failuresOf, List.mem_filterMap]
  constructor
  · rintro ⟨attempt, hmem, heq⟩
    cases attempt with
    | ok b => cases heq
    | error f' => exact Option.some.inj heq ▸ hmem
  · exact fun h => ⟨.error f, h, rfl⟩

/-- The results of attempts that all succeed. -/
theorem goodOf_map_ok {attempt : α → Except Failure β} {record : α → β} {l : List α}
    (h : ∀ a ∈ l, attempt a = .ok (record a)) : goodOf (l.map attempt) = l.map record := by
  rw [List.map_congr_left h]
  induction l with
  | nil => rfl
  | cons a rest ih => exact congrArg _ (ih fun b hb => h b (List.mem_cons_of_mem a hb))

/-- Attempts that all succeed have no failures. -/
theorem failuresOf_map_ok {attempt : α → Except Failure β} {record : α → β} {l : List α}
    (h : ∀ a ∈ l, attempt a = .ok (record a)) : failuresOf (l.map attempt) = [] := by
  rw [List.eq_nil_iff_forall_not_mem]
  intro f hf
  obtain ⟨a, ha, hattempt⟩ := List.mem_map.1 (mem_failuresOf.1 hf)
  rw [h a ha] at hattempt
  cases hattempt

/-- Attempts of which none fails are their results. -/
theorem map_ok_goodOf {attempts : List (Except Failure α)}
    (h : failuresOf attempts = []) : (goodOf attempts).map Except.ok = attempts := by
  induction attempts with
  | nil => rfl
  | cons attempt rest ih =>
    cases attempt with
    | ok a => exact congrArg (.ok a :: ·) (ih h)
    | error f => cases h

/-- `keepGood` comes across the failures among the attempts and keeps the good results. -/
theorem settles_keepGood {attempts : List (Except Failure α)}
    (h : ∀ f, .error f ∈ attempts → f.isRecordLevel = true) :
    Settles (fun policy => policy.keepGood attempts) (failuresOf attempts)
      (.ok (goodOf attempts)) := by
  induction attempts with
  | nil => exact settles_pure []
  | cons attempt rest ih =>
    have hrest := ih fun f hf => h f (List.mem_cons_of_mem attempt hf)
    cases attempt with
    | ok a => exact hrest.map (a :: ·)
    | error f =>
      have hf := settles_report (h f List.mem_cons_self)
      have hboth : Settles (fun policy => policy.report f >>= fun _ => policy.keepGood rest)
          ([f] ++ failuresOf rest) (.ok (goodOf rest)) := hf.bind hrest
      exact hboth

/-- The same for records that are read one by one, each perhaps in vain (`Skippable`). -/
theorem settles_keepGood_map {read : α → Except Failure β} (h : ∀ a, Skippable (read a))
    (l : List α) :
    Settles (fun policy => policy.keepGood (l.map read)) (failuresOf (l.map read))
      (.ok (goodOf (l.map read))) := by
  refine settles_keepGood fun f hf => ?_
  obtain ⟨a, -, ha⟩ := List.mem_map.1 hf
  exact h a f ha

/-! ## Runs of which only the shape matters -/

/-- Whether both policies see the same failures and the same result of a run: it `Settles` with
some. -/
def Settled (run : Policy → Run α) : Prop :=
  ∃ failures result, Settles run failures result

theorem Settles.settled {run : Policy → Run α} {failures : List Failure}
    {result : Except Failure α} (h : Settles run failures result) : Settled run :=
  ⟨failures, result, h⟩

theorem settled_pure (a : α) : Settled fun _ => pure a := (settles_pure a).settled

/-- Two `Settled` runs are so one after the other. -/
theorem Settled.bind {run : Policy → Run α} {next : Policy → α → Run β} (h : Settled run)
    (k : ∀ a, Settled fun policy => next policy a) :
    Settled fun policy => run policy >>= next policy := by
  obtain ⟨failures, result, hr⟩ := h
  cases result with
  | error f => exact ⟨failures, .error f, hr.bind_error⟩
  | ok a =>
    obtain ⟨later, result', hk⟩ := k a
    exact ⟨failures ++ later, result', hr.bind hk⟩

/-- A run that begins with a computation whose failures are never of record level is `Settled` if
what follows is. -/
theorem settled_lift_bind {e : Except Failure α} {next : Policy → α → Run β}
    (hfail : FailsOnly (fun f => f.isRecordLevel = false) e)
    (h : ∀ a, e = .ok a → Settled fun policy => next policy a) :
    Settled fun policy => (liftM e : Run α) >>= fun a => next policy a := by
  cases e with
  | error f => exact (settles_lift hfail).bind_error.settled
  | ok a =>
    obtain ⟨later, result, hnext⟩ := h a rfl
    exact ((settles_lift hfail).bind hnext).settled

/-! ## What a caller sees -/

/-- Strict and robust runs of one computation, each started with nothing noted. -/
structure TwoViews (run : Policy → Run α) : Prop where
  /-- A robust run never ends with the failure of a single record. -/
  notRecordLevel : ∀ messages f, (run .robust messages).1 = .error f → f.isRecordLevel = false
  /-- Where the robust run notes nothing, the strict run ends alike. -/
  alike : ∀ result, run .robust [] = (result, []) → run .strict [] = (result, [])
  /-- Else the strict run ends with the failure of a record, the first that is noted. -/
  first : ∀ result text texts, run .robust [] = (result, text :: texts) →
    ∃ f, f.isRecordLevel = true ∧ f.message = text ∧ run .strict [] = (.error f, [])

/-- The strict and the robust run of a computation that `Settles` are two views of it. -/
theorem Settles.twoViews {run : Policy → Run α} {failures : List Failure}
    {result : Except Failure α} (h : Settles run failures result) : TwoViews run where
  notRecordLevel messages f hf := by
    rw [h.robust] at hf
    exact h.notRecordLevel f hf
  alike result' hr := by
    rw [h.robust, List.nil_append, Prod.mk.injEq] at hr
    rw [h.strict, List.map_eq_nil_iff.1 hr.2, ← hr.1]
    rfl
  first result' text texts hr := by
    rw [h.robust, List.nil_append, Prod.mk.injEq] at hr
    obtain ⟨f, rest, rfl, rfl, -⟩ := List.map_eq_cons_iff.1 hr.2
    exact ⟨f, h.recordLevel f List.mem_cons_self, rfl, h.strict []⟩

/-- The strict one of two views gives a value exactly if the robust one does and notes nothing. -/
theorem TwoViews.strict_ok_iff {run : Policy → Run α} (h : TwoViews run) {a : α} :
    (run .strict []).1 = .ok a ↔ run .robust [] = (.ok a, []) := by
  rcases hr : run .robust [] with ⟨result, _ | ⟨text, texts⟩⟩
  · rw [h.alike result hr, Prod.mk.injEq]
    exact (and_iff_left rfl).symm
  · obtain ⟨f, -, -, hs⟩ := h.first result text texts hr
    rw [hs]
    exact iff_of_false nofun nofun

/-- A `Settled` run gives two views of one computation. -/
theorem Settled.twoViews {run : Policy → Run α} (h : Settled run) : TwoViews run := by
  obtain ⟨failures, result, hr⟩ := h
  exact hr.twoViews

end RoadNet
