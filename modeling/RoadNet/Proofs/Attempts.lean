import RoadNet.Policy

/-!
# RoadNet.Proofs.Attempts

Computations that may fail, taken apart. `bind_eq_ok` and its like say when a computation in
several parts succeeds or fails, and `foldlM_induction` carries a property along a list.
`FailsOnly p` says that every failure has a property `p`; it follows the computation part by part.
-/

namespace RoadNet

/-! ## Attempts in sequence -/

section Attempts

variable {ε : Type u} {α β : Type v} {x : Except ε α} {e : ε}

/-- `x >>= next` succeeds exactly if `x` does and `next` does with its result. -/
theorem bind_eq_ok {next : α → Except ε β} {b : β} :
    (x >>= next) = .ok b ↔ ∃ a, x = .ok a ∧ next a = .ok b := by
  cases x with
  | ok a => exact ⟨fun h => ⟨a, rfl, h⟩, fun ⟨_, ha, h⟩ => Except.ok.inj ha ▸ h⟩
  | error e => exact ⟨nofun, fun ⟨_, ha, _⟩ => nomatch ha⟩

theorem bind_of_ok {a : α} (h : x = .ok a) (next : α → Except ε β) : (x >>= next) = next a := by
  rw [h]
  rfl

/-- `x >>= next` fails exactly if `x` does or if `next` does with its result. -/
theorem bind_eq_error {next : α → Except ε β} :
    (x >>= next) = .error e ↔ x = .error e ∨ ∃ a, x = .ok a ∧ next a = .error e := by
  cases x with
  | ok a =>
    refine ⟨fun h => .inr ⟨a, rfl, h⟩, ?_⟩
    rintro (h | ⟨_, ha, h⟩)
    · cases h
    · exact Except.ok.inj ha ▸ h
  | error e' =>
    refine ⟨fun h => .inl (congrArg Except.error (Except.error.inj h)), ?_⟩
    rintro (h | ⟨_, ha, -⟩)
    · exact congrArg Except.error (Except.error.inj h)
    · cases ha

theorem map_eq_ok {f : α → β} {b : β} : x.map f = .ok b ↔ ∃ a, x = .ok a ∧ f a = b := by
  cases x with
  | ok a => exact ⟨fun h => ⟨a, rfl, Except.ok.inj h⟩,
      fun ⟨_, ha, h⟩ => congrArg Except.ok (Except.ok.inj ha ▸ h)⟩
  | error e => exact ⟨nofun, fun ⟨_, ha, _⟩ => nomatch ha⟩

theorem map_eq_error {f : α → β} : x.map f = .error e ↔ x = .error e := by
  cases x with
  | ok a => exact ⟨nofun, nofun⟩
  | error e' => exact ⟨fun h => congrArg Except.error (Except.error.inj h),
      fun h => congrArg Except.error (Except.error.inj h)⟩

theorem toOption_eq_some {a : α} : x.toOption = some a ↔ x = .ok a := by
  cases x with
  | ok b => exact ⟨fun h => congrArg Except.ok (Option.some.inj h),
      fun h => congrArg some (Except.ok.inj h)⟩
  | error e => exact ⟨nofun, nofun⟩

/-- A computation goes on behind `if p then throw e` exactly if `p` is false. -/
theorem throw_if_eq_ok {p : Prop} [Decidable p] {e : ε} {next : Except ε α} {a : α} :
    (do
      if p then throw e
      next : Except ε α) = .ok a ↔ ¬p ∧ next = .ok a := by
  split
  next hp => exact ⟨nofun, fun h => absurd hp h.1⟩
  next hp => exact ⟨fun h => ⟨hp, h⟩, fun h => h.2⟩

/-- A computation goes on behind a `check` exactly if the check succeeds. -/
theorem check_then_eq_ok {α : Type} {check : Except ε Unit} {next : Except ε α} {a : α} :
    (do
      check
      next : Except ε α) = .ok a ↔ check = .ok () ∧ next = .ok a := by
  rw [bind_eq_ok]
  exact ⟨fun ⟨_, hcheck, hnext⟩ => ⟨hcheck, hnext⟩, fun ⟨hcheck, hnext⟩ => ⟨(), hcheck, hnext⟩⟩

/-- A property that every step of a `foldlM` preserves holds of its result. -/
theorem foldlM_induction {next : β → α → Except ε β} {p : β → Prop} {l : List α} {b b' : β}
    (h : l.foldlM next b = .ok b') (hb : p b)
    (step : ∀ a ∈ l, ∀ b b', p b → next b a = .ok b' → p b') : p b' := by
  induction l generalizing b with
  | nil => exact Except.ok.inj h ▸ hb
  | cons a rest ih =>
    rw [List.foldlM_cons] at h
    obtain ⟨c, hc, hrest⟩ := bind_eq_ok.1 h
    exact ih hrest (step a List.mem_cons_self b c hb hc) fun a' ha' =>
      step a' (List.mem_cons_of_mem a ha')

/-- The same with the elements that are done: `r` relates each state of the `foldlM` to them. -/
theorem foldlM_induction_append {next : β → α → Except ε β} {r : β → List α → Prop}
    {l done : List α} {b b' : β} (h : l.foldlM next b = .ok b') (hb : r b done)
    (step : ∀ b b' done a, r b done → next b a = .ok b' → r b' (done ++ [a])) :
    r b' (done ++ l) := by
  induction l generalizing b done with
  | nil =>
    obtain rfl := Except.ok.inj h
    rwa [List.append_nil]
  | cons a rest ih =>
    rw [List.foldlM_cons] at h
    obtain ⟨c, hc, hrest⟩ := bind_eq_ok.1 h
    rw [List.append_cons]
    exact ih hrest (step b c done a hb hc)

/-- Every result of a `mapM` comes from an element of the list. -/
theorem exists_of_mem_mapM {next : α → Except ε β} {l : List α} {bs : List β}
    (h : l.mapM next = .ok bs) {b : β} (hb : b ∈ bs) : ∃ a ∈ l, next a = .ok b := by
  induction l generalizing bs with
  | nil =>
    obtain rfl := Except.ok.inj h
    cases hb
  | cons a rest ih =>
    rw [List.mapM_cons] at h
    obtain ⟨c, hc, h⟩ := bind_eq_ok.1 h
    obtain ⟨cs, hcs, h⟩ := bind_eq_ok.1 h
    obtain rfl := Except.ok.inj h
    rcases List.mem_cons.1 hb with rfl | hb
    · exact ⟨a, List.mem_cons_self, hc⟩
    · obtain ⟨a', ha', heq⟩ := ih hcs hb
      exact ⟨a', List.mem_cons_of_mem a ha', heq⟩

/-- Where `read` undoes `write`, its `mapM` undoes the `map` of `write`. -/
theorem mapM_map_eq_ok {read : β → Except ε α} {write : α → β} (h : ∀ a, read (write a) = .ok a)
    (l : List α) : (l.map write).mapM read = .ok l := by
  induction l with
  | nil => rfl
  | cons a l ih =>
    rw [List.map_cons, List.mapM_cons, h, ih]
    rfl

end Attempts

/-! ## Why attempts fail -/

/-- Every failure of the attempt `x` has the property `p`. -/
def FailsOnly (p : ε → Prop) (x : Except ε α) : Prop := ∀ e, x = .error e → p e

namespace FailsOnly

variable {ε : Type u} {α β : Type v} {p : ε → Prop}

theorem ok (a : α) : FailsOnly p (.ok a) := nofun

theorem error {e : ε} (h : p e) : FailsOnly p (.error e : Except ε α) :=
  fun _ h' => Except.error.inj h' ▸ h

/-- `FailsOnly` carries over to `>>=` from both of its parts. -/
theorem bind {x : Except ε α} {next : α → Except ε β} (h : FailsOnly p x)
    (k : ∀ a, FailsOnly p (next a)) : FailsOnly p (x >>= next) := by
  intro e he
  rcases bind_eq_error.1 he with hx | ⟨a, -, hnext⟩
  · exact h e hx
  · exact k a e hnext

theorem map {x : Except ε α} (h : FailsOnly p x) (f : α → β) : FailsOnly p (x.map f) :=
  fun e he => h e (map_eq_error.1 he)

/-- A check in front of a computation only adds the failure `e`. -/
theorem throw_if {c : Prop} [Decidable c] {e : ε} {next : Except ε α} (h : p e)
    (hnext : FailsOnly p next) :
    FailsOnly p (do
      if c then throw e
      next : Except ε α) := by
  split
  · exact error h
  · exact hnext

theorem forM {check : α → Except ε PUnit} (h : ∀ a, FailsOnly p (check a)) (l : List α) :
    FailsOnly p (l.forM check) := by
  induction l with
  | nil => exact ok _
  | cons a rest ih => exact (h a).bind fun _ => ih

/-- `FailsOnly` carries over from one attempt to a `mapM` of them. -/
theorem mapM {next : α → Except ε β} (h : ∀ a, FailsOnly p (next a)) (l : List α) :
    FailsOnly p (l.mapM next) := by
  induction l with
  | nil => exact ok []
  | cons a rest ih =>
    rw [List.mapM_cons]
    exact (h a).bind fun b => ih.bind fun bs => ok (b :: bs)

theorem foldlM {next : β → α → Except ε β} (h : ∀ b a, FailsOnly p (next b a)) (l : List α)
    (b : β) : FailsOnly p (l.foldlM next b) := by
  induction l generalizing b with
  | nil => exact ok b
  | cons a rest ih =>
    rw [List.foldlM_cons]
    exact (h b a).bind ih

end FailsOnly

/-- An attempt at a single record: its failures are of record level (`isRecordLevel`), so that a
robust run skips them. -/
abbrev Skippable (x : Except Failure α) : Prop := FailsOnly (fun f => f.isRecordLevel = true) x

end RoadNet
