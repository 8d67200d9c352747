import RoadNet.Proofs.Attempts
import RoadNet.Rule.TrafficSign

/-!
# RoadNet.Proofs.SignGroups

Which type the signs of a group have.

* `SignGroup.tags` — the types that the signs are tagged with; untagged signs do not count;
* `SignGroup.Agrees` — no two tagged signs differ, unless the type is given anyway;
* `SignGroup.resolve_cases` — resolving a group finds its type if the group agrees, and else names
  two types that differ;
* `SignGroup.Reordered` — neither agreement nor type depends on the order of the signs.
-/

namespace RoadNet

namespace SignGroup

variable {g g' : SignGroup}

/-! ## Agreement -/

/-- The types that the signs of the group are tagged with (`signTypeOf?`), in order. -/
def tags (g : SignGroup) : List String := g.signs.filterMap signTypeOf?

/-- All elements of a list are the same. -/
def Uniform (l : List String) : Prop := ∀ a ∈ l, ∀ b ∈ l, a = b

/-- The type of the group is given, or the types of its tagged signs are `Uniform`. -/
def Agrees (g : SignGroup) : Prop := g.signType = none → Uniform g.tags

instance (l : List String) : Decidable (Uniform l) :=
  inferInstanceAs (Decidable (∀ a ∈ l, ∀ b ∈ l, a = b))

instance (g : SignGroup) : Decidable g.Agrees :=
  inferInstanceAs (Decidable (g.signType = none → Uniform g.tags))

/-- The type of the group: the given one, `signType`, or that of the first tagged sign. -/
def type? (g : SignGroup) : Option String := g.signType.or g.tags.head?

/-- A group has no type exactly if none is given and no sign is tagged. -/
theorem type?_eq_none : g.type? = none ↔ g.signType = none ∧ g.tags = [] := by
  simp [type?]

theorem type?_ne_none : g.type? ≠ none ↔ g.signType ≠ none ∨ g.tags ≠ [] := by
  rw [ne_eq, type?_eq_none, Classical.not_and_iff_not_or_not]

/-- A group disagrees only if no type is given. -/
theorem signType_eq_none_of_not_agrees (h : ¬g.Agrees) : g.signType = none :=
  (Classical.not_imp.1 h).1

/-- The type of a group that `Agrees` is that of every tagged sign, unless it is given. -/
theorem Agrees.type?_of_mem (h : g.Agrees) (hnone : g.signType = none) {type : String}
    (hmem : type ∈ g.tags) : g.type? = some type := by
  have hhead : g.tags.head? = some (g.tags.head (List.ne_nil_of_mem hmem)) :=
    List.head?_eq_some_head _
  rw [type?, hnone, Option.none_or, hhead, h hnone _ (List.head_mem _) type hmem]

/-- The type is the given one, `signType`, or else that of all the tagged signs, of which there are
some. -/
def Shows (g : SignGroup) (type : String) : Prop :=
  g.signType = some type ∨ g.signType = none ∧ g.tags ≠ [] ∧ ∀ tag ∈ g.tags, tag = type

/-- The type of a group that `Agrees` is one that it `Shows`. -/
theorem Agrees.shows (h : g.Agrees) {type : String} (htype : g.type? = some type) :
    g.Shows type := by
  cases hgiven : g.signType with
  | some given =>
    rw [type?, hgiven, Option.some_or] at htype
    exact .inl (hgiven.trans htype)
  | none =>
    have hhead : g.tags.head? = some type := by rwa [type?, hgiven, Option.none_or] at htype
    have hmem : type ∈ g.tags := List.mem_of_head? hhead
    exact .inr ⟨hgiven, List.ne_nil_of_mem hmem, fun tag htag => h hgiven tag htag type hmem⟩

/-- Elements that are equal count once. -/
theorem uniform_cons_cons {a : String} {l : List String} :
    Uniform (a :: a :: l) ↔ Uniform (a :: l) := by
  simp [Uniform]

/-! ## Resolving -/

/-- `sharedType` along a list of signs: their types are all the same, and then the same as the one
`found` before, or two of them are named that differ. -/
theorem sharedType_cases (rule : String) (id : Id) (found : Option String)
    (signs : List LineString) :
    let types := found.toList ++ signs.filterMap signTypeOf?
    (Uniform types ∧ sharedType rule id found signs = .ok types.head?) ∨
      ∃ a ∈ types, ∃ b ∈ types, a ≠ b ∧ sharedType rule id found signs =
        .error (.invalidRelation rule id (.signsDisagree a b)) := by
  induction signs generalizing found with
  | nil => cases found <;> simp [sharedType, Uniform]
  | cons sign rest ih =>
    cases hsign : signTypeOf? sign with
    | none => simpa [sharedType, hsign] using ih found
    | some type =>
      cases found with
      | none => simpa [sharedType, hsign] using ih (some type)
      | some previous =>
        by_cases heq : previous = type
        · subst heq
          simpa [sharedType, hsign, uniform_cons_cons] using ih (some previous)
        · refine .inr ⟨previous, by simp, type, by simp [hsign], heq, ?_⟩
          simp [sharedType, hsign, heq]

/-- `resolve` gives the type of a group that `Agrees`, and else refuses it as `signsDisagree`. -/
theorem resolve_cases (g : SignGroup) (rule : String) (id : Id) :
    (g.Agrees ∧ g.resolve rule id = .ok g.type?) ∨
      (¬g.Agrees ∧ ∃ a ∈ g.tags, ∃ b ∈ g.tags, a ≠ b ∧
        g.resolve rule id = .error (.invalidRelation rule id (.signsDisagree a b))) := by
  unfold resolve Agrees type?
  cases hgiven : g.signType with
  | some type => exact .inl ⟨nofun, rfl⟩
  | none =>
    rcases sharedType_cases rule id none g.signs with ⟨huniform, hok⟩ | ⟨a, ha, b, hb, hne, herror⟩
    · exact .inl ⟨fun _ => huniform, hok⟩
    · exact .inr ⟨fun h => hne (h rfl a ha b hb), a, ha, b, hb, hne, herror⟩

/-! ## Order -/

/-- The same group with its signs in another order. -/
structure Reordered (g g' : SignGroup) : Prop where
  signs : g.signs.Perm g'.signs
  signType : g.signType = g'.signType

theorem Reordered.symm (h : g.Reordered g') : g'.Reordered g := ⟨h.signs.symm, h.signType.symm⟩

theorem Reordered.tags (h : g.Reordered g') : g.tags.Perm g'.tags := h.signs.filterMap _

/-- Whether a group `Agrees` does not depend on the order of its signs. -/
theorem Reordered.agrees_iff (h : g.Reordered g') : g.Agrees ↔ g'.Agrees := by
  simp only [Agrees, Uniform, h.signType, h.tags.mem_iff]

/-- The first tagged sign of a `Reordered` group may be another one, with the same type. -/
theorem Reordered.type?_eq (h : g.Reordered g') (agrees : g.Agrees) : g.type? = g'.type? := by
  cases hgiven : g.signType with
  | some type => rw [type?, type?, ← h.signType, hgiven, Option.some_or, Option.some_or]
  | none =>
    cases htype : g'.type? with
    | none =>
      obtain ⟨-, htags⟩ := type?_eq_none.1 htype
      exact type?_eq_none.2 ⟨hgiven, (htags ▸ h.tags).eq_nil⟩
    | some type =>
      have hhead : g'.tags.head? = some type := by
        rwa [type?, ← h.signType, hgiven, Option.none_or] at htype
      exact agrees.type?_of_mem hgiven (h.tags.mem_iff.2 (List.mem_of_head? hhead))

end SignGroup

end RoadNet
