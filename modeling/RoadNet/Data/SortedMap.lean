/-!
# RoadNet.Data.SortedMap

Finite maps kept as a list of entries in strictly increasing key order. Two maps with the
same look-ups therefore hold the same entries, and iterating a map lists it in key order.

Attributes, roles, map layers and options are all maps of this kind. The main statements
are the look-up equations `find?_insert` and `find?_erase`.
-/

namespace RoadNet

variable {κ α β : Type}

/-- A finite map from `κ` to `α`, its entries in strictly increasing key order. -/
structure SortedMap (κ α : Type) [Ord κ] where
  /-- The entries, in key order. -/
  entries : List (κ × α)
  /-- Every key is below all keys that follow it. -/
  sorted : entries.Pairwise fun a b => compare a.1 b.1 = .lt

namespace SortedMap

/-! ## Operations on entry lists -/

/-- Put a binding into an ordered entry list, replacing one with the same key. -/
def putEntry [Ord κ] (k : κ) (v : α) : List (κ × α) → List (κ × α)
  | [] => [(k, v)]
  | (k', v') :: rest =>
    match compare k k' with
    | .lt => (k, v) :: (k', v') :: rest
    | .eq => (k, v) :: rest
    | .gt => (k', v') :: putEntry k v rest

/-- The value bound to a key in an entry list. -/
def findEntry [Ord κ] (k : κ) : List (κ × α) → Option α
  | [] => none
  | (k', v) :: rest => if compare k k' = .eq then some v else findEntry k rest

/-- `putEntry` adds no other entry than the one it is given. -/
theorem mem_putEntry [Ord κ] {k : κ} {v : α} {p : κ × α} {l : List (κ × α)}
    (h : p ∈ putEntry k v l) : p = (k, v) ∨ p ∈ l := by
  induction l with
  | nil => simp_all [putEntry]
  | cons q rest ih =>
    obtain ⟨k', v'⟩ := q
    simp only [putEntry] at h
    split at h <;> simp_all
    · rcases h with h | h
      · exact .inl h
      · exact .inr (.inr h)
    · rcases h with h | h
      · exact .inr (.inl h)
      · rcases ih h with h | h
        · exact .inl h
        · exact .inr (.inr h)

/-- `putEntry` keeps entries in strictly increasing key order. -/
theorem pairwise_putEntry [Ord κ] [Std.TransOrd κ] [Std.LawfulEqOrd κ] (k : κ) (v : α)
    {l : List (κ × α)} (h : l.Pairwise fun a b => compare a.1 b.1 = .lt) :
    (putEntry k v l).Pairwise fun a b => compare a.1 b.1 = .lt := by
  induction l with
  | nil => simp [putEntry]
  | cons q rest ih =>
    obtain ⟨k', v'⟩ := q
    have hrest := List.pairwise_cons.1 h
    simp only [putEntry]
    split
    next hlt =>
      refine List.pairwise_cons.2 ⟨fun p hp => ?_, h⟩
      rcases List.mem_cons.1 hp with rfl | hp
      · exact hlt
      · exact Std.TransCmp.lt_trans hlt (hrest.1 p hp)
    next heq =>
      cases Std.LawfulEqCmp.eq_of_compare heq
      exact List.pairwise_cons.2 ⟨hrest.1, hrest.2⟩
    next hgt =>
      refine List.pairwise_cons.2 ⟨fun p hp => ?_, ih hrest.2⟩
      rcases mem_putEntry hp with rfl | hp
      · exact Std.OrientedCmp.gt_iff_lt.1 hgt
      · exact hrest.1 p hp

/-! ## The map -/

variable [Ord κ]

/-- The map without entries. -/
def empty : SortedMap κ α := ⟨[], .nil⟩

instance : Inhabited (SortedMap κ α) := ⟨empty⟩

instance : EmptyCollection (SortedMap κ α) := ⟨empty⟩

/-- The value bound to a key. -/
def find? (m : SortedMap κ α) (k : κ) : Option α := findEntry k m.entries

/-- Whether a key is bound. -/
def contains (m : SortedMap κ α) (k : κ) : Bool := (m.find? k).isSome

/-- Bind a key, replacing an earlier binding. -/
def insert [Std.TransOrd κ] [Std.LawfulEqOrd κ] (m : SortedMap κ α) (k : κ) (v : α) :
    SortedMap κ α :=
  ⟨putEntry k v m.entries, pairwise_putEntry k v m.sorted⟩

/-- Unbind a key. -/
def erase (m : SortedMap κ α) (k : κ) : SortedMap κ α :=
  ⟨m.entries.filter fun p => compare k p.1 ≠ .eq, m.sorted.filter _⟩

/-- The keys, in order. -/
def keys (m : SortedMap κ α) : List κ := m.entries.map (·.1)

/-- The values, in key order. -/
def values (m : SortedMap κ α) : List α := m.entries.map (·.2)

/-- The number of bindings. -/
def size (m : SortedMap κ α) : Nat := m.entries.length

/-- Whether no key is bound. -/
def isEmpty (m : SortedMap κ α) : Bool := m.entries.isEmpty

/-- Bind the pairs of a list in order; of two pairs with one key the later wins. -/
def ofList [Std.TransOrd κ] [Std.LawfulEqOrd κ] (l : List (κ × α)) : SortedMap κ α :=
  l.foldl (fun m p => m.insert p.1 p.2) empty

instance [DecidableEq κ] [DecidableEq α] : DecidableEq (SortedMap κ α) := fun a b =>
  if h : a.entries = b.entries then
    isTrue (by cases a; cases b; cases h; rfl)
  else
    isFalse fun e => h (congrArg entries e)

theorem ext_entries {a b : SortedMap κ α} (h : a.entries = b.entries) : a = b := by
  cases a; cases b; cases h; rfl

/-! ## Look-up equations -/

@[simp] theorem find?_empty (k : κ) : (empty : SortedMap κ α).find? k = none := rfl

theorem findEntry_putEntry [Std.TransOrd κ] [Std.LawfulEqOrd κ] [DecidableEq κ] (k j : κ) (v : α)
    (l : List (κ × α)) :
    findEntry j (putEntry k v l) = if j = k then some v else findEntry j l := by
  induction l with
  | nil => by_cases h : j = k <;> simp [putEntry, findEntry, h]
  | cons q rest ih =>
    obtain ⟨k', v'⟩ := q
    simp only [putEntry]
    split
    next hlt =>
      by_cases h : j = k <;> simp [findEntry, h]
    next heq =>
      cases Std.LawfulEqCmp.eq_of_compare heq
      by_cases h : j = k <;> simp [findEntry, h]
    next hgt =>
      by_cases hk : j = k'
      · subst hk
        have : j ≠ k := fun h => by subst h; simp at hgt
        simp [findEntry, this]
      · simp [findEntry, hk, ih]

/-- A look-up after `insert` finds the new value under its key, and else what was there. -/
@[simp] theorem find?_insert [Std.TransOrd κ] [Std.LawfulEqOrd κ] [DecidableEq κ]
    (m : SortedMap κ α) (k j : κ) (v : α) :
    (m.insert k v).find? j = if j = k then some v else m.find? j :=
  findEntry_putEntry k j v m.entries

theorem findEntry_filter [Std.TransOrd κ] [Std.LawfulEqOrd κ] [DecidableEq κ] (k j : κ)
    (l : List (κ × α)) :
    findEntry j (l.filter fun p => compare k p.1 ≠ .eq) =
      if j = k then none else findEntry j l := by
  induction l with
  | nil => simp [findEntry]
  | cons q rest ih =>
    obtain ⟨k', v'⟩ := q
    by_cases hk : compare k k' = .eq
    · rw [List.filter_cons_of_neg (by simpa using hk), ih]
      cases Std.LawfulEqCmp.eq_of_compare hk
      by_cases h : j = k <;> simp [findEntry, h]
    · rw [List.filter_cons_of_pos (by simpa using hk), findEntry, findEntry, ih]
      by_cases hj : compare j k' = .eq
      · cases Std.LawfulEqCmp.eq_of_compare hj
        have : j ≠ k := fun h => hk (by simp [h])
        simp [this]
      · simp [hj]

/-- A look-up after `erase` finds nothing under the key, and else what was there. -/
@[simp] theorem find?_erase [Std.TransOrd κ] [Std.LawfulEqOrd κ] [DecidableEq κ]
    (m : SortedMap κ α) (k j : κ) :
    (m.erase k).find? j = if j = k then none else m.find? j :=
  findEntry_filter k j m.entries

end SortedMap

end RoadNet
