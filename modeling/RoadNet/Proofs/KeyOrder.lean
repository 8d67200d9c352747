import Mathlib.Data.List.Nodup
import RoadNet.Proofs.Layers

/-!
# RoadNet.Proofs.KeyOrder

Lists in the order of a key, and sorted maps as such lists.

* `eq_of_filter_key`, `filter_sortBy` — sorting by a key is stable, and the one list in key
  order whose elements of each key stand as they stood before is the sorted one;
* `SortedMap.find?_eq_some`, `SortedMap.mem_values` — what is looked up are the entries;
* `SortedMap.ext_find?` — maps with the same look-ups are equal.
-/

namespace RoadNet

variable {κ α β : Type}

/-! ## Sorting by a key -/

/-- A list in the order of `key`; elements with one key keep their order. -/
def sortBy [Ord κ] (key : α → κ) (l : List α) : List α :=
  l.mergeSort fun a b => (compare (key a) (key b)).isLE

section SortBy

variable [Ord κ]

/-- Whether a list is in the order of `key`, ties allowed. -/
def InKeyOrder (key : α → κ) (l : List α) : Prop :=
  l.Pairwise fun a b => (compare (key a) (key b)).isLE = true

variable {key : α → κ}

theorem sortBy_perm (l : List α) : (sortBy key l).Perm l := List.mergeSort_perm _ _

@[simp] theorem mem_sortBy {l : List α} {a : α} : a ∈ sortBy key l ↔ a ∈ l :=
  (sortBy_perm l).mem_iff

/-- `sortBy` leaves a list that is in order as it is. -/
theorem sortBy_of_inKeyOrder {l : List α} (h : InKeyOrder key l) : sortBy key l = l :=
  List.mergeSort_of_pairwise h

variable [Std.TransOrd κ]

theorem compare_isLE_self (k : κ) : (compare k k).isLE = true := by simp

theorem compare_isLE_trans (a b c : α) (hab : (compare (key a) (key b)).isLE = true)
    (hbc : (compare (key b) (key c)).isLE = true) : (compare (key a) (key c)).isLE = true :=
  Std.TransCmp.isLE_trans hab hbc

theorem compare_isLE_total (a b : α) :
    ((compare (key a) (key b)).isLE || (compare (key b) (key a)).isLE) = true := by
  have hswap : compare (key b) (key a) = (compare (key a) (key b)).swap := Std.OrientedCmp.eq_swap
  rw [hswap]
  cases compare (key a) (key b) <;> rfl

/-- `sortBy` puts any list in order. -/
theorem inKeyOrder_sortBy (key : α → κ) (l : List α) : InKeyOrder key (sortBy key l) :=
  List.pairwise_mergeSort compare_isLE_trans compare_isLE_total l

/-- `sortBy` is idempotent. -/
theorem sortBy_sortBy (key : α → κ) (l : List α) : sortBy key (sortBy key l) = sortBy key l :=
  sortBy_of_inKeyOrder (inKeyOrder_sortBy key l)

variable [DecidableEq κ]

/-- The elements of one key stand in the sorted list of `sortBy` as they stood before. -/
theorem filter_sortBy (key : α → κ) (l : List α) (k : κ) :
    (sortBy key l).filter (fun a => key a = k) = l.filter fun a => key a = k := by
  have horder : InKeyOrder key (l.filter fun a => key a = k) := by
    refine List.Pairwise.imp_of_mem (fun {a b} ha hb _ => ?_) (List.pairwise_of_forall fun _ _ =>
      trivial : List.Pairwise (fun _ _ => True) _)
    rw [of_decide_eq_true (List.mem_filter.1 ha).2, of_decide_eq_true (List.mem_filter.1 hb).2]
    exact compare_isLE_self k
  have hsub : (l.filter fun a => key a = k).Sublist (sortBy key l) :=
    List.sublist_mergeSort compare_isLE_trans compare_isLE_total horder List.filter_sublist
  have hfilter := hsub.filter fun a => key a = k
  rw [List.filter_filter] at hfilter
  simp only [Bool.and_self] at hfilter
  exact (hfilter.eq_of_length ((sortBy_perm l).filter _).length_eq.symm).symm

variable [Std.LawfulEqOrd κ]

/-- Two lists that are `InKeyOrder` are equal if they have the same elements of each key in the same
order. -/
theorem eq_of_filter_key {xs ys : List α} (hx : InKeyOrder key xs) (hy : InKeyOrder key ys)
    (h : ∀ k, xs.filter (fun a => key a = k) = ys.filter fun a => key a = k) : xs = ys := by
  induction xs generalizing ys with
  | nil =>
    refine (List.eq_nil_iff_forall_not_mem.2 fun y hy' => ?_).symm
    have hmem : y ∈ ys.filter fun a => key a = key y :=
      List.mem_filter.2 ⟨hy', decide_eq_true rfl⟩
    rw [← h] at hmem
    exact absurd hmem List.not_mem_nil
  | cons x xs ih =>
    have hxmem : x ∈ ys := by
      have hmem : x ∈ (x :: xs).filter fun a => key a = key x :=
        List.mem_filter.2 ⟨List.mem_cons_self, decide_eq_true rfl⟩
      rw [h] at hmem
      exact (List.mem_filter.1 hmem).1
    cases ys with
    | nil => exact absurd hxmem List.not_mem_nil
    | cons y ys =>
      have hxs := List.pairwise_cons.1 hx
      have hys := List.pairwise_cons.1 hy
      -- Both heads have the least key, and the first element of that key is the same.
      have hyx : (compare (key y) (key x)).isLE = true := by
        rcases List.mem_cons.1 hxmem with rfl | hmem
        · exact compare_isLE_self _
        · exact hys.1 x hmem
      have hymem : y ∈ x :: xs := by
        have hmem : y ∈ (y :: ys).filter fun a => key a = key y :=
          List.mem_filter.2 ⟨List.mem_cons_self, decide_eq_true rfl⟩
        rw [← h] at hmem
        exact (List.mem_filter.1 hmem).1
      have hxy : (compare (key x) (key y)).isLE = true := by
        rcases List.mem_cons.1 hymem with rfl | hmem
        · exact compare_isLE_self _
        · exact hxs.1 y hmem
      have hkey : key x = key y :=
        Std.LawfulEqCmp.eq_of_compare (Std.OrientedCmp.isLE_antisymm hxy hyx)
      have hhead := h (key x)
      rw [List.filter_cons_of_pos (by simp), List.filter_cons_of_pos (by simp [hkey])] at hhead
      obtain ⟨rfl, -⟩ := List.cons.inj hhead
      refine congrArg _ (ih hxs.2 hys.2 fun k => ?_)
      have hk := h k
      rw [List.filter_cons, List.filter_cons] at hk
      split at hk
      · exact (List.cons.inj hk).2
      · exact hk

end SortBy

/-! ## Sorted maps -/

namespace SortedMap

variable [Ord κ]

/-- Change the values of a map under their keys. -/
def mapValues (f : α → β) (m : SortedMap κ α) : SortedMap κ β :=
  ⟨m.entries.map fun p => (p.1, f p.2), List.pairwise_map.2 m.sorted⟩

/-- A look-up after `mapValues` is the look-up before it, under `f`. -/
@[simp] theorem find?_mapValues (f : α → β) (m : SortedMap κ α) (k : κ) :
    (m.mapValues f).find? k = (m.find? k).map f := by
  change findEntry k (m.entries.map fun p => (p.1, f p.2)) = (findEntry k m.entries).map f
  induction m.entries with
  | nil => rfl
  | cons p rest ih =>
    rw [List.map_cons, findEntry, findEntry, ih]
    split <;> rfl

theorem inKeyOrder_entries (m : SortedMap κ α) : InKeyOrder Prod.fst m.entries :=
  m.sorted.imp fun {p q} hlt => by rw [hlt]; rfl

/-- Among entries with distinct keys `findEntry` finds the value of a key exactly if the two are an
entry. -/
theorem findEntry_eq_some [Std.LawfulEqOrd κ] {l : List (κ × α)} (h : (l.map Prod.fst).Nodup)
    {k : κ} {v : α} : findEntry k l = some v ↔ (k, v) ∈ l := by
  induction l with
  | nil => simp [findEntry]
  | cons p rest ih =>
    obtain ⟨k', v'⟩ := p
    rw [List.map_cons, List.nodup_cons] at h
    by_cases hk : k = k'
    · subst hk
      have hrest : (k, v) ∉ rest := fun hmem => h.1 (List.mem_map.2 ⟨(k, v), hmem, rfl⟩)
      simp [findEntry, hrest, eq_comm]
    · simp [findEntry, hk, ih h.2]

variable [Std.TransOrd κ]

/-- The `keys` of a map are distinct. -/
theorem nodup_keys (m : SortedMap κ α) : m.keys.Nodup := by
  rw [keys, List.Nodup, List.pairwise_map]
  refine m.sorted.imp fun {p q} hlt heq => ?_
  simp [heq] at hlt

theorem nodup_entries (m : SortedMap κ α) : m.entries.Nodup := m.nodup_keys.of_map _

variable [Std.LawfulEqOrd κ]

/-- A look-up finds the value `v` exactly if there is an entry with it. -/
theorem find?_eq_some {m : SortedMap κ α} {k : κ} {v : α} :
    m.find? k = some v ↔ (k, v) ∈ m.entries :=
  findEntry_eq_some m.nodup_keys

/-- Maps with the same look-ups (`find?`) are equal. -/
theorem ext_find? {a b : SortedMap κ α} (h : ∀ k, a.find? k = b.find? k) : a = b := by
  refine ext_entries (List.Perm.eq_of_pairwise (fun p q _ _ hpq hqp => ?_) a.sorted b.sorted
    ((List.perm_ext_iff_of_nodup a.nodup_entries b.nodup_entries).2 fun p => ?_))
  · have hswap : compare p.1 q.1 = (compare q.1 p.1).swap := Std.OrientedCmp.eq_swap
    rw [hswap, hqp] at hpq
    cases hpq
  · obtain ⟨k, v⟩ := p
    rw [← find?_eq_some, ← find?_eq_some, h]

theorem find?_eq_none_iff {m : SortedMap κ α} {k : κ} : m.find? k = none ↔ k ∉ m.keys := by
  rw [keys, List.mem_map, Option.eq_none_iff_forall_ne_some]
  constructor
  · rintro h ⟨⟨k', v⟩, hmem, rfl⟩
    exact h v (find?_eq_some.2 hmem)
  · intro h v hv
    exact h ⟨(k, v), find?_eq_some.1 hv, rfl⟩

/-- The `keys` of a map are what it contains. -/
theorem mem_keys {m : SortedMap κ α} {k : κ} : k ∈ m.keys ↔ m.contains k = true := by
  rw [← not_iff_not, ← find?_eq_none_iff, contains, Option.not_isSome_iff_eq_none]

/-- The `values` of a map are what its look-ups find. -/
theorem mem_values {m : SortedMap κ α} {v : α} : v ∈ m.values ↔ ∃ k, m.find? k = some v := by
  rw [values, List.mem_map]
  constructor
  · rintro ⟨⟨k, v'⟩, hmem, rfl⟩
    exact ⟨k, find?_eq_some.2 hmem⟩
  · rintro ⟨k, hk⟩
    exact ⟨(k, v), find?_eq_some.1 hk, rfl⟩

variable [DecidableEq κ]

/-- An `insert` of the value that a key has changes nothing. -/
theorem insert_of_find? {m : SortedMap κ α} {k : κ} {v : α} (h : m.find? k = some v) :
    m.insert k v = m := by
  refine ext_find? fun j => ?_
  rw [find?_insert]
  by_cases hj : j = k
  · rw [if_pos hj, hj, h]
  · rw [if_neg hj]

/-- Of two calls of `insert` at one key the later one counts. -/
theorem insert_insert (m : SortedMap κ α) (k : κ) (v w : α) :
    (m.insert k v).insert k w = m.insert k w := by
  refine ext_find? fun j => ?_
  simp only [find?_insert]
  by_cases hj : j = k <;> simp [hj]

/-- An `erase` of a key that is not bound changes nothing. -/
theorem erase_of_find? {m : SortedMap κ α} {k : κ} (h : m.find? k = none) : m.erase k = m := by
  refine ext_find? fun j => ?_
  rw [find?_erase]
  by_cases hj : j = k
  · rw [if_pos hj, hj, h]
  · rw [if_neg hj]

/-- The entries of a map, bound by `insertAll` on top of another, hide what that binds to their
keys. -/
theorem find?_insertAll_entries (base m : SortedMap κ α) (k : κ) :
    (base.insertAll m.entries).find? k = (m.find? k).or (base.find? k) := by
  refine Option.ext fun v => ?_
  rw [find?_insertAll m.nodup_keys, ← find?_eq_some]
  have hkeys : k ∉ m.entries.map Prod.fst ↔ m.find? k = none := find?_eq_none_iff.symm
  rw [hkeys]
  cases m.find? k <;> simp

/-- `ofList` makes a map again from its entries. -/
theorem ofList_entries (m : SortedMap κ α) : ofList m.entries = m := by
  refine ext_find? fun k => ?_
  rw [ofList_eq_insertAll, find?_insertAll_entries, find?_empty, Option.or_none]

end SortedMap

end RoadNet
