import RoadNet.Assembly

/-!
# RoadNet.Proofs.Layers

What the layers of an assembled map hold. Elements go into a layer one by one, the later of
two with one identifier replacing the earlier; where no two share one, the layer holds exactly
the elements that went in (`find?_ofList`). `RoadMap.ofParts_eq` says which elements go into
which layer.
-/

namespace RoadNet

/-! ## Maps from lists of bindings -/

namespace SortedMap

variable {κ α : Type} [Ord κ]

/-- A map contains a key exactly if a look-up finds a value. -/
theorem contains_iff {m : SortedMap κ α} {k : κ} :
    m.contains k = true ↔ ∃ v, m.find? k = some v := by
  rw [contains, Option.isSome_iff_exists]

variable [Std.TransOrd κ] [Std.LawfulEqOrd κ]

/-- Bind the pairs of a list in order with `insert`, on top of what is bound already. -/
def insertAll (m : SortedMap κ α) (l : List (κ × α)) : SortedMap κ α :=
  l.foldl (fun m p => m.insert p.1 p.2) m

theorem insertAll_cons (m : SortedMap κ α) (p : κ × α) (l : List (κ × α)) :
    m.insertAll (p :: l) = (m.insert p.1 p.2).insertAll l := rfl

theorem ofList_eq_insertAll (l : List (κ × α)) : ofList l = insertAll empty l := rfl

variable [DecidableEq κ]

/-- After `insertAll` of pairs with distinct keys, a key is bound by its pair or as before. -/
theorem find?_insertAll {l : List (κ × α)} (h : (l.map Prod.fst).Nodup) (m : SortedMap κ α)
    {k : κ} {v : α} :
    (m.insertAll l).find? k = some v ↔
      (k, v) ∈ l ∨ (k ∉ l.map Prod.fst ∧ m.find? k = some v) := by
  induction l generalizing m with
  | nil => simp [insertAll]
  | cons p rest ih =>
    obtain ⟨k', v'⟩ := p
    rw [List.map_cons, List.nodup_cons] at h
    rw [insertAll_cons, ih h.2, find?_insert, List.map_cons, List.mem_cons, List.mem_cons]
    by_cases hk : k = k'
    · subst hk
      have hrest : ∀ x, (k, x) ∉ rest := fun x hmem => h.1 (List.mem_map.2 ⟨(k, x), hmem, rfl⟩)
      simp [hrest, h.1, eq_comm]
    · simp [hk]

/-- `ofList` of pairs with distinct keys binds exactly these. -/
theorem find?_ofList {l : List (κ × α)} (h : (l.map Prod.fst).Nodup) {k : κ} {v : α} :
    (ofList l).find? k = some v ↔ (k, v) ∈ l := by
  rw [ofList_eq_insertAll, find?_insertAll h]
  simp

end SortedMap

namespace RoadMap

open SortedMap

/-! ## Entries of layers -/

/-- The point that a node becomes. -/
def pointEntry (n : NodeRecord) : Id × Point := (n.id, ⟨n.id, n.position, n.attributes⟩)

/-- The line string that a way becomes unless it is a polygon. -/
def lineStringEntry (w : WayRecord) : Id × LineString := (w.id, ⟨w.id, w.nodes, w.attributes⟩)

/-- The polygon that a way becomes if it is one. -/
def polygonEntry (w : WayRecord) : Id × Polygon := (w.id, ⟨w.id, w.nodes, w.attributes⟩)

/-- The entry of a built relation in the layer of lanelets, if it is a lanelet. -/
def laneletOf? : BuiltRelation → Option (Id × Lanelet)
  | .lanelet l => some (l.id, l)
  | .element _ => none

/-- The entry of a built relation in the layer of regulatory elements, if it is one. -/
def elementOf? : BuiltRelation → Option (Id × RegulatoryElement)
  | .lanelet _ => none
  | .element e => some (e.id, e)

/-! ## Filling the layers -/

/-- Adding the points of `nodes` binds the `pointEntry` of each. -/
theorem foldl_addPoint (nodes : List NodeRecord) (m : RoadMap) :
    nodes.foldl (fun m n => m.addPoint ⟨n.id, n.position, n.attributes⟩) m =
      { m with points := m.points.insertAll (nodes.map pointEntry) } := by
  induction nodes generalizing m with
  | nil => rfl
  | cons n rest ih => exact ih (m.addPoint ⟨n.id, n.position, n.attributes⟩)

/-- Adding `ways` binds the `lineStringEntry` or the `polygonEntry` of each, by its class. -/
theorem foldl_addWay (c : Classes) (ways : List WayRecord) (m : RoadMap) :
    ways.foldl (addWay c) m =
      { m with
        lineStrings := m.lineStrings.insertAll
          ((ways.filter fun w => w.id ∉ c.polygons).map lineStringEntry)
        polygons := m.polygons.insertAll
          ((ways.filter fun w => w.id ∈ c.polygons).map polygonEntry) } := by
  induction ways generalizing m with
  | nil => rfl
  | cons w rest ih =>
    rw [List.foldl_cons, ih]
    by_cases hw : w.id ∈ c.polygons
    · rw [addWay, if_pos hw, List.filter_cons_of_neg (by simpa using hw),
        List.filter_cons_of_pos (by simpa using hw)]
      rfl
    · rw [addWay, if_neg hw, List.filter_cons_of_pos (by simpa using hw),
        List.filter_cons_of_neg (by simpa using hw)]
      rfl

/-- Adding `built` relations binds their `laneletOf?` and `elementOf?` entries. -/
theorem foldl_addTo (built : List BuiltRelation) (m : RoadMap) :
    built.foldl BuiltRelation.addTo m =
      { m with
        lanelets := m.lanelets.insertAll (built.filterMap laneletOf?)
        regulatoryElements := m.regulatoryElements.insertAll (built.filterMap elementOf?) } := by
  induction built generalizing m with
  | nil => rfl
  | cons b rest ih =>
    rw [List.foldl_cons, ih]
    cases b <;> rfl

/-- The layers of an assembled map `ofParts`, each from the records that belong there. -/
theorem ofParts_eq (c : Classes) (r : RecordSet) (built : List (Id × BuiltRelation)) :
    ofParts c r built =
      { points := ofList (r.nodes.map pointEntry)
        lineStrings := ofList ((r.ways.filter fun w => w.id ∉ c.polygons).map lineStringEntry)
        polygons := ofList ((r.ways.filter fun w => w.id ∈ c.polygons).map polygonEntry)
        lanelets := ofList ((ofList built).values.filterMap laneletOf?)
        regulatoryElements := ofList ((ofList built).values.filterMap elementOf?) } := by
  rw [ofParts, foldl_addPoint, foldl_addWay, foldl_addTo]
  rfl

end RoadMap

end RoadNet
