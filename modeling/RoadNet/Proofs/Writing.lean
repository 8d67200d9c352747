import RoadNet.Proofs.RoundTrip
import RoadNet.Yaml.Format

/-!
# RoadNet.Proofs.Writing

The writers as chains of plain functions. Records that are closed, as those of a map are, pass two
filters on their way to a text, each with a clean-up behind it: what XML cannot carry goes, and
what does not land on finite coordinates.

* `Osm.settles_write_of_closed`, `Yaml.settles_write_of_closed` — which records a run writes and
  which failures it comes across;
* `Osm.drops_written`, `PlacedRecords.drops_landed` — these failures account for every record that
  is not written;
* `Osm.settles_write_written`, `Osm.settles_read_written` — what is written is written again and
  read back, all of it.
-/

namespace RoadNet

/-- The records of `p` without their positions. -/
def PlacedRecords.records (p : PlacedRecords) : RecordSet :=
  ⟨p.nodes.map Prod.fst, p.ways, p.relations⟩

/-! ## Positions -/

namespace PlacedRecords

open Osm (place placedNodes lostNodes lostFailures)

variable (projector : Projector) {r : RecordSet}

/-- The records of which the nodes land on finite coordinates. -/
def landing (r : RecordSet) : RecordSet :=
  { r with nodes := (placedNodes projector r).map Prod.fst }

/-- What is left of the records after `landing` and the clean-up, with positions. -/
def landed (r : RecordSet) : PlacedRecords :=
  ⟨placedNodes projector r, (landing projector r).pruneDangling.1.ways,
    (landing projector r).pruneDangling.1.relations⟩

/-- The failures `lostFailures` of nodes without finite coordinates, and those of what refers to
them. -/
def landingFailures (r : RecordSet) : List Failure :=
  lostFailures projector r ++
    (landing projector r).pruneDangling.2.map RecordSet.Removal.failure

theorem fst_place : Prod.fst ∘ place projector = id := rfl

/-- The `placedNodes` are the nodes that land on finite coordinates. -/
theorem map_fst_placedNodes (r : RecordSet) : (placedNodes projector r).map Prod.fst =
    r.nodes.filter fun n => isFinite (projector.reverse n.position) := by
  rw [placedNodes, List.filter_map, List.map_map, fst_place, List.map_id]
  rfl

/-- If no node is lost, `landing` changes nothing. -/
theorem landing_of_eq_nil (h : lostNodes projector r = []) : landing projector r = r := by
  rw [landing, Osm.placedNodes_of_eq_nil h, List.map_map, fst_place, List.map_id]

/-- If no node of `Closed` records is lost, placing them comes across nothing. -/
theorem landingFailures_of_eq_nil (h : r.Closed) (hnone : lostNodes projector r = []) :
    landingFailures projector r = [] := by
  rw [landingFailures, lostFailures, hnone, landing_of_eq_nil projector hnone, h.pruneDangling]
  rfl

/-- `PlacedRecords.ofRecords` of `Closed` records comes across `landingFailures` and results in
`landed`. -/
theorem settles_ofRecords_of_closed (h : r.Closed) :
    Settles (fun policy => ofRecords projector policy r) (landingFailures projector r)
      (.ok (landed projector r)) := by
  by_cases hnone : lostNodes projector r = []
  · have hlanded : landed projector r = ⟨placedNodes projector r, r.ways, r.relations⟩ := by
      rw [landed, landing_of_eq_nil projector hnone, h.pruneDangling]
    simp only [Osm.ofRecords_of_eq_nil hnone, hlanded, landingFailures_of_eq_nil projector h hnone]
    exact settles_pure _
  · exact Osm.settles_ofRecords_of_ne_nil hnone

theorem landing_sublists (r : RecordSet) : (landing projector r).Sublists r where
  nodes := by
    rw [landing, map_fst_placedNodes]
    exact List.filter_sublist
  ways := List.Sublist.refl _
  relations := List.Sublist.refl _

/-- What is `landed` keeps its order. -/
theorem landed_sublists (r : RecordSet) : (landed projector r).records.Sublists r :=
  (landing projector r).pruneDangling_sublists.trans (landing_sublists projector r)

/-- Every node that is `landed` is at the finite position that `reverse` of the projector gives
it. -/
theorem placed_of_mem_landed {n : NodeRecord × Geodetic} (h : n ∈ (landed projector r).nodes) :
    n.2 = projector.reverse n.1.position ∧ isFinite n.2 = true := by
  obtain ⟨hmem, hfinite⟩ := List.mem_filter.1 h
  obtain ⟨m, -, rfl⟩ := List.mem_map.1 hmem
  exact ⟨rfl, hfinite⟩

theorem place_of_mem_landed {n : NodeRecord × Geodetic} (h : n ∈ (landed projector r).nodes) :
    place projector n.1 = n :=
  Prod.ext rfl (placed_of_mem_landed projector h).1.symm

theorem closed_landed : (landed projector r).records.Closed :=
  RecordSet.pruneDangling_closed (landing projector r)

end PlacedRecords

/-! ## Texts -/

namespace Osm

open PlacedRecords (landed landingFailures)

variable {r : RecordSet}

/-- What is left of the records when those that XML cannot carry are gone: `withoutFlawed`,
pruned. -/
def representable (r : RecordSet) : RecordSet := (withoutFlawed r).pruneDangling.1

/-- The failures `flawFailures` of records that XML cannot carry, and those of what refers to
them. -/
def representationFailures (r : RecordSet) : List Failure :=
  flawFailures r ++ (withoutFlawed r).pruneDangling.2.map RecordSet.Removal.failure

/-- The records that `Osm.write` writes: those that are `representable`, as far as they land. -/
def written (projector : Projector) (r : RecordSet) : PlacedRecords :=
  landed projector (representable r)

/-- The failures of `Osm.write`. -/
def writeFailures (projector : Projector) (r : RecordSet) : List Failure :=
  representationFailures r ++ landingFailures projector (representable r)

theorem withoutFlawed_of_eq_nil (h : unrepresentable r = []) : withoutFlawed r = r := by
  have hflawed : ∀ kind id, (!isFlawed r kind id) = true := fun kind id => by
    rw [isFlawed, h]
    rfl
  obtain ⟨nodes, ways, relations⟩ := r
  rw [withoutFlawed, List.filter_eq_self.2 fun n _ => hflawed .node n.id,
    List.filter_eq_self.2 fun w _ => hflawed .way w.id,
    List.filter_eq_self.2 fun x _ => hflawed .relation x.id]

/-- `dropUnrepresentable` of `Closed` records comes across `representationFailures` and results in
what is `representable`. -/
theorem settles_dropUnrepresentable_of_closed (h : r.Closed) :
    Settles (fun policy => dropUnrepresentable policy r) (representationFailures r)
      (.ok (representable r)) := by
  by_cases hnone : unrepresentable r = []
  · have hself := withoutFlawed_of_eq_nil hnone
    have hkept : representable r = r := by rw [representable, hself, h.pruneDangling]
    have hfailures : representationFailures r = [] := by
      rw [representationFailures, flawFailures, hnone, hself, h.pruneDangling]
      rfl
    simp only [dropUnrepresentable_of_eq_nil hnone, hkept, hfailures]
    exact settles_pure _
  · exact settles_dropUnrepresentable_of_ne_nil hnone

/-- `Osm.write` of `Closed` records comes across `writeFailures` and results in the document of what
is `written`. -/
theorem settles_write_of_closed (projector : Projector) (style : Style) (h : r.Closed) :
    Settles (fun policy => write projector style policy r) (writeFailures projector r)
      (.ok (documentText style (written projector r))) :=
  (settles_dropUnrepresentable_of_closed h).bind
    ((PlacedRecords.settles_ofRecords_of_closed projector
      (RecordSet.pruneDangling_closed (withoutFlawed r))).map (documentText style))

/-! ### What goes -/

theorem withoutFlawed_sublists (r : RecordSet) : (withoutFlawed r).Sublists r :=
  ⟨List.filter_sublist, List.filter_sublist, List.filter_sublist⟩

theorem representable_sublists (r : RecordSet) : (representable r).Sublists r :=
  (withoutFlawed r).pruneDangling_sublists.trans (withoutFlawed_sublists r)

/-- What is `written` keeps its order. -/
theorem written_sublists (projector : Projector) (r : RecordSet) :
    (written projector r).records.Sublists r :=
  (PlacedRecords.landed_sublists projector (representable r)).trans (representable_sublists r)

/-- XML can carry what is `written`. -/
theorem unrepresentable_written (projector : Projector) (r : RecordSet) :
    unrepresentable (written projector r).records = [] :=
  unrepresentable_of_within (unrepresentable_withoutFlawed r)
    ((PlacedRecords.landed_sublists projector (representable r)).trans
      (withoutFlawed r).pruneDangling_sublists).within

/-- What is `written` can be written as it is (`Writable`). -/
theorem writable_written (projector : Projector) (r : RecordSet) :
    Writable (written projector r) := by
  obtain ⟨hnodes, hways, hrelations⟩ :=
    unrepresentable_eq_nil_iff.1 (unrepresentable_written projector r)
  exact ⟨fun n hn => (PlacedRecords.placed_of_mem_landed projector hn).2,
    fun n hn => hnodes n.1 (List.mem_map_of_mem hn), hways, hrelations⟩

/-- The records that are `written` are in their places. -/
theorem placed_written (r : RecordSet) :
    placed (written .identity r).records = written .identity r := by
  have hplace : ∀ n ∈ (written .identity r).nodes, (place .identity ∘ Prod.fst) n = id n :=
    fun n hn => PlacedRecords.place_of_mem_landed .identity hn
  have hnodes : ((written .identity r).nodes.map Prod.fst).map (place .identity) =
      (written .identity r).nodes := by
    rw [List.map_map, List.map_congr_left hplace, List.map_id]
  exact congrArg (fun nodes => (⟨nodes, _, _⟩ : PlacedRecords)) hnodes

/-- What is `written` is written again, all of it. -/
theorem settles_write_written (r : RecordSet) :
    Settles (fun policy => write .identity plainStyle policy (written .identity r).records) []
      (.ok (documentText plainStyle (written .identity r))) := by
  have hfinite : ∀ n ∈ (written .identity r).records.nodes,
      PlacedRecords.isFinite (place .identity n).2 = true := by
    refine List.forall_mem_map.2 fun n hn => ?_
    rw [PlacedRecords.place_of_mem_landed .identity hn]
    exact (PlacedRecords.placed_of_mem_landed .identity hn).2
  have hwrite := (settles_write_placed (unrepresentable_written .identity r) hfinite).1
  rwa [placed_written] at hwrite

/-- What is `written` is read back, all of it, unless a node has a tag under `Key.elevation`. -/
theorem settles_read_written {r : RecordSet}
    (h : ∀ n ∈ r.nodes, n.attributes.find? Key.elevation = none) :
    Settles (fun policy => read .identity policy (documentText plainStyle (written .identity r)))
      [] (.ok (written .identity r).records) := by
  have hback : ∀ n ∈ (written .identity r).nodes, readBack .identity n = .ok n.1 := by
    intro n hn
    have hmem : n.1 ∈ r.nodes :=
      (written_sublists .identity r).nodes.subset (List.mem_map_of_mem hn)
    rw [← PlacedRecords.place_of_mem_landed .identity hn, readBack_place, h n.1 hmem]
    rfl
  have hread := settles_read_plain .identity (writable_written .identity r)
  rw [failuresOf_map_ok hback, goodOf_map_ok hback] at hread
  exact hread

end Osm

namespace Yaml

/-- `Yaml.write` of `Closed` records comes across `landingFailures` and results in the document of
what is `landed`. -/
theorem settles_write_of_closed (projector : Projector) {r : RecordSet} (h : r.Closed) :
    Settles (fun policy => write projector policy r) (PlacedRecords.landingFailures projector r)
      (.ok (encodeRecords (PlacedRecords.landed projector r)).document) :=
  (PlacedRecords.settles_ofRecords_of_closed projector h).map fun p => (encodeRecords p).document

end Yaml

end RoadNet
