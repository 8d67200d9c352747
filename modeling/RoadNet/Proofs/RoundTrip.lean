import RoadNet.Proofs.Pruning
import RoadNet.Proofs.ReadElements

/-!
# RoadNet.Proofs.RoundTrip

Records written as OSM XML and read back.

* `Osm.settles_write` — what a run of the writer writes: a document of records that XML can carry,
  at finite positions, and of the nodes all that are such;
* `Osm.read_write` — records of which XML can carry everything, and that leave the elevation to
  the position of a node, come back as they are;
* `Osm.read_positions_iff` — a document that is written is accepted, with the nodes where they
  were, exactly if no tag of a node says another elevation.
-/

namespace RoadNet.Osm

open Xml (isXmlText)

/-! ## What is written -/

variable {r : RecordSet}

/-- Whether a record of the kind and identifier has a flaw. -/
def isFlawed (r : RecordSet) (kind : RecordKind) (id : Id) : Bool :=
  (unrepresentable r).any fun f => f.1 = kind && f.2.1 = id

/-- The records of which none of the same kind and identifier has a flaw. -/
def withoutFlawed (r : RecordSet) : RecordSet where
  nodes := r.nodes.filter fun n => !isFlawed r .node n.id
  ways := r.ways.filter fun w => !isFlawed r .way w.id
  relations := r.relations.filter fun x => !isFlawed r .relation x.id

/-- The failures that the flaws of `unrepresentable` are reported as. -/
def flawFailures (r : RecordSet) : List Failure :=
  (unrepresentable r).map fun (kind, id, flaw) => .malformedRecord kind (some id) flaw

/-- A search among the flaws of records of one kind finds those under an identifier. -/
theorem any_flaws {α : Type} (other kind : RecordKind) (key : α → Id)
    (flaw? : α → Option RecordFlaw) (l : List α) (id : Id) :
    ((l.filterMap fun x => (flaw? x).map fun f => (other, key x, f)).any fun f =>
        f.1 = kind && f.2.1 = id) =
      (other = kind && l.any fun x => key x = id && (flaw? x).isSome) := by
  induction l with
  | nil => simp
  | cons x l ih => cases hflaw : flaw? x <;> simp_all [Bool.and_or_distrib_left]

/-- `isFlawed` searches the records of the kind, by their tags and, for relations, their roles. -/
theorem isFlawed_eq (r : RecordSet) (kind : RecordKind) (id : Id) :
    isFlawed r kind id =
      match kind with
      | .node => r.nodes.any fun n => n.id = id && (tagFlaw? n.attributes).isSome
      | .way => r.ways.any fun w => w.id = id && (tagFlaw? w.attributes).isSome
      | .relation => r.relations.any fun x => x.id = id && (relationFlaw? x).isSome := by
  rw [isFlawed, unrepresentable, List.any_append, List.any_append, any_flaws, any_flaws, any_flaws]
  cases kind <;> simp

/-- Where keys are distinct, an element with the key of another one is that one. -/
theorem any_key_eq {key : α → Id} {l : List α} (nodup : (l.map key).Nodup) {a : α} (ha : a ∈ l)
    (p : α → Bool) : (l.any fun b => key b = key a && p b) = p a := by
  rw [Bool.eq_iff_iff]
  simp only [List.any_eq_true, Bool.and_eq_true, decide_eq_true_eq]
  constructor
  · rintro ⟨b, hb, hkey, hp⟩
    exact List.inj_on_of_nodup_map nodup hb ha hkey ▸ hp
  · exact fun hp => ⟨a, ha, rfl, hp⟩

/-- Where identifiers are `Distinct`, a record goes only for a flaw of its own. -/
theorem withoutFlawed_of_distinct (h : r.Distinct) :
    withoutFlawed r =
      ⟨r.nodes.filter fun n => (tagFlaw? n.attributes).isNone,
        r.ways.filter fun w => (tagFlaw? w.attributes).isNone,
        r.relations.filter fun x => (relationFlaw? x).isNone⟩ := by
  rw [withoutFlawed, RecordSet.mk.injEq]
  refine ⟨List.filter_congr fun n hn => ?_, List.filter_congr fun w hw => ?_,
    List.filter_congr fun x hx => ?_⟩
  · rw [isFlawed_eq, ← Option.not_isSome]
    exact congrArg not (any_key_eq (h .node) hn fun m => (tagFlaw? m.attributes).isSome)
  · rw [isFlawed_eq, ← Option.not_isSome]
    exact congrArg not (any_key_eq (h .way) hw fun m => (tagFlaw? m.attributes).isSome)
  · rw [isFlawed_eq, ← Option.not_isSome]
    exact congrArg not (any_key_eq (h .relation) hx fun m => (relationFlaw? m).isSome)

/-- `unrepresentable` is empty exactly if no record has a flaw. -/
theorem unrepresentable_eq_nil_iff :
    unrepresentable r = [] ↔ (∀ n ∈ r.nodes, tagFlaw? n.attributes = none) ∧
      (∀ w ∈ r.ways, tagFlaw? w.attributes = none) ∧
      (∀ x ∈ r.relations, relationFlaw? x = none) := by
  simp [unrepresentable, List.filterMap_eq_nil_iff]

/-- Part of records without flaws has none. -/
theorem unrepresentable_of_within {s : RecordSet} (h : unrepresentable r = [])
    (within : s.Within r) : unrepresentable s = [] := by
  obtain ⟨hnodes, hways, hrelations⟩ := unrepresentable_eq_nil_iff.1 h
  exact unrepresentable_eq_nil_iff.2 ⟨fun n hn => hnodes n (within.nodes hn),
    fun w hw => hways w (within.ways hw), fun x hx => hrelations x (within.relations hx)⟩

/-- The records of `withoutFlawed` have no flaw. -/
theorem unrepresentable_withoutFlawed (r : RecordSet) : unrepresentable (withoutFlawed r) = [] := by
  refine unrepresentable_eq_nil_iff.2 ⟨fun n hn => ?_, fun w hw => ?_, fun x hx => ?_⟩
  · obtain ⟨hmem, hflaw⟩ := List.mem_filter.1 hn
    simp only [isFlawed_eq, Bool.not_eq_true', List.any_eq_false] at hflaw
    simpa using hflaw n hmem
  · obtain ⟨hmem, hflaw⟩ := List.mem_filter.1 hw
    simp only [isFlawed_eq, Bool.not_eq_true', List.any_eq_false] at hflaw
    simpa using hflaw w hmem
  · obtain ⟨hmem, hflaw⟩ := List.mem_filter.1 hx
    simp only [isFlawed_eq, Bool.not_eq_true', List.any_eq_false] at hflaw
    simpa using hflaw x hmem

/-- `dropUnrepresentable` does nothing to records without flaws. -/
theorem dropUnrepresentable_of_eq_nil (h : unrepresentable r = []) (policy : Policy) :
    dropUnrepresentable policy r = pure r := by
  rw [dropUnrepresentable, h]
  rfl

/-- Of records with flaws `dropUnrepresentable` reports these, and prunes what is left. -/
theorem dropUnrepresentable_of_ne_nil (h : unrepresentable r ≠ []) (policy : Policy) :
    dropUnrepresentable policy r = do
      policy.reportAll (flawFailures r)
      let (kept, _) ← (withoutFlawed r).prune policy
      return kept := by
  rw [dropUnrepresentable]
  dsimp only
  rw [if_neg (by simpa using h)]
  rfl

/-- What `dropUnrepresentable` comes across and results in, if some record has a flaw. -/
theorem settles_dropUnrepresentable_of_ne_nil (h : unrepresentable r ≠ []) :
    Settles (fun policy => dropUnrepresentable policy r)
      (flawFailures r ++ (withoutFlawed r).pruneDangling.2.map RecordSet.Removal.failure)
      (.ok (withoutFlawed r).pruneDangling.1) := by
  have hlevel : ∀ f ∈ flawFailures r, f.isRecordLevel = true :=
    List.forall_mem_map.2 fun flaw _ => rfl
  simp only [dropUnrepresentable_of_ne_nil h]
  exact (settles_reportAll hlevel).bind ((withoutFlawed r).settles_prune.map Prod.fst)

/-- What `dropUnrepresentable` leaves has no flaw, and all the nodes without flaws are among it. -/
theorem settles_dropUnrepresentable (r : RecordSet) :
    ∃ failures s, Settles (fun policy => dropUnrepresentable policy r) failures (.ok s) ∧
      s.nodes = (withoutFlawed r).nodes ∧ unrepresentable s = [] := by
  by_cases hnone : unrepresentable r = []
  · have hkept : (withoutFlawed r).nodes = r.nodes :=
      List.filter_eq_self.2 fun n _ => by rw [isFlawed, hnone]; rfl
    refine ⟨[], r, ?_, hkept.symm, hnone⟩
    simp only [dropUnrepresentable_of_eq_nil hnone]
    exact settles_pure r
  · exact ⟨_, _, settles_dropUnrepresentable_of_ne_nil hnone,
      (withoutFlawed r).nodes_pruneDangling, unrepresentable_of_within
        (unrepresentable_withoutFlawed r) (withoutFlawed r).pruneDangling_within⟩

/-- A node and its geodetic position, by `reverse` of the projector. -/
def place (projector : Projector) (n : NodeRecord) : NodeRecord × Geodetic :=
  (n, projector.reverse n.position)

/-- The nodes that land on finite coordinates, placed. -/
def placedNodes (projector : Projector) (r : RecordSet) : List (NodeRecord × Geodetic) :=
  (r.nodes.map (place projector)).filter fun n => PlacedRecords.isFinite n.2

/-- The nodes that do not land on finite coordinates. -/
def lostNodes (projector : Projector) (r : RecordSet) : List (NodeRecord × Geodetic) :=
  (r.nodes.map (place projector)).filter fun n => !PlacedRecords.isFinite n.2

/-- The failures `notFinite` that the `lostNodes` are reported as. -/
def lostFailures (projector : Projector) (r : RecordSet) : List Failure :=
  (lostNodes projector r).map fun n => .malformedRecord .node (some n.1.id) .notFinite

theorem placedNodes_of_eq_nil {projector : Projector} (h : lostNodes projector r = []) :
    placedNodes projector r = r.nodes.map (place projector) := by
  rw [lostNodes, List.filter_eq_nil_iff] at h
  exact List.filter_eq_self.2 fun n hn => by simpa using h n hn

/-- No node is lost exactly if all land on finite coordinates. -/
theorem lostNodes_eq_nil_iff {projector : Projector} : lostNodes projector r = [] ↔
    ∀ n ∈ r.nodes, PlacedRecords.isFinite (place projector n).2 = true := by
  rw [lostNodes, List.filter_eq_nil_iff, List.forall_mem_map]
  simp only [Bool.not_eq_true', Bool.not_eq_false]

/-- Before any node is dropped, the position beside a node is its own. -/
theorem zip_positions (projector : Projector) (r : RecordSet) :
    (r.nodes.zip (r.nodes.map fun n => projector.reverse n.position)) =
      r.nodes.map (place projector) :=
  List.map_prod_left_eq_zip.symm

/-- The test on all positions succeeds exactly if no node is lost. -/
theorem all_isFinite_iff {projector : Projector} :
    (r.nodes.map fun n => projector.reverse n.position).all PlacedRecords.isFinite = true ↔
      lostNodes projector r = [] := by
  rw [lostNodes_eq_nil_iff, List.all_map, List.all_eq_true]
  rfl

/-- If no node is lost, placing records only pairs them with their positions. -/
theorem ofRecords_of_eq_nil {projector : Projector} (h : lostNodes projector r = [])
    (policy : Policy) :
    PlacedRecords.ofRecords projector policy r =
      pure ⟨placedNodes projector r, r.ways, r.relations⟩ := by
  rw [PlacedRecords.ofRecords, Projected.ofRecords, if_pos (all_isFinite_iff.2 h), pure_bind,
    PlacedRecords.ofProjected, zip_positions, placedNodes_of_eq_nil h]

/-- If nodes are lost, `Projected.ofRecords` reports them and prunes what is left. -/
theorem projected_of_ne_nil {projector : Projector} (h : lostNodes projector r ≠ [])
    (policy : Policy) :
    Projected.ofRecords projector policy r = do
      policy.reportAll (lostFailures projector r)
      let (rest, _) ← RecordSet.prune policy
        { r with nodes := (placedNodes projector r).map Prod.fst }
      return ⟨rest, (placedNodes projector r).map Prod.snd⟩ := by
  rw [Projected.ofRecords, if_neg (fun hall => h (all_isFinite_iff.1 hall)), zip_positions]
  rfl

/-- The clean-up drops no node (`nodes_pruneDangling`), so the nodes that are left still stand
beside their own positions. -/
theorem ofProjected_pruneDangling (placed : List (NodeRecord × Geodetic)) {s : RecordSet}
    (h : s.nodes = placed.map Prod.fst) :
    PlacedRecords.ofProjected ⟨s.pruneDangling.1, placed.map Prod.snd⟩ =
      ⟨placed, s.pruneDangling.1.ways, s.pruneDangling.1.relations⟩ := by
  rw [PlacedRecords.ofProjected, s.nodes_pruneDangling, h, ← List.zip_of_prod rfl rfl]

/-- What placing records comes across and results in, if nodes are lost. -/
theorem settles_ofRecords_of_ne_nil {projector : Projector} (h : lostNodes projector r ≠ []) :
    let rest : RecordSet := { r with nodes := (placedNodes projector r).map Prod.fst }
    Settles (fun policy => PlacedRecords.ofRecords projector policy r)
      (lostFailures projector r ++ rest.pruneDangling.2.map RecordSet.Removal.failure)
      (.ok
        ⟨placedNodes projector r, rest.pruneDangling.1.ways, rest.pruneDangling.1.relations⟩) := by
  intro rest
  have hlevel : ∀ f ∈ lostFailures projector r, f.isRecordLevel = true :=
    List.forall_mem_map.2 fun n _ => rfl
  have hprojected : Settles (fun policy => Projected.ofRecords projector policy r)
      (lostFailures projector r ++ rest.pruneDangling.2.map RecordSet.Removal.failure)
      (.ok ⟨rest.pruneDangling.1, (placedNodes projector r).map Prod.snd⟩) := by
    simp only [projected_of_ne_nil h]
    exact (settles_reportAll hlevel).bind (rest.settles_prune.map fun q =>
      (⟨q.1, (placedNodes projector r).map Prod.snd⟩ : Projected))
  rw [← ofProjected_pruneDangling (placedNodes projector r) rfl]
  exact hprojected.map PlacedRecords.ofProjected

/-- Placing records results in all nodes that land on finite coordinates, and in ways and relations
of `r`. -/
theorem settles_ofRecords (projector : Projector) (r : RecordSet) :
    ∃ failures p, Settles (fun policy => PlacedRecords.ofRecords projector policy r) failures
        (.ok p) ∧
      p.nodes = placedNodes projector r ∧ p.ways ⊆ r.ways ∧ p.relations ⊆ r.relations := by
  by_cases hnone : lostNodes projector r = []
  · refine ⟨[], ⟨placedNodes projector r, r.ways, r.relations⟩, ?_, rfl, List.Subset.refl _,
      List.Subset.refl _⟩
    simp only [ofRecords_of_eq_nil hnone]
    exact settles_pure _
  · let rest : RecordSet := { r with nodes := (placedNodes projector r).map Prod.fst }
    have hwithin := rest.pruneDangling_within
    exact ⟨_, _, settles_ofRecords_of_ne_nil hnone, rfl, hwithin.ways, hwithin.relations⟩

/-- What `Osm.write` writes: a document of `Writable` records, with all the nodes that XML can carry
and that land on finite coordinates. -/
theorem settles_write (projector : Projector) (style : Style) (r : RecordSet) :
    ∃ failures p, Settles (fun policy => write projector style policy r) failures
        (.ok (documentText style p)) ∧
      Writable p ∧ p.nodes = placedNodes projector (withoutFlawed r) := by
  obtain ⟨flaws, s, hdrop, hnodes, hnone⟩ := settles_dropUnrepresentable r
  obtain ⟨lost, p, hplace, hplaced, hsubways, hsubrelations⟩ := settles_ofRecords projector s
  obtain ⟨hflawless, hways, hrelations⟩ := unrepresentable_eq_nil_iff.1 hnone
  have hwritable : Writable p :=
    { finite := fun n hn => by
        rw [hplaced] at hn
        exact (List.mem_filter.1 hn).2
      nodes := fun n hn => by
        rw [hplaced] at hn
        obtain ⟨m, hm, rfl⟩ := List.mem_map.1 (List.mem_filter.1 hn).1
        exact hflawless m hm
      ways := fun w hw => hways w (hsubways hw)
      relations := fun x hx => hrelations x (hsubrelations hx) }
  exact ⟨flaws ++ lost, p, hdrop.bind (hplace.map (documentText style)), hwritable,
    by rw [hplaced, placedNodes, hnodes, placedNodes]⟩

/-! ## Records that come back whole -/

/-- Records that XML can carry whole: all their texts are `isXmlText`, their positions are finite,
and no tag of a node has the key `Key.elevation`. -/
structure Portable (r : RecordSet) : Prop where
  nodeTags : ∀ n ∈ r.nodes, ∀ p ∈ n.attributes.entries,
    isXmlText p.1 = true ∧ isXmlText p.2 = true
  wayTags : ∀ w ∈ r.ways, ∀ p ∈ w.attributes.entries,
    isXmlText p.1 = true ∧ isXmlText p.2 = true
  relationTags : ∀ x ∈ r.relations, ∀ p ∈ x.attributes.entries,
    isXmlText p.1 = true ∧ isXmlText p.2 = true
  roles : ∀ x ∈ r.relations, ∀ m ∈ x.members, isXmlText m.role = true
  finite : ∀ n ∈ r.nodes, isFiniteFloat n.position.x = true ∧
    isFiniteFloat n.position.y = true ∧ isFiniteFloat n.position.z = true
  noElevation : ∀ n ∈ r.nodes, n.attributes.find? Key.elevation = none

/-- What becomes of a node that is written and read under the projector `identity`. -/
theorem readBack_place (n : NodeRecord) :
    readBack .identity (place .identity n) =
      match n.attributes.find? Key.elevation with
      | none => .ok n
      | some value =>
        match Attribute.float? value with
        | some ele => .ok ⟨n.id, ⟨n.position.x, n.position.y, ele⟩,
            n.attributes.erase Key.elevation⟩
        | none => .error (.malformedRecord .node (some n.id) (.invalidElevation value)) := rfl

/-- The style that `Style.ofOptions` makes without options. -/
def plainStyle : Style := ⟨"false", false⟩

theorem ofOptions_empty : Style.ofOptions SortedMap.empty = .ok plainStyle := rfl

/-- What `Osm.read` makes of a document in the `plainStyle`. -/
theorem settles_read_plain (projector : Projector) {p : PlacedRecords} (h : Writable p) :
    Settles (fun policy => read projector policy (documentText plainStyle p))
      (failuresOf (p.nodes.map (readBack projector)))
      (.ok ⟨goodOf (p.nodes.map (readBack projector)), p.ways, p.relations⟩) :=
  settles_read_documentText projector rfl (List.all_eq_true.1 (by decide)) h

/-- The records of a set, all nodes placed under the projector `identity`. -/
def placed (r : RecordSet) : PlacedRecords :=
  ⟨r.nodes.map (place .identity), r.ways, r.relations⟩

/-- `Osm.write` writes all of the records without flaws at finite positions. -/
theorem settles_write_placed (hnone : unrepresentable r = [])
    (hfinite : ∀ n ∈ r.nodes, PlacedRecords.isFinite (place .identity n).2 = true) :
    Settles (fun policy => write .identity plainStyle policy r) []
      (.ok (documentText plainStyle (placed r))) ∧ Writable (placed r) := by
  have hlost : lostNodes .identity r = [] := lostNodes_eq_nil_iff.2 hfinite
  obtain ⟨hnodes, hways, hrelations⟩ := unrepresentable_eq_nil_iff.1 hnone
  constructor
  · simp only [write, dropUnrepresentable_of_eq_nil hnone, pure_bind, ofRecords_of_eq_nil hlost,
      placedNodes_of_eq_nil hlost]
    exact settles_pure _
  · exact ⟨List.forall_mem_map.2 hfinite, List.forall_mem_map.2 hnodes, hways, hrelations⟩

/-- Strict `Osm.write` and strict `Osm.read` carry `Portable` records: the same records come back in
the same order, with the same references, members, tags and positions. -/
theorem read_write (h : Portable r) :
    ∃ style text, Style.ofOptions SortedMap.empty = .ok style ∧ ∀ messages,
      write .identity style .strict r messages = (.ok text, messages) ∧
        read .identity .strict text messages = (.ok r, messages) := by
  have hnone : unrepresentable r = [] := unrepresentable_eq_nil_iff.2
    ⟨fun n hn => tagFlaw?_eq_none.2 (h.nodeTags n hn),
      fun w hw => tagFlaw?_eq_none.2 (h.wayTags w hw),
      fun x hx => relationFlaw?_eq_none.2 ⟨h.roles x hx, tagFlaw?_eq_none.2 (h.relationTags x hx)⟩⟩
  have hfinite : ∀ n ∈ r.nodes, PlacedRecords.isFinite (place .identity n).2 = true := by
    intro n hn
    obtain ⟨hx, hy, hz⟩ := h.finite n hn
    exact isFinite_iff.2 ⟨hy, hx, hz⟩
  have hback : ∀ n ∈ r.nodes, (readBack .identity ∘ place .identity) n = .ok (id n) := by
    intro n hn
    rw [Function.comp_apply, readBack_place, h.noElevation n hn]
    rfl
  obtain ⟨hwrite, hwritable⟩ := settles_write_placed hnone hfinite
  have hread := settles_read_plain .identity hwritable
  rw [placed, List.map_map, failuresOf_map_ok hback, goodOf_map_ok hback, List.map_id] at hread
  exact ⟨plainStyle, documentText plainStyle (placed r), ofOptions_empty, fun messages =>
    ⟨hwrite.strict messages, hread.strict messages⟩⟩

/-- Texts that need escapes, empty texts, a repeated identifier and references to records that
are not there. -/
def awkward : RecordSet where
  nodes := [⟨1, ⟨0.5, -1.25, 3⟩, SortedMap.ofList [("name", "a < \"b\" & 'c'\r\n\t>")]⟩,
    ⟨1, ⟨0, -0.0, 1e-7⟩, SortedMap.empty⟩]
  ways := [⟨-5, [], SortedMap.empty⟩, ⟨6, [1, 99, 1], SortedMap.ofList [("", "")]⟩]
  relations := [⟨7, SortedMap.ofList [("type", "lanelet"), ("ele", "high")],
    [⟨"", .way, 6⟩, ⟨"ä&", .node, -42⟩, ⟨"", .relation, 7⟩]⟩, ⟨7, SortedMap.empty, []⟩]

/-- The records `awkward` are `Portable` and come back. -/
theorem read_write_awkward :
    Portable awkward ∧ ∃ style text, Style.ofOptions SortedMap.empty = .ok style ∧ ∀ messages,
      write .identity style .strict awkward messages = (.ok text, messages) ∧
        read .identity .strict text messages = (.ok awkward, messages) :=
  have h : Portable awkward :=
    ⟨by decide, by decide, by decide, by decide, by decide, by decide⟩
  ⟨h, read_write h⟩

/-! ## Elevations that are hidden -/

/-- Whether a node is written: XML can carry its tags and its position is finite. -/
def isWritten (n : NodeRecord) : Bool :=
  (tagFlaw? n.attributes).isNone && PlacedRecords.isFinite (Projector.identity.reverse n.position)

/-- No tag of the node hides its elevation: one under `Key.elevation` repeats it. -/
def ElevationAgrees (n : NodeRecord) : Prop :=
  ∀ value, n.attributes.find? Key.elevation = some value →
    Attribute.float? value = some n.position.z

/-- Where no two nodes share an identifier, the placed ones are those that `isWritten` tells by
themselves. -/
theorem placedNodes_of_distinct (h : r.Distinct) :
    placedNodes .identity (withoutFlawed r) =
      (r.nodes.filter isWritten).map (place .identity) := by
  rw [placedNodes, withoutFlawed_of_distinct h, List.filter_map, List.filter_filter]
  exact congrArg (List.map (place .identity)) (List.filter_congr fun n _ => Bool.and_comm _ _)

/-- A node comes back in its place exactly if its `ElevationAgrees`. -/
theorem readBack_place_iff (n : NodeRecord) :
    (∃ back, readBack .identity (place .identity n) = .ok back ∧
      (back.id, back.position) = (n.id, n.position)) ↔ ElevationAgrees n := by
  rw [readBack_place, ElevationAgrees]
  cases n.attributes.find? Key.elevation with
  | none => exact iff_of_true ⟨n, rfl, rfl⟩ nofun
  | some value =>
    dsimp only
    cases hele : Attribute.float? value with
    | none =>
      refine iff_of_false (fun ⟨_, hback, _⟩ => nomatch hback) fun hagrees => ?_
      rw [hagrees value rfl] at hele
      cases hele
    | some ele =>
      constructor
      · rintro ⟨back, hback, hplace⟩ value' hvalue
        obtain rfl := Option.some.inj hvalue
        obtain rfl := Except.ok.inj hback
        obtain ⟨-, hposition⟩ := Prod.mk.inj hplace
        rw [hele, ← hposition]
      · intro hagrees
        have hz := hagrees value rfl
        rw [hele] at hz
        exact ⟨_, rfl, by rw [Option.some.inj hz]⟩

/-- Nodes come back in their places exactly if `ElevationAgrees` of each. -/
theorem readBack_nodes_iff (nodes : List NodeRecord) :
    (∃ back : List NodeRecord, nodes.map (readBack .identity ∘ place .identity) = back.map .ok ∧
      back.map (fun n => (n.id, n.position)) = nodes.map fun n => (n.id, n.position)) ↔
      ∀ n ∈ nodes, ElevationAgrees n := by
  induction nodes with
  | nil => exact iff_of_true ⟨[], rfl, rfl⟩ nofun
  | cons n nodes ih =>
    rw [List.forall_mem_cons, ← ih, ← readBack_place_iff]
    constructor
    · rintro ⟨back, hback, hplaces⟩
      cases back with
      | nil => cases hback
      | cons b back =>
        obtain ⟨hb, hrest⟩ := List.cons.inj hback
        obtain ⟨hplace, hplaces⟩ := List.cons.inj hplaces
        exact ⟨⟨b, hb, hplace⟩, back, hrest, hplaces⟩
    · rintro ⟨⟨b, hb, hplace⟩, back, hback, hplaces⟩
      refine ⟨b :: back, ?_, ?_⟩
      · rw [List.map_cons, List.map_cons, Function.comp_apply, hb, hback]
      · rw [List.map_cons, List.map_cons, hplace, hplaces]

/-- What robust `Osm.write` writes of `Distinct` records is accepted by strict `Osm.read`, with
every node that `isWritten` in its place, exactly if `ElevationAgrees` of every such node: no tag
says another elevation than the position. -/
theorem read_positions_iff (h : r.Distinct) :
    ∃ style text failures, Style.ofOptions SortedMap.empty = .ok style ∧
      (∀ messages, write .identity style .robust r messages = (.ok text, messages ++ failures)) ∧
      ((∃ back, read .identity .strict text [] = (.ok back, []) ∧
          back.nodes.map (fun n => (n.id, n.position)) =
            (r.nodes.filter isWritten).map fun n => (n.id, n.position)) ↔
        ∀ n ∈ r.nodes.filter isWritten, ElevationAgrees n) := by
  obtain ⟨failures, p, hwrite, hwritable, hnodes⟩ := settles_write .identity plainStyle r
  rw [placedNodes_of_distinct h] at hnodes
  have hread := settles_read_plain .identity hwritable
  rw [hnodes, List.map_map] at hread
  refine ⟨plainStyle, documentText plainStyle p, failures.map Failure.message, ofOptions_empty,
    hwrite.robust, ?_⟩
  rw [← readBack_nodes_iff]
  -- A strict run that ends well has come across no failure, so its nodes are all that were read.
  constructor
  · rintro ⟨back, hback, hplaces⟩
    have hnone := hread.eq_nil_of_strict (congrArg Prod.fst hback)
    obtain rfl := Except.ok.inj (hread.eq_of_ok (congrArg Prod.fst hback))
    exact ⟨_, (map_ok_goodOf hnone).symm, hplaces⟩
  · rintro ⟨back, hback, hplaces⟩
    have hok : ∀ n ∈ back, (Except.ok n : Except Failure NodeRecord) = .ok (id n) := fun _ _ => rfl
    rw [hback, failuresOf_map_ok hok, goodOf_map_ok hok, List.map_id] at hread
    exact ⟨_, hread.strict [], hplaces⟩

/-- A node five metres up that carries a tag under the key of the elevation. -/
def labelled (value : String) : RecordSet :=
  ⟨[⟨1, ⟨0, 0, 5⟩, SortedMap.ofList [(Key.elevation, value)]⟩], [], []⟩

/-- The node of `labelled` comes back in its place if its tag repeats the elevation. -/
theorem read_positions_labelled :
    (labelled "5").Distinct ∧ ∃ style text failures, Style.ofOptions SortedMap.empty = .ok style ∧
      (∀ messages,
        write .identity style .robust (labelled "5") messages = (.ok text, messages ++ failures)) ∧
      ((∃ back, read .identity .strict text [] = (.ok back, []) ∧
          back.nodes.map (fun n => (n.id, n.position)) =
            ((labelled "5").nodes.filter isWritten).map fun n => (n.id, n.position)) ↔
        ∀ n ∈ (labelled "5").nodes.filter isWritten, ElevationAgrees n) :=
  have h : (labelled "5").Distinct := fun kind => by cases kind <;> decide
  ⟨h, read_positions_iff h⟩

theorem readBack_labelled (value : String) :
    (placed (labelled value)).nodes.map (readBack .identity) =
      [match Attribute.float? value with
        | some ele => .ok ⟨1, ⟨0, 0, ele⟩,
            (SortedMap.ofList [(Key.elevation, value)]).erase Key.elevation⟩
        | none => .error (.malformedRecord .node (some 1) (.invalidElevation value))] := by
  have hfind : (SortedMap.ofList [(Key.elevation, value)] : Attributes).find? Key.elevation =
      some value := by simp [SortedMap.ofList]
  change [readBack .identity (place .identity
    ⟨1, ⟨0, 0, 5⟩, SortedMap.ofList [(Key.elevation, value)]⟩)] = _
  rw [readBack_place, hfind]

/-- A label that is no number makes the document unreadable, and a number takes the place of the
elevation. -/
theorem elevation_hidden :
    (labelled "high").Distinct ∧ (labelled "7").Distinct ∧
    ∃ style, Style.ofOptions SortedMap.empty = .ok style ∧
      (∃ text, write .identity style .robust (labelled "high") [] = (.ok text, []) ∧
        read .identity .strict text [] =
          (.error (.malformedRecord .node (some 1) (.invalidElevation "high")), [])) ∧
      ∃ text back, write .identity style .robust (labelled "7") [] = (.ok text, []) ∧
        read .identity .strict text [] = (.ok back, []) ∧
        (labelled "7").nodes.map (fun n => n.position.z) = [5] ∧
        back.nodes.map (fun n => n.position.z) = [7] := by
  obtain ⟨hwrite, hwritable⟩ := settles_write_placed
    (by decide : unrepresentable (labelled "high") = []) (by decide)
  obtain ⟨hwrite', hwritable'⟩ := settles_write_placed
    (by decide : unrepresentable (labelled "7") = []) (by decide)
  have hread := settles_read_plain .identity hwritable
  rw [readBack_labelled, (by decide : Attribute.float? "high" = none)] at hread
  have hread' := settles_read_plain .identity hwritable'
  rw [readBack_labelled, (by decide : Attribute.float? "7" = some 7)] at hread'
  exact ⟨fun kind => by cases kind <;> decide, fun kind => by cases kind <;> decide, plainStyle,
    ofOptions_empty, ⟨_, hwrite.robust [], hread.strict []⟩,
    _, _, hwrite'.robust [], hread'.strict [], rfl, rfl⟩

end RoadNet.Osm
