import RoadNet.Proofs.Canonical
import RoadNet.Proofs.Completeness
import RoadNet.Proofs.Formats
import RoadNet.Proofs.Writing

/-!
# RoadNet.Proofs.FixedPoint

One pass through load and save reaches a fixed point: the text that a robust save of a robust load
writes is loaded and saved strictly, and comes out unchanged (`MapFiles.fixedPoint_of_accepts`).

The argument follows the records. Those that a load keeps are in order (`Assembly.flawless_kept`)
and become the same map on their own (`Assembly.map_kept`), so the map is taken apart to their
canonical form. What the writer leaves of it is still closed and still in canonical form, and
that is all that the second pass needs (`Assembly.saved_eq_self`).
-/

namespace RoadNet

/-! ## Records that are kept -/

/-- A `Closed` part of `Flawless` records is `Flawless`. -/
theorem Flawless.of_sublists {g : RuleRegistry} {r s : RecordSet} (h : Flawless g r)
    (sublists : s.Sublists r) (closed : s.Closed) : Flawless g s where
  distinct := sublists.distinct h.distinct
  closed := closed
  builds x hx := by
    -- A relation becomes the same in any part that holds what it refers to.
    obtain ⟨b, hb⟩ := h.builds x (sublists.relations.subset hx)
    have hwithin : s.Within (Assembly.closed r) := h.closed_eq.symm ▸ sublists.within
    rw [← h.outcome_eq, SelfSufficient.outcome_of_within hwithin closed hx] at hb
    exact ⟨b, hb⟩

namespace Assembly

variable (g : RuleRegistry) (r : RecordSet)

/-- Among the records that are `kept` a relation becomes what it becomes among all. -/
theorem outcome_kept {x : RelationRecord} (hx : x ∈ (kept g r).relations) :
    outcome g r x = BuiltRelation.ofRecord g (.ofRecords (kept g r)) x :=
  SelfSufficient.outcome_of_within (kept_within_closed g r) (kept_closed g r) hx

/-- The records that are `kept` are `Flawless`. -/
theorem flawless_kept : Flawless g (kept g r) where
  distinct := distinct_kept g r
  closed := kept_closed g r
  builds x hx := by
    obtain ⟨b, hb⟩ := outcome_of_mem_kept g r hx
    exact ⟨b, (outcome_kept g r hx).symm.trans hb⟩

/-- The records that are `kept` become the same map on their own. -/
theorem map_kept (keeps : g.KeepsStores) : map g (kept g r) = map g r := by
  have flawless := flawless_kept g r
  have houtcome : ∀ x ∈ (kept g r).relations, outcome g (kept g r) x = outcome g r x :=
    fun x hx => (flawless.outcome_eq x).trans (outcome_kept g r hx).symm
  have hkept : kept g (kept g r) = kept g r := flawless.kept_eq
  have hle : (kept g (kept g r)).Within (kept g r) := by rw [hkept]; exact .refl _
  have hge : (kept g r).Within (kept g (kept g r)) := by rw [hkept]; exact .refl _
  exact (part_of_within keeps hle fun x hx => (houtcome x (hle.relations hx)).symm).antisymm
    (part_of_within keeps hge houtcome)

variable {g r}

/-- An assembled map is taken apart to the canonical form of the records that were `kept`, and
`saveFailures` is empty. -/
theorem saved_map_kept (keeps : g.KeepsStores) :
    (map g r).saveFailures = [] ∧ (map g r).saved = (kept g r).canon := by
  rw [← map_kept g r keeps]
  exact ⟨saveFailures_map keeps (flawless_kept g r), saved_map keeps (flawless_kept g r)⟩

/-- `Flawless` records in canonical form are what their map is taken apart to, without a failure. -/
theorem saved_eq_self (keeps : g.KeepsStores) (flawless : Flawless g r) (canonical : r.Canonical) :
    Settles (fun policy => (map g r).toRecords policy) [] (.ok r) := by
  have hrun := (map g r).settles_toRecords
  rwa [saveFailures_map keeps flawless, saved_map keeps flawless, canonical.canon_eq] at hrun

end Assembly

/-! ## Documents that are read -/

namespace Osm

open Xml (Element)

/-- Whether a text is an XML document under the root element `rootTag` of the format. -/
def Accepts (text : String) : Prop :=
  ∃ root, Element.parse? text = some root ∧ root.name = rootTag

/-- A text that the format `Accepts` is read to records of which no node has a tag under
`Key.elevation`. -/
theorem exists_settles_read (projector : Projector) {text : String} (h : Accepts text) :
    ∃ failures r, Settles (fun policy => read projector policy text) failures (.ok r) ∧
      ∀ n ∈ r.nodes, n.attributes.find? Key.elevation = none := by
  obtain ⟨root, hparse, hroot⟩ := h
  refine ⟨_, _, settles_read_of_parse projector hparse hroot, fun n hn => ?_⟩
  obtain ⟨e, -, he⟩ := List.mem_map.1 (mem_goodOf.1 hn)
  obtain ⟨id, tags, -, hattributes⟩ := exists_of_readNode he
  rw [hattributes, SortedMap.find?_erase, if_pos rfl]

end Osm

/-! ## The second pass -/

namespace MapFiles

open Assembly

/-- `Flawless` records in canonical form that are written as OSM XML: their document loads to their
map, and the map is saved as that document. -/
theorem settles_second_pass {r : RecordSet} (flawless : Flawless .builtin r)
    (canonical : r.Canonical) (h : ∀ n ∈ r.nodes, n.attributes.find? Key.elevation = none) :
    ∃ m, Settles (fun policy => standard.parse "osm" .identity policy
        (Osm.documentText Osm.plainStyle (Osm.written .identity r))) [] (.ok m) ∧
      Settles (fun policy => standard.render "osm" .identity policy m) []
        (.ok (Osm.documentText Osm.plainStyle (Osm.written .identity r))) := by
  have keeps := RuleRegistry.Grown.builtin.keepsStores
  have hsublists := Osm.written_sublists .identity r
  have hflawless : Flawless .builtin (Osm.written .identity r).records :=
    flawless.of_sublists hsublists (PlacedRecords.closed_landed .identity)
  have hassemble := settles_ofRecords .builtin (Osm.written .identity r).records
  rw [failures_eq_nil_iff.2 hflawless] at hassemble
  refine ⟨map .builtin (Osm.written .identity r).records, ?_, ?_⟩
  · simp only [parse_osm (x := standard) rfl]
    exact (Osm.settles_read_written h).bind hassemble
  · simp only [render_osm (x := standard) rfl Osm.ofOptions_empty]
    exact (saved_eq_self keeps hflawless (canonical.of_sublists hsublists)).bind
      (Osm.settles_write_written r)

/-- One pass through load and save reaches a fixed point. Robust `parse` loads every text that
`Osm.Accepts` to a map, and robust `render` saves the map as a text. The strict load of that text
succeeds, and so does the strict save of what it loads to, with the same text. -/
theorem fixedPoint_of_accepts {text : String} (h : Osm.Accepts text) :
    ∃ m loading text' saving m',
      (∀ messages, standard.parse "osm" .identity .robust text messages =
        (.ok m, messages ++ loading)) ∧
      (∀ messages, standard.render "osm" .identity .robust m messages =
        (.ok text', messages ++ saving)) ∧
      (∀ messages, standard.parse "osm" .identity .strict text' messages = (.ok m', messages)) ∧
      ∀ messages, standard.render "osm" .identity .strict m' messages = (.ok text', messages) := by
  have keeps := RuleRegistry.Grown.builtin.keepsStores
  obtain ⟨failures, r, hread, helevation⟩ := Osm.exists_settles_read .identity h
  obtain ⟨hnil, hsaved⟩ := saved_map_kept (r := r) keeps
  have hflawless : Flawless .builtin (kept .builtin r).canon :=
    flawless_canon keeps (flawless_kept .builtin r)
  have hload : Settles (fun policy => standard.parse "osm" .identity policy text)
      (failures ++ Assembly.failures .builtin r) (.ok (map .builtin r)) := by
    simp only [parse_osm (x := standard) rfl]
    exact hread.bind (settles_ofRecords .builtin r)
  have hsave := (map .builtin r).settles_toRecords.bind
    (Osm.settles_write_of_closed .identity Osm.plainStyle RoadMap.saved_closed)
  rw [hsaved] at hsave
  simp only [← render_osm (x := standard) rfl Osm.ofOptions_empty] at hsave
  have hnodes : ∀ n ∈ (kept .builtin r).canon.nodes,
      n.attributes.find? Key.elevation = none := fun n hn =>
    helevation n ((kept_within .builtin r).nodes (mem_sortBy.1 hn))
  obtain ⟨m', hload', hsave'⟩ :=
    settles_second_pass hflawless (RecordSet.canonical_canon _) hnodes
  exact ⟨_, _, _, _, m', hload.robust, hsave.robust, hload'.strict, hsave'.strict⟩

/-- A document with a node that cannot be read, one that does not land on finite coordinates, and a
way that refers to it. -/
def survey : String :=
  "<osm><node id='1' lat='0' lon='0'/><node id='2' lat='1' lon='inf'/><node id='3'/>" ++
    "<way id='4'><nd ref='2'/></way></osm>"

/-- Neither what cannot be read nor what cannot be written comes up again. -/
theorem fixedPoint_survey :
    Osm.Accepts survey ∧ ∃ m loading text' saving m',
      (∀ messages, standard.parse "osm" .identity .robust survey messages =
        (.ok m, messages ++ loading)) ∧
      (∀ messages, standard.render "osm" .identity .robust m messages =
        (.ok text', messages ++ saving)) ∧
      (∀ messages, standard.parse "osm" .identity .strict text' messages = (.ok m', messages)) ∧
      ∀ messages, standard.render "osm" .identity .strict m' messages = (.ok text', messages) := by
  have haccepts : Osm.Accepts survey := by
    have hname : (Xml.Element.parse? survey).map Xml.Element.name = some Osm.rootTag := by
      decide +kernel
    exact Option.map_eq_some_iff.1 hname
  exact ⟨haccepts, fixedPoint_of_accepts haccepts⟩

end MapFiles

end RoadNet
