import RoadNet.Proofs.Canonical
import RoadNet.Proofs.Formats
import RoadNet.Proofs.Writing
import RoadNet.Proofs.XmlCharacters

/-!
# RoadNet.Proofs.StrictSaving

What is loaded strictly is saved strictly in the same format, as far as it has a finite position
(`MapFiles.saves_iff_of_parse`).

A map that is loaded strictly is taken apart to the canonical form of its records without a
failure, so it is up to the writer. YAML is written with any text. XML is not, but a document
yields only texts that XML can carry, so the records read from it (`Osm.unrepresentable_of_read`)
and their canonical form hold no other. What is left are positions: coordinates that are read need
not be finite, and the writers report those that are not.
-/

namespace RoadNet

/-! ## Records that are read from XML -/

namespace Osm

open Xml (Element isXmlText)

/-- Attributes have no flaw exactly if XML can carry the key and the value of each. -/
theorem tagFlaw?_eq_none_iff {a : Attributes} : tagFlaw? a = none ↔
    ∀ key value, a.find? key = some value → isXmlText key = true ∧ isXmlText value = true := by
  rw [tagFlaw?_eq_none]
  exact ⟨fun h key value hfind => h (key, value) (SortedMap.find?_eq_some.1 hfind),
    fun h p hp => h p.1 p.2 (SortedMap.find?_eq_some.2 hp)⟩

/-- An `insert` of texts that XML can carry makes no flaw. -/
theorem tagFlaw?_insert {a : Attributes} (h : tagFlaw? a = none) {key value : String}
    (hkey : isXmlText key = true) (hvalue : isXmlText value = true) :
    tagFlaw? (a.insert key value) = none := by
  rw [tagFlaw?_eq_none_iff] at h ⊢
  intro k v hfind
  rw [SortedMap.find?_insert] at hfind
  split at hfind
  next heq =>
    obtain rfl := Option.some.inj hfind
    exact ⟨heq ▸ hkey, hvalue⟩
  next => exact h k v hfind

theorem tagFlaw?_erase {a : Attributes} (h : tagFlaw? a = none) (key : String) :
    tagFlaw? (a.erase key) = none := by
  rw [tagFlaw?_eq_none_iff] at h ⊢
  intro k v hfind
  rw [SortedMap.find?_erase] at hfind
  split at hfind
  · cases hfind
  · exact h k v hfind

section Readers

variable {kind : RecordKind} {e : Element}

theorem isXmlText_of_required (clean : e.Clean) {id : Option Id} {name value : String}
    (h : required kind id e name = .ok value) : isXmlText value = true := by
  unfold required at h
  split at h
  next hvalue => exact clean.attribute? (hvalue.trans (congrArg some (Except.ok.inj h)))
  next => cases h

/-- The tags that `collectTags` finds in a `Clean` element have no flaw. -/
theorem tagFlaw?_of_collectTags (clean : e.Clean) {id : Option Id} {tags : Attributes}
    (h : collectTags kind id e = .ok tags) : tagFlaw? tags = none := by
  refine foldlM_induction (p := fun tags => tagFlaw? tags = none) h rfl
    fun tag htag tags tags' htags hstep => ?_
  have htag := clean.childrenNamed tag htag
  obtain ⟨key, hkey, hstep⟩ := bind_eq_ok.1 hstep
  obtain ⟨value, hvalue, hstep⟩ := bind_eq_ok.1 hstep
  obtain rfl := Except.ok.inj hstep
  exact tagFlaw?_insert htags (isXmlText_of_required htag hkey) (isXmlText_of_required htag hvalue)

/-- The tags of a node that is read from a `Clean` element have no flaw. -/
theorem tagFlaw?_of_readNode (clean : e.Clean) {projector : Projector} {n : NodeRecord}
    (h : readNode projector e = .ok n) : tagFlaw? n.attributes = none := by
  obtain ⟨id, tags, htags, hattributes⟩ := exists_of_readNode h
  rw [hattributes]
  exact tagFlaw?_erase (tagFlaw?_of_collectTags clean htags) Key.elevation

theorem tagFlaw?_of_readWay (clean : e.Clean) {w : WayRecord} (h : readWay e = .ok w) :
    tagFlaw? w.attributes = none := by
  obtain ⟨id, -, h⟩ := bind_eq_ok.1 h
  obtain ⟨nodes, -, h⟩ := bind_eq_ok.1 h
  obtain ⟨attributes, hattributes, h⟩ := bind_eq_ok.1 h
  obtain rfl := Except.ok.inj h
  exact tagFlaw?_of_collectTags clean hattributes

theorem isXmlText_of_readMember (clean : e.Clean) {id : Id} {m : Member}
    (h : readMember id e = .ok m) : isXmlText m.role = true := by
  obtain ⟨kindName, -, h⟩ := bind_eq_ok.1 h
  split at h
  · cases h
  · obtain ⟨ref, -, h⟩ := bind_eq_ok.1 h
    obtain ⟨role, hrole, h⟩ := bind_eq_ok.1 h
    obtain rfl := Except.ok.inj h
    exact isXmlText_of_required clean hrole

/-- A relation that is read from a `Clean` element has no flaw. -/
theorem relationFlaw?_of_readRelation (clean : e.Clean) {x : RelationRecord}
    (h : readRelation e = .ok x) : relationFlaw? x = none := by
  obtain ⟨id, -, h⟩ := bind_eq_ok.1 h
  obtain ⟨members, hmembers, h⟩ := bind_eq_ok.1 h
  obtain ⟨attributes, hattributes, h⟩ := bind_eq_ok.1 h
  obtain rfl := Except.ok.inj h
  refine relationFlaw?_eq_none.2 ⟨fun m hm => ?_, tagFlaw?_of_collectTags clean hattributes⟩
  obtain ⟨child, hchild, hread⟩ := exists_of_mem_mapM hmembers hm
  exact isXmlText_of_readMember (clean.childrenNamed child hchild) hread

/-- XML can carry the `recordsBelow` an element that is `Clean`. -/
theorem unrepresentable_recordsBelow (projector : Projector) (clean : e.Clean) :
    unrepresentable (recordsBelow projector e) = [] := by
  have hclean : ∀ kind, ∀ c ∈ recordElements e kind, c.Clean := fun kind c hc =>
    clean.childrenNamed c (List.mem_filter.1 hc).1
  refine unrepresentable_eq_nil_iff.2 ⟨fun n hn => ?_, fun w hw => ?_, fun x hx => ?_⟩
  · obtain ⟨c, hc, hread⟩ := List.mem_map.1 (mem_goodOf.1 hn)
    exact tagFlaw?_of_readNode (hclean .node c hc) hread
  · obtain ⟨c, hc, hread⟩ := List.mem_map.1 (mem_goodOf.1 hw)
    exact tagFlaw?_of_readWay (hclean .way c hc) hread
  · obtain ⟨c, hc, hread⟩ := List.mem_map.1 (mem_goodOf.1 hx)
    exact relationFlaw?_of_readRelation (hclean .relation c hc) hread

end Readers

variable {r : RecordSet}

/-- XML can carry what `Osm.read` reads from it. -/
theorem unrepresentable_of_read {projector : Projector} {policy : Policy} {text : String}
    {messages : List String} (h : (read projector policy text messages).1 = .ok r) :
    unrepresentable r = [] := by
  obtain ⟨root, hparse, rfl⟩ := exists_of_read h
  exact unrepresentable_recordsBelow projector (Element.clean_of_parse? hparse)

/-- The canonical form has the texts of the records, and the marks of areas. -/
theorem unrepresentable_canon (h : unrepresentable r = []) : unrepresentable r.canon = [] := by
  obtain ⟨hnodes, hways, hrelations⟩ := unrepresentable_eq_nil_iff.1 h
  refine unrepresentable_eq_nil_iff.2 ⟨fun n hn => hnodes n (mem_sortBy.1 hn), fun w hw => ?_,
    fun x hx => ?_⟩
  · obtain ⟨v, hv, rfl⟩ := RecordSet.mem_canon_ways.1 hw
    split
    · exact tagFlaw?_insert (hways v hv) (by decide) (by decide)
    · exact hways v hv
  · obtain ⟨y, hy, rfl⟩ := RecordSet.mem_canon_relations.1 hx
    obtain ⟨hroles, htags⟩ := relationFlaw?_eq_none.1 (hrelations y hy)
    split
    · refine relationFlaw?_eq_none.2 ⟨fun m hm => hroles m ?_, htags⟩
      simp only [RelationRecord.laneletForm, RelationRecord.role, List.mem_append,
        List.mem_filter] at hm
      tauto
    · exact relationFlaw?_eq_none.2 ⟨fun m hm => hroles m (mem_sortBy.1 hm), htags⟩

/-- `Closed` records that XML can carry: only positions stand in the way of `Osm.write`. -/
theorem settles_write_of_eq_nil (projector : Projector) (style : Style) (closed : r.Closed)
    (h : unrepresentable r = []) :
    Settles (fun policy => write projector style policy r)
      (PlacedRecords.landingFailures projector r)
      (.ok (documentText style (PlacedRecords.landed projector r))) := by
  simp only [write, dropUnrepresentable_of_eq_nil h, pure_bind]
  exact (PlacedRecords.settles_ofRecords_of_closed projector closed).map (documentText style)

end Osm

/-! ## Positions -/

/-- Whether all coordinates are finite. -/
def Position.IsFinite (p : Position) : Prop :=
  isFiniteFloat p.x = true ∧ isFiniteFloat p.y = true ∧ isFiniteFloat p.z = true

theorem isFinite_identity {p : Position} :
    PlacedRecords.isFinite (Projector.identity.reverse p) = true ↔ p.IsFinite :=
  Osm.isFinite_iff.trans and_left_comm

namespace PlacedRecords

open Osm (lostNodes lostFailures place)

variable {projector : Projector} {r : RecordSet}

/-- Placing `Closed` records comes across nothing exactly if all nodes land on finite
coordinates. -/
theorem landingFailures_eq_nil_iff (closed : r.Closed) : landingFailures projector r = [] ↔
    ∀ n ∈ r.nodes, isFinite (projector.reverse n.position) = true := by
  refine Iff.trans ⟨fun h => ?_, landingFailures_of_eq_nil projector closed⟩
    Osm.lostNodes_eq_nil_iff
  exact List.map_eq_nil_iff.1 (List.append_eq_nil_iff.1 h).1

/-- The first failure of placing `Closed` records is that of a node, `notFinite`. -/
theorem exists_of_firstFailure (closed : r.Closed) {out : α} {f : Failure}
    (h : firstFailure (landingFailures projector r) (.ok out) = .error f) :
    ∃ n ∈ r.nodes, ¬isFinite (projector.reverse n.position) = true ∧
      f = .malformedRecord .node (some n.id) .notFinite := by
  cases hlost : lostNodes projector r with
  | nil =>
    rw [landingFailures_of_eq_nil projector closed hlost] at h
    cases h
  | cons lost rest =>
    rw [landingFailures, lostFailures, hlost] at h
    have hmem : lost ∈ lostNodes projector r := hlost ▸ List.mem_cons_self
    obtain ⟨hplaced, hfinite⟩ := List.mem_filter.1 hmem
    obtain ⟨n, hn, rfl⟩ := List.mem_map.1 hplaced
    refine ⟨n, hn, fun hplace => ?_, (Except.error.inj h).symm⟩
    rw [place, hplace] at hfinite
    cases hfinite

end PlacedRecords

/-! ## Maps that are loaded strictly -/

namespace Assembly

open PlacedRecords (landingFailures landingFailures_eq_nil_iff exists_of_firstFailure)

variable {g : RuleRegistry} {r : RecordSet} (keeps : g.KeepsStores) (flawless : Flawless g r)

include keeps flawless

/-- An assembled map is saved by a writer that only positions stand in the way of
(`landingFailures`). -/
theorem settles_save {writer : RecordWriter} {text : String}
    (h : Settles (fun policy => writer policy r.canon) (landingFailures .identity r.canon)
      (.ok text)) :
    Settles (fun policy => (map g r).toRecords policy >>= fun records => writer policy records)
      (landingFailures .identity r.canon) (.ok text) := by
  have hsave := (map g r).settles_toRecords
  rw [saveFailures_map keeps flawless, saved_map keeps flawless] at hsave
  exact hsave.bind h

/-- Such a save succeeds exactly if all points have finite coordinates, and ends else with the
failure of a point that has not. -/
theorem strict_of_settles_save {run : Policy → Run String} {text : String}
    (h : Settles run (landingFailures .identity r.canon) (.ok text)) :
    ((∃ text', ∀ messages, run .strict messages = (.ok text', messages)) ↔
      ∀ p ∈ (map g r).points.values, p.position.IsFinite) ∧
    ∀ messages f, (run .strict messages).1 = .error f →
      ∃ p ∈ (map g r).points.values, ¬p.position.IsFinite ∧
        f = .malformedRecord .node (some p.id) .notFinite := by
  have closed : r.canon.Closed := flawless.closed.canon
  -- The nodes of the canonical form are the points of the map.
  have hnodes : r.canon.nodes = (map g r).points.values.map RoadMap.nodeRecord :=
    (values_points keeps flawless).symm
  have hnil : landingFailures .identity r.canon = [] ↔
      ∀ p ∈ (map g r).points.values, p.position.IsFinite := by
    simp only [landingFailures_eq_nil_iff closed, hnodes, List.forall_mem_map, isFinite_identity]
    rfl
  refine ⟨?_, fun messages f hf => ?_⟩
  · rw [← hnil]
    constructor
    · rintro ⟨text', hrun⟩
      exact h.eq_nil_of_strict (congrArg Prod.fst (hrun []))
    · intro hnone
      refine ⟨text, fun messages => ?_⟩
      rw [h.strict, hnone]
      rfl
  · rw [h.strict] at hf
    obtain ⟨n, hn, hinfinite, rfl⟩ := exists_of_firstFailure closed hf
    rw [hnodes] at hn
    obtain ⟨p, hp, rfl⟩ := List.mem_map.1 hn
    exact ⟨p, hp, mt isFinite_identity.2 hinfinite, rfl⟩

end Assembly

namespace MapFiles

open Assembly PlacedRecords

variable {x : MapFiles} {format text : String} {messages : List String} {m : RoadMap}

/-- What a map that is loaded strictly is made of, and how `render` saves it in the same format. -/
theorem exists_settles_render (bundled : x.formats = .bundled) (plain : x.options = SortedMap.empty)
    (keeps : x.rules.KeepsStores)
    (h : (x.parse format .identity .strict text messages).1 = .ok m) :
    ∃ r text', Flawless x.rules r ∧ m = map x.rules r ∧
      Settles (fun policy => x.render format .identity policy m)
        (landingFailures .identity r.canon) (.ok text') := by
  obtain ⟨make, _, hmake, -⟩ := exists_of_run_bind h
  have hselect : x.formats.select Format.reader "" (some format) = .ok make :=
    congrArg Prod.fst hmake
  rw [bundled, FormatRegistry.select_bundled_eq_ok] at hselect
  rcases hselect with ⟨rfl, -⟩ | ⟨rfl, -⟩
  · rw [parse_osm bundled] at h
    obtain ⟨r, later, hread, hassemble⟩ := exists_of_run_bind h
    obtain ⟨flawless, rfl⟩ := strict_eq_ok.1 hassemble
    have hcarried := Osm.unrepresentable_of_read (congrArg Prod.fst hread)
    have hsave := settles_save keeps flawless (Osm.settles_write_of_eq_nil .identity
      Osm.plainStyle flawless.closed.canon (Osm.unrepresentable_canon hcarried))
    simp only [← render_osm bundled (plain ▸ Osm.ofOptions_empty)] at hsave
    exact ⟨r, _, flawless, rfl, hsave⟩
  · rw [parse_yaml bundled] at h
    obtain ⟨r, later, -, hassemble⟩ := exists_of_run_bind h
    obtain ⟨flawless, rfl⟩ := strict_eq_ok.1 hassemble
    have hsave := settles_save keeps flawless
      (Yaml.settles_write_of_closed .identity flawless.closed.canon)
    simp only [← render_yaml bundled] at hsave
    exact ⟨r, _, flawless, rfl, hsave⟩

/-- What strict `parse` loads is saved by strict `render` in the same format, with the built-in
rules or any that keep what they are given (`keeps`), exactly if all points have finite coordinates
(`IsFinite`). If it is not saved, one of the points that have not is to blame. -/
theorem saves_iff_of_parse (bundled : x.formats = .bundled) (plain : x.options = SortedMap.empty)
    (keeps : x.rules.KeepsStores)
    (h : (x.parse format .identity .strict text messages).1 = .ok m) :
    ((∃ text', ∀ messages, x.render format .identity .strict m messages = (.ok text', messages)) ↔
      ∀ p ∈ m.points.values, p.position.IsFinite) ∧
    ∀ messages f, (x.render format .identity .strict m messages).1 = .error f →
      ∃ p ∈ m.points.values, ¬p.position.IsFinite ∧
        f = .malformedRecord .node (some p.id) .notFinite := by
  obtain ⟨r, text', flawless, rfl, hrender⟩ := exists_settles_render bundled plain keeps h
  exact strict_of_settles_save keeps flawless hrender

/-- A document with a node at a latitude, with a tag that needs escapes, and an area. -/
def milestone (latitude : String) : String :=
  "<osm><node id='1' lat='" ++ latitude ++ "' lon='-1'><tag k='&lt;' v='a&#9;b'/></node>" ++
    "<way id='2'><nd ref='1'/><tag k='area' v='true'/></way></osm>"

/-- At a latitude that is a number the `milestone` is loaded and saved strictly. -/
theorem saves_milestone :
    ∃ m, (standard.parse "osm" .identity .strict (milestone "0.5") []).1 = .ok m ∧
      ∃ text', ∀ messages,
        standard.render "osm" .identity .strict m messages = (.ok text', messages) := by
  have hload : (standard.parse "osm" .identity .strict (milestone "0.5") []).1.toOption.map
      (fun m => m.points.values.all fun p => isFinite (Projector.identity.reverse p.position)) =
        some true := by decide +kernel
  obtain ⟨m, hm, hfinite⟩ := Option.map_eq_some_iff.1 hload
  have hm := toOption_eq_some.1 hm
  have hsave := saves_iff_of_parse rfl rfl RuleRegistry.Grown.builtin.keepsStores hm
  exact ⟨m, hm, hsave.1.2 fun p hp => isFinite_identity.1 (List.all_eq_true.1 hfinite p hp)⟩

/-- A latitude that is not a number is loaded strictly, but not saved. -/
theorem unsaved_milestone :
    ∃ m, (standard.parse "osm" .identity .strict (milestone "NaN") []).1 = .ok m ∧
      (standard.render "osm" .identity .strict m []).1 =
        .error (.malformedRecord .node (some 1) .notFinite) := by
  have hload : (standard.parse "osm" .identity .strict (milestone "NaN") []).1.toOption.map
      (fun m => decide ((standard.render "osm" .identity .strict m []).1 =
        .error (.malformedRecord .node (some 1) .notFinite))) = some true := by decide +kernel
  obtain ⟨m, hm, hsave⟩ := Option.map_eq_some_iff.1 hload
  exact ⟨m, toOption_eq_some.1 hm, of_decide_eq_true hsave⟩

end MapFiles

end RoadNet
