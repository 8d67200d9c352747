import RoadNet.Proofs.Pruning
import RoadNet.Proofs.Selection

/-!
# RoadNet.Proofs.Formats

What the bundled formats report does not depend on the policy, and what a single record is to
blame for is reported as a failure of that record.

* `Osm.settled_read`, `Osm.settled_write`, `Yaml.settled_read`, `Yaml.settled_write` — the
  readers and writers;
* `SettledMaker` — the same of what a reader or writer is made by, whatever the options;
* `settledMaker_reader`, `settledMaker_writer` — the same of whatever is selected from the
  bundled formats;
* `Osm.settles_read_of_parse` — which records a document is read to, and which failures it comes
  across;
* `MapFiles.parse_osm`, `MapFiles.render_osm` and their like — loading and saving under the names
  of the bundled formats.
-/

namespace RoadNet

/-! ## Positions -/

/-- Projecting records reports alike under both policies (`Settled`). -/
theorem Projected.settled_ofRecords (projector : Projector) (r : RecordSet) :
    Settled fun policy => ofRecords projector policy r := by
  unfold ofRecords
  dsimp only
  split
  · exact settled_pure _
  · refine Settled.bind (Settles.settled (settles_reportAll fun f hf => ?_)) fun _ =>
      Settled.bind (RecordSet.settles_prune _).settled fun p => settled_pure _
    obtain ⟨p, -, rfl⟩ := List.mem_map.1 hf
    rfl

theorem PlacedRecords.settled_ofRecords (projector : Projector) (r : RecordSet) :
    Settled fun policy => ofRecords projector policy r :=
  (Projected.settled_ofRecords projector r).bind fun _ => settled_pure _

/-! ## OSM -/

namespace Osm

open Xml (Element)

/-- A missing attribute is a failure of one record. -/
theorem skippable_required (kind : RecordKind) (id : Option Id) (e : Element) (name : String) :
    Skippable (required kind id e name) := by
  unfold required
  split
  · exact .ok _
  · exact .error rfl

/-- So is a value that cannot be read. -/
theorem skippable_parsed (reader : List Char → Option α) (kind : RecordKind) (id : Option Id)
    (e : Element) (name : String) : Skippable (parsed reader kind id e name) := by
  unfold parsed
  refine (skippable_required kind id e name).bind fun raw => ?_
  split
  · exact .ok _
  · exact .error rfl

theorem skippable_collectTags (kind : RecordKind) (id : Option Id) (e : Element) :
    Skippable (collectTags kind id e) :=
  .foldlM (fun _ tag => (skippable_required kind id tag "k").bind fun _ =>
    (skippable_required kind id tag "v").bind fun _ => .ok _) _ _

theorem skippable_takeElevation (id : Id) (tags : Attributes) :
    Skippable (takeElevation id tags) := by
  unfold takeElevation
  split
  · exact .ok _
  · split
    · exact .ok _
    · exact .error rfl

theorem skippable_readNode (projector : Projector) (e : Element) :
    Skippable (readNode projector e) := by
  unfold readNode
  refine (skippable_parsed readId? .node none e "id").bind fun id => ?_
  refine (skippable_parsed readFloat? .node (some id) e "lat").bind fun lat => ?_
  refine (skippable_parsed readFloat? .node (some id) e "lon").bind fun lon => ?_
  refine (skippable_collectTags .node (some id) e).bind fun tags => ?_
  exact (skippable_takeElevation id tags).bind fun p => .ok _

theorem skippable_readWay (e : Element) : Skippable (readWay e) := by
  unfold readWay
  refine (skippable_parsed readId? .way none e "id").bind fun id => ?_
  refine (FailsOnly.mapM (fun nd => skippable_parsed readId? .way (some id) nd "ref") _).bind
    fun nodes => ?_
  exact (skippable_collectTags .way (some id) e).bind fun attributes => .ok _

theorem skippable_readMember (id : Id) (e : Element) : Skippable (readMember id e) := by
  unfold readMember
  refine (skippable_required .relation (some id) e "type").bind fun kindName => ?_
  split
  · exact .error rfl
  · exact (skippable_parsed readId? .relation (some id) e "ref").bind fun ref =>
      (skippable_required .relation (some id) e "role").bind fun role => .ok _

theorem skippable_readRelation (e : Element) : Skippable (readRelation e) := by
  unfold readRelation
  refine (skippable_parsed readId? .relation none e "id").bind fun id => ?_
  refine (FailsOnly.mapM (skippable_readMember id) _).bind fun members => ?_
  exact (skippable_collectTags .relation (some id) e).bind fun attributes => .ok _

/-- The records that `recordElements` below a root are read as, without those that fail. -/
def recordsBelow (projector : Projector) (root : Element) : RecordSet where
  nodes := goodOf ((recordElements root .node).map (readNode projector))
  ways := goodOf ((recordElements root .way).map readWay)
  relations := goodOf ((recordElements root .relation).map readRelation)

/-- The failures among the records below a root, in order. -/
def failuresBelow (projector : Projector) (root : Element) : List Failure :=
  failuresOf ((recordElements root .node).map (readNode projector)) ++
    (failuresOf ((recordElements root .way).map readWay) ++
      failuresOf ((recordElements root .relation).map readRelation))

/-- `readRecords` comes across `failuresBelow` and results in `recordsBelow`. -/
theorem settles_readRecords (projector : Projector) (root : Element) :
    Settles (fun policy => readRecords projector policy root) (failuresBelow projector root)
      (.ok (recordsBelow projector root)) :=
  (settles_keepGood_map (skippable_readNode projector) _).bind
    ((settles_keepGood_map skippable_readWay _).bind
      ((settles_keepGood_map skippable_readRelation _).map fun relations =>
        (⟨_, _, relations⟩ : RecordSet)))

/-- Reading OSM XML is `Settled`: a text that is no such document fails as a whole. -/
theorem settled_read (projector : Projector) (text : String) :
    Settled fun policy => read projector policy text := by
  unfold read
  split
  · exact (settles_throw rfl).settled
  · split
    · exact (settles_readRecords projector _).settled
    · exact (settles_throw rfl).settled

/-- Reading a document whose root is `rootTag` comes across `failuresBelow` and results in
`recordsBelow`. -/
theorem settles_read_of_parse (projector : Projector) {text : String} {root : Element}
    (hparse : Element.parse? text = some root) (hroot : root.name = rootTag) :
    Settles (fun policy => read projector policy text) (failuresBelow projector root)
      (.ok (recordsBelow projector root)) := by
  have hread : ∀ policy, read projector policy text = readRecords projector policy root := by
    intro policy
    rw [read, hparse]
    exact if_pos hroot
  simp only [hread]
  exact settles_readRecords projector root

/-- What `Osm.read` results in are the `recordsBelow` the root of a document. -/
theorem exists_of_read {projector : Projector} {policy : Policy} {text : String}
    {messages : List String} {r : RecordSet}
    (h : (read projector policy text messages).1 = .ok r) :
    ∃ root, Element.parse? text = some root ∧ r = recordsBelow projector root := by
  cases hparse : Element.parse? text with
  | none =>
    rw [read, hparse] at h
    cases h
  | some root =>
    by_cases hroot : root.name = rootTag
    · have hr := (settles_read_of_parse projector hparse hroot).eq_of_ok h
      exact ⟨root, rfl, (Except.ok.inj hr).symm⟩
    · rw [read, hparse] at h
      dsimp only at h
      rw [if_neg hroot] at h
      cases h

theorem settled_dropUnrepresentable (r : RecordSet) :
    Settled fun policy => dropUnrepresentable policy r := by
  unfold dropUnrepresentable
  dsimp only
  split
  · exact settled_pure _
  · refine Settled.bind (Settles.settled (settles_reportAll fun f hf => ?_)) fun _ =>
      Settled.bind (RecordSet.settles_prune _).settled fun p => settled_pure _
    obtain ⟨⟨kind, id, flaw⟩, -, rfl⟩ := List.mem_map.1 hf
    rfl

/-- Writing OSM XML is `Settled`, whatever the `style`. -/
theorem settled_write (projector : Projector) (style : Style) (r : RecordSet) :
    Settled fun policy => write projector style policy r :=
  (settled_dropUnrepresentable r).bind fun representable =>
    (PlacedRecords.settled_ofRecords projector representable).bind fun _ => settled_pure _

end Osm

/-! ## YAML -/

namespace Yaml

/-- A value that does not decode is a failure of one record. -/
theorem skippable_decodeRecord (kind : RecordKind) (decode : Value → Except Mismatch α)
    (v : Value) : Skippable (decodeRecord kind decode v) := by
  unfold decodeRecord
  split
  · exact .ok _
  · exact .error rfl

/-- So is a tag that is not a scalar. -/
theorem skippable_attributesOf (kind : RecordKind) (id : Id) (tags : SortedMap String Value) :
    Skippable (attributesOf kind id tags) := by
  refine .foldlM (fun a e => ?_) _ _
  split
  · exact .ok _
  · exact .error rfl

theorem skippable_readNode (projector : Projector) (v : Value) :
    Skippable (readNode projector v) :=
  (skippable_decodeRecord .node decodeNode v).bind fun n =>
    (skippable_attributesOf .node n.id n.tags).bind fun _ => .ok _

theorem skippable_readWay (v : Value) : Skippable (readWay v) :=
  (skippable_decodeRecord .way decodeWay v).bind fun w =>
    (skippable_attributesOf .way w.id w.tags).bind fun _ => .ok _

theorem skippable_readRelation (v : Value) : Skippable (readRelation v) :=
  (skippable_decodeRecord .relation decodeRelation v).bind fun r =>
    (skippable_attributesOf .relation r.id r.tags).bind fun _ => .ok _

/-- The records that those of a document are read as, without those that fail. -/
def recordsOf (projector : Projector) (d : Document) : RecordSet where
  nodes := goodOf (d.nodes.map (readNode projector))
  ways := goodOf (d.ways.map readWay)
  relations := goodOf (d.relations.map readRelation)

/-- The failures among the records of a document, in order. -/
def failuresIn (projector : Projector) (d : Document) : List Failure :=
  failuresOf (d.nodes.map (readNode projector)) ++
    (failuresOf (d.ways.map readWay) ++ failuresOf (d.relations.map readRelation))

/-- `readRecords` comes across `failuresIn` and results in `recordsOf`. -/
theorem settles_readRecords (projector : Projector) (d : Document) :
    Settles (fun policy => readRecords projector policy d) (failuresIn projector d)
      (.ok (recordsOf projector d)) :=
  (settles_keepGood_map (skippable_readNode projector) _).bind
    ((settles_keepGood_map skippable_readWay _).bind
      ((settles_keepGood_map skippable_readRelation _).map fun relations =>
        (⟨_, _, relations⟩ : RecordSet)))

/-- Reading YAML is `Settled`: a text that is no such document fails as a whole. -/
theorem settled_read (projector : Projector) (text : String) :
    Settled fun policy => read projector policy text := by
  unfold read
  split
  · exact (settles_throw rfl).settled
  · exact (settles_readRecords projector _).settled

/-- What `Yaml.read` results in are the `recordsOf` a document, all of them if the policy is
strict. -/
theorem exists_of_read {projector : Projector} {policy : Policy} {text : String}
    {messages : List String} {r : RecordSet}
    (h : (read projector policy text messages).1 = .ok r) :
    ∃ d, Document.ofText? text = some d ∧ r = recordsOf projector d ∧
      (policy = .strict → failuresIn projector d = []) := by
  cases hd : Document.ofText? text with
  | none =>
    rw [read, hd] at h
    cases h
  | some d =>
    rw [read, hd] at h
    have hsettles := settles_readRecords projector d
    refine ⟨d, rfl, (Except.ok.inj (hsettles.eq_of_ok h)).symm, ?_⟩
    rintro rfl
    exact hsettles.eq_nil_of_strict h

/-- Writing YAML is `Settled`. -/
theorem settled_write (projector : Projector) (r : RecordSet) :
    Settled fun policy => write projector policy r :=
  (PlacedRecords.settled_ofRecords projector r).bind fun _ => settled_pure _

end Yaml

/-! ## Options -/

/-- A computation outside of any record: no failure is of record level (`isRecordLevel`), so a
robust run ends with it too. -/
abbrev Unskippable (x : Except Failure α) : Prop := FailsOnly (fun f => f.isRecordLevel = false) x

/-- An option with a value that is not allowed ends a run. -/
theorem Options.unskippable_choice (o : Options) (key : String) (allowed : List String) :
    Unskippable (o.choice key allowed) := by
  unfold choice
  dsimp only
  split
  · exact .ok _
  · split
    · exact .ok _
    · exact .error rfl
  · exact .error rfl

theorem Options.unskippable_flag (o : Options) (key : String) : Unskippable (o.flag key) := by
  unfold flag
  split
  · exact .ok _
  · exact .ok _
  · exact .error rfl

theorem Osm.Style.unskippable_ofOptions (o : Options) : Unskippable (Style.ofOptions o) :=
  (o.unskippable_choice uploadOption uploadValues).bind fun _ =>
    (o.unskippable_flag elevationOption).bind fun _ => .ok _

/-! ## Selected formats -/

/-- What makes readers or writers that are `Settled`, and whose own failures are `Unskippable`. -/
def SettledMaker {α β : Type}
    (make : Projector → Options → Except Failure (Policy → α → Run β)) : Prop :=
  ∀ projector options, Unskippable (make projector options) ∧
    ∀ run, make projector options = .ok run → ∀ input, Settled fun policy => run policy input

/-- A maker that takes any options is a `SettledMaker` if what it makes is `Settled`. -/
theorem settledMaker_ok {α β : Type} {run : Projector → Policy → α → Run β}
    (h : ∀ projector input, Settled fun policy => run projector policy input) :
    SettledMaker fun projector _ => .ok (run projector) := by
  refine fun projector options => ⟨.ok _, fun run' hrun input => ?_⟩
  obtain rfl := Except.ok.inj hrun
  exact h projector input

theorem Osm.settledMaker_write :
    SettledMaker fun projector options => (Style.ofOptions options).map (write projector) := by
  refine fun projector options => ⟨(Style.unskippable_ofOptions options).map _, ?_⟩
  intro run hrun input
  obtain ⟨style, -, rfl⟩ := map_eq_ok.1 hrun
  exact settled_write projector style input

namespace FormatRegistry

variable {g : FormatRegistry} {capability : Format → Option α} {path : String}
variable {name : Option String}

/-- What `select` results in is a capability of a registered format. -/
theorem exists_of_select {found : α} (h : g.select capability path name = .ok found) :
    ∃ f ∈ g.formats, capability f = some found := by
  have hfound : g.selected? capability path name = some found := by
    rw [select_eq] at h
    cases hselected : g.selected? capability path name <;> simp_all
  cases name with
  | some name =>
    obtain ⟨f, hf, hcapability⟩ := Option.bind_eq_some_iff.1 hfound
    exact ⟨f, List.mem_of_find?_eq_some hf, hcapability⟩
  | none =>
    obtain ⟨extension, -, hfirst⟩ := Option.bind_eq_some_iff.1 hfound
    obtain ⟨f, hf, hcapability⟩ := List.exists_of_findSome?_eq_some hfirst
    exact ⟨f, hf, (ofExtension_eq_some.1 hcapability).2⟩

/-- A failure of `select` is `Unskippable`. -/
theorem unskippable_select : Unskippable (g.select capability path name) := by
  rw [select_eq]
  cases g.selected? capability path name with
  | none => exact .error rfl
  | some found => exact .ok _

/-- Every reader of the `bundled` formats comes from a `SettledMaker`. -/
theorem settledMaker_reader {make : MapFiles.MakeReader}
    (h : bundled.select Format.reader path name = .ok make) : SettledMaker make := by
  obtain ⟨f, hf, hreader⟩ := exists_of_select h
  simp only [bundled, List.mem_cons, List.not_mem_nil, or_false] at hf
  rcases hf with rfl | rfl
  · exact Option.some.inj hreader ▸ settledMaker_ok Osm.settled_read
  · exact Option.some.inj hreader ▸ settledMaker_ok Yaml.settled_read

/-- Every writer of the `bundled` formats comes from a `SettledMaker`. -/
theorem settledMaker_writer {make : MapFiles.MakeWriter}
    (h : bundled.select Format.writer path name = .ok make) : SettledMaker make := by
  obtain ⟨f, hf, hwriter⟩ := exists_of_select h
  simp only [bundled, List.mem_cons, List.not_mem_nil, or_false] at hf
  rcases hf with rfl | rfl
  · exact Option.some.inj hwriter ▸ Osm.settledMaker_write
  · exact Option.some.inj hwriter ▸ settledMaker_ok Yaml.settled_write

/-- The capabilities that `select` finds by the names of the `bundled` formats. -/
theorem select_bundled_eq_ok {name : String} {found : α} :
    bundled.select capability "" (some name) = .ok found ↔
      name = "osm" ∧ capability Osm.format = some found ∨
        name = "yaml" ∧ capability Yaml.format = some found := by
  have hnodup : bundled.names.Nodup := by decide
  rw [select_eq_ok hnodup]
  constructor
  · rintro ⟨f, hf, hcapability⟩
    generalize hname : some name = selected at hf
    cases hf with
    | byExtension => cases hname
    | byName hf =>
      obtain rfl := Option.some.inj hname
      simp only [bundled, List.mem_cons, List.not_mem_nil, or_false] at hf
      rcases hf with rfl | rfl
      · exact .inl ⟨rfl, hcapability⟩
      · exact .inr ⟨rfl, hcapability⟩
  · rintro (⟨rfl, hcapability⟩ | ⟨rfl, hcapability⟩)
    · exact ⟨Osm.format, .byName (f := Osm.format) (.head _), hcapability⟩
    · exact ⟨Yaml.format, .byName (f := Yaml.format) (.tail _ (.head _)), hcapability⟩

end FormatRegistry

/-! ## Texts of named formats -/

namespace MapFiles

variable {x : MapFiles} {format : String} {projector : Projector} {policy : Policy}

/-- `parse` reads the text with the reader that the options make (`hreader`), then assembles the
records. -/
theorem parse_eq {make : MakeReader} {reader : RecordReader} {text : String}
    (hmake : x.formats.select Format.reader "" (some format) = .ok make)
    (hreader : make projector x.options = .ok reader) :
    x.parse format projector policy text =
      reader policy text >>= fun records => RoadMap.ofRecords x.rules policy records := by
  rw [parse, hmake]
  change x.readMap make projector policy text = _
  rw [readMap, hreader]
  rfl

/-- `render` takes the map apart, then writes its records with the writer that the options make
(`hwriter`). -/
theorem render_eq {make : MakeWriter} {writer : RecordWriter} {m : RoadMap}
    (hmake : x.formats.select Format.writer "" (some format) = .ok make)
    (hwriter : make projector x.options = .ok writer) :
    x.render format projector policy m =
      m.toRecords policy >>= fun records => writer policy records := by
  rw [render, hmake]
  change x.writeMap make projector policy m = _
  rw [writeMap, hwriter]
  rfl

section Bundled

variable (bundled : x.formats = .bundled)

include bundled

theorem parse_osm (projector : Projector) (policy : Policy) (text : String) :
    x.parse "osm" projector policy text = Osm.read projector policy text >>= fun records =>
      RoadMap.ofRecords x.rules policy records := by
  have hmake : x.formats.select Format.reader "" (some "osm") =
      .ok fun projector _ => .ok (Osm.read projector) := by
    rw [bundled]
    exact FormatRegistry.select_bundled_eq_ok.2 (.inl ⟨rfl, rfl⟩)
  exact parse_eq hmake rfl

theorem parse_yaml (projector : Projector) (policy : Policy) (text : String) :
    x.parse "yaml" projector policy text = Yaml.read projector policy text >>= fun records =>
      RoadMap.ofRecords x.rules policy records := by
  have hmake : x.formats.select Format.reader "" (some "yaml") =
      .ok fun projector _ => .ok (Yaml.read projector) := by
    rw [bundled]
    exact FormatRegistry.select_bundled_eq_ok.2 (.inr ⟨rfl, rfl⟩)
  exact parse_eq hmake rfl

theorem render_osm {style : Osm.Style} (h : Osm.Style.ofOptions x.options = .ok style)
    (projector : Projector) (policy : Policy) (m : RoadMap) :
    x.render "osm" projector policy m = m.toRecords policy >>= fun records =>
      Osm.write projector style policy records := by
  have hmake : x.formats.select Format.writer "" (some "osm") =
      .ok fun projector options => (Osm.Style.ofOptions options).map (Osm.write projector) := by
    rw [bundled]
    exact FormatRegistry.select_bundled_eq_ok.2 (.inl ⟨rfl, rfl⟩)
  exact render_eq hmake (map_eq_ok.2 ⟨style, h, rfl⟩)

theorem render_yaml (projector : Projector) (policy : Policy) (m : RoadMap) :
    x.render "yaml" projector policy m = m.toRecords policy >>= fun records =>
      Yaml.write projector policy records := by
  have hmake : x.formats.select Format.writer "" (some "yaml") =
      .ok fun projector _ => .ok (Yaml.write projector) := by
    rw [bundled]
    exact FormatRegistry.select_bundled_eq_ok.2 (.inr ⟨rfl, rfl⟩)
  exact render_eq hmake rfl

end Bundled

end MapFiles

end RoadNet
