import RoadNet.Proofs.Attempts
import RoadNet.Proofs.KeyOrder
import RoadNet.Yaml.Record

/-!
# RoadNet.Proofs.YamlRecords

Records encoded as YAML values and decoded again. Nothing is lost: identifiers are whole numbers
of 64 bits, positions are numbers, tags are text whatever they look like, and a field that is left
out stands for the value that it would have.

* `Field.putAll` — the fields of a struct, decoded one after the other;
* `attributesOf_mapValues` — tags that were attributes spell out these attributes;
* `readNode_encodeNode`, `readWay_encodeWay`, `readRelation_encodeRelation` — the records come back.
-/

namespace RoadNet.Yaml

/-! ## Scalars and dictionaries -/

namespace Value

/-- `Value.id` undoes `ofId`. -/
theorem id_ofId (id : Id) : (ofId id).id = .ok id := by
  have hrange : Int64.minValue.toInt ≤ id.toInt ∧ id.toInt ≤ Int64.maxValue.toInt :=
    ⟨id.le_toInt, Int.le_of_lt_add_one id.toInt_lt⟩
  change (if _ then Except.ok (Int64.ofInt id.toInt) else _) = _
  rw [if_pos hrange, Int64.ofInt_toInt]

theorem string_text (expected s : String) : (text s).string expected = .ok s := rfl

/-- `Value.list` of `read` undoes a sequence of what `write` makes, if `read` undoes `write`. -/
theorem list_sequence {α : Type} {read : Value → Except Mismatch α} {write : α → Value}
    (h : ∀ a, read (write a) = .ok a) (l : List α) : (sequence (l.map write)).list read = .ok l :=
  mapM_map_eq_ok h l

/-- The fields of a `struct` are bound one after the other. -/
theorem dictionary_struct (l : List (String × Value)) :
    (struct l).dictionary = .ok (SortedMap.ofList l) := by
  change (l.map fun f => (text f.1, f.2)).foldlM _ SortedMap.empty = _
  rw [List.foldlM_map]
  exact List.foldlM_pure

end Value

/-! ## Tags -/

/-- The tags as `encodeTags` leaves them to be decoded; none are written if there are none. -/
def tagValues? (a : Attributes) : Option (SortedMap String Value) :=
  if a.entries.isEmpty then none else some (a.mapValues .text)

theorem tagValues?_getD (a : Attributes) :
    (tagValues? a).getD SortedMap.empty = a.mapValues .text := by
  unfold tagValues?
  split
  next hempty =>
    refine SortedMap.ext_entries ?_
    change [] = a.entries.map _
    rw [List.isEmpty_iff.1 hempty, List.map_nil]
  next => rfl

/-- Text is the one value that a tag is written as, so that `attributesOf` gives the attributes
back. -/
theorem attributesOf_mapValues (kind : RecordKind) (id : Id) (a : Attributes) :
    attributesOf kind id (a.mapValues .text) = .ok a := by
  change (a.entries.map fun p => (p.1, Value.text p.2)).foldlM _ SortedMap.empty = _
  rw [List.foldlM_map]
  exact List.foldlM_pure.trans (congrArg Except.ok (SortedMap.ofList_entries a))

/-! ## Fields -/

namespace Field

variable {δ : Type} {fields : List (Field δ)}

/-- Put the fields of a struct into a draft with `put`, one after the other. -/
def putAll (fields : List (Field δ)) (draft : δ) (l : List (String × Value)) :
    Except Mismatch δ :=
  l.foldlM (fun draft f => put fields draft (.text f.1, f.2)) draft

theorem decodeAll_struct (structName : String) (blank : δ) (l : List (String × Value)) :
    decodeAll structName fields blank (.struct l) = putAll fields blank l := by
  change (l.map fun f => (Value.text f.1, f.2)).foldlM (put fields) blank = _
  rw [List.foldlM_map]
  rfl

/-- A field that is known (`hfind`) and was not met before (`hnew`) is decoded. -/
theorem put_of_find? {f : Field δ} {name : String} {draft : δ}
    (hfind : fields.find? (fun f => f.name = name) = some f) (hnew : f.isSet draft = false)
    (v : Value) : put fields draft (.text name, v) = f.decode draft v := by
  rw [put, bind_of_ok (Value.string_text _ name), hfind]
  dsimp only
  rw [if_neg (by rw [hnew]; exact Bool.noConfusion)]

theorem putAll_cons {name : String} {v : Value} {draft draft' : δ} {rest : List (String × Value)}
    (h : put fields draft (.text name, v) = .ok draft') :
    putAll fields draft ((name, v) :: rest) = putAll fields draft' rest := by
  rw [putAll, List.foldlM_cons, bind_of_ok h]
  rfl

/-- The field that `encodeTags` writes, left out or not. -/
theorem putAll_tags (fields : List (Field δ)) {d : Option (SortedMap String Value) → δ}
    (h : ∀ m v, v.dictionary = .ok m →
      put fields (d none) (.text tagsField, v) = .ok (d (some m)))
    (a : Attributes) (rest : List (String × Value)) :
    putAll fields (d none) (encodeTags a ++ rest) = putAll fields (d (tagValues? a)) rest := by
  unfold encodeTags tagValues?
  split
  next => rfl
  next =>
    have hdictionary := Value.dictionary_struct (a.mapValues Value.text).entries
    rw [SortedMap.ofList_entries] at hdictionary
    exact putAll_cons (h _ _ hdictionary)

end Field

/-! ## Records -/

/-- `decodeNode` undoes `encodeNode`, the tags still values. -/
theorem decodeNode_encodeNode (n : NodeRecord × Geodetic) :
    decodeNode (encodeNode n) = .ok ⟨n.1.id, n.2, n.1.attributes.mapValues .text⟩ := by
  have hid : Field.put nodeFields ⟨none, none, none, none, none⟩ (.text idField, .ofId n.1.id) =
      .ok ⟨some n.1.id, none, none, none, none⟩ :=
    (Field.put_of_find? rfl rfl _).trans (bind_of_ok (Value.id_ofId n.1.id) _)
  have hposition : ∀ rest, Field.putAll nodeFields ⟨some n.1.id, none, none, none, none⟩
      ((latField, .real n.2.lat) :: (lonField, .real n.2.lon) ::
        (eleField, .real n.2.ele) :: rest) =
      Field.putAll nodeFields ⟨some n.1.id, some n.2.lat, some n.2.lon, some n.2.ele, none⟩ rest :=
    fun _ => rfl
  have htags := Field.putAll_tags nodeFields
    (d := fun tags => ⟨some n.1.id, some n.2.lat, some n.2.lon, some n.2.ele, tags⟩)
    (fun _ v hv => (Field.put_of_find? rfl rfl v).trans (bind_of_ok hv _)) n.1.attributes []
  rw [List.append_nil] at htags
  have hfields : Field.decodeAll "YamlNode" nodeFields ⟨none, none, none, none, none⟩
      (encodeNode n) =
        .ok ⟨some n.1.id, some n.2.lat, some n.2.lon, some n.2.ele,
          tagValues? n.1.attributes⟩ := by
    rw [encodeNode, Field.decodeAll_struct, List.cons_append, Field.putAll_cons hid]
    exact (hposition _).trans htags
  rw [decodeNode, bind_of_ok hfields]
  change Except.ok (RawNode.mk _ _ ((tagValues? n.1.attributes).getD SortedMap.empty)) = _
  rw [tagValues?_getD]
  rfl

/-- `decodeWay` undoes `encodeWay`. -/
theorem decodeWay_encodeWay (w : WayRecord) :
    decodeWay (encodeWay w) = .ok ⟨w.id, w.nodes, w.attributes.mapValues .text⟩ := by
  have hid : Field.put wayFields ⟨none, none, none⟩ (.text idField, .ofId w.id) =
      .ok ⟨some w.id, none, none⟩ :=
    (Field.put_of_find? rfl rfl _).trans (bind_of_ok (Value.id_ofId w.id) _)
  have hnodes : Field.put wayFields ⟨some w.id, none, none⟩
      (.text nodesField, .sequence (w.nodes.map .ofId)) = .ok ⟨some w.id, some w.nodes, none⟩ :=
    (Field.put_of_find? rfl rfl _).trans
      (bind_of_ok (Value.list_sequence Value.id_ofId w.nodes) _)
  have htags := Field.putAll_tags wayFields (d := fun tags => ⟨some w.id, some w.nodes, tags⟩)
    (fun _ v hv => (Field.put_of_find? rfl rfl v).trans (bind_of_ok hv _)) w.attributes []
  rw [List.append_nil] at htags
  have hfields : Field.decodeAll "YamlWay" wayFields ⟨none, none, none⟩ (encodeWay w) =
      .ok ⟨some w.id, some w.nodes, tagValues? w.attributes⟩ := by
    rw [encodeWay, Field.decodeAll_struct, List.cons_append, Field.putAll_cons hid,
      List.cons_append, Field.putAll_cons hnodes]
    exact htags
  rw [decodeWay, bind_of_ok hfields]
  change Except.ok (RawWay.mk _ _ ((tagValues? w.attributes).getD SortedMap.empty)) = _
  rw [tagValues?_getD]

theorem decodeKind_name (kind : RecordKind) : decodeKind (.text kind.name) = .ok kind := by
  cases kind <;> rfl

/-- `decodeMember` undoes `encodeMember`. -/
theorem decodeMember_encodeMember (m : Member) : decodeMember (encodeMember m) = .ok m := by
  have hkind : Field.put memberFields ⟨none, none, none⟩ (.text typeField, .text m.kind.name) =
      .ok ⟨some m.kind, none, none⟩ :=
    (Field.put_of_find? rfl rfl _).trans (bind_of_ok (decodeKind_name m.kind) _)
  have hid : Field.put memberFields ⟨some m.kind, none, none⟩ (.text refField, .ofId m.id) =
      .ok ⟨some m.kind, some m.id, none⟩ :=
    (Field.put_of_find? rfl rfl _).trans (bind_of_ok (Value.id_ofId m.id) _)
  have hfields : Field.decodeAll "YamlMember" memberFields ⟨none, none, none⟩ (encodeMember m) =
      .ok ⟨some m.kind, some m.id, some m.role⟩ := by
    rw [encodeMember, Field.decodeAll_struct, Field.putAll_cons hkind, Field.putAll_cons hid]
    rfl
  rw [decodeMember, bind_of_ok hfields]
  rfl

/-- `decodeRelation` undoes `encodeRelation`. -/
theorem decodeRelation_encodeRelation (x : RelationRecord) :
    decodeRelation (encodeRelation x) = .ok ⟨x.id, x.attributes.mapValues .text, x.members⟩ := by
  have hid : Field.put relationFields ⟨none, none, none⟩ (.text idField, .ofId x.id) =
      .ok ⟨some x.id, none, none⟩ :=
    (Field.put_of_find? rfl rfl _).trans (bind_of_ok (Value.id_ofId x.id) _)
  have hmembers : Field.put relationFields ⟨some x.id, tagValues? x.attributes, none⟩
      (.text membersField, .sequence (x.members.map encodeMember)) =
        .ok ⟨some x.id, tagValues? x.attributes, some x.members⟩ :=
    (Field.put_of_find? rfl rfl _).trans
      (bind_of_ok (Value.list_sequence decodeMember_encodeMember x.members) _)
  have htags := Field.putAll_tags relationFields (d := fun tags => ⟨some x.id, tags, none⟩)
    (fun _ v hv => (Field.put_of_find? rfl rfl v).trans (bind_of_ok hv _)) x.attributes
  have hfields : Field.decodeAll "YamlRelation" relationFields ⟨none, none, none⟩
      (encodeRelation x) = .ok ⟨some x.id, tagValues? x.attributes, some x.members⟩ := by
    rw [encodeRelation, Field.decodeAll_struct, List.cons_append, Field.putAll_cons hid]
    exact (htags _).trans (Field.putAll_cons hmembers)
  rw [decodeRelation, bind_of_ok hfields]
  change Except.ok (RawRelation.mk _ ((tagValues? x.attributes).getD SortedMap.empty) _) = _
  rw [tagValues?_getD]
  rfl

/-! ## Records, read -/

/-- `decodeRecord` succeeds exactly if `decode` does. -/
theorem decodeRecord_eq_ok {α : Type} {kind : RecordKind} {decode : Value → Except Mismatch α}
    {v : Value} {a : α} : decodeRecord kind decode v = .ok a ↔ decode v = .ok a := by
  unfold decodeRecord
  split
  next b hb => rw [hb, Except.ok.injEq, Except.ok.injEq]
  next mismatch hb => exact ⟨nofun, fun h => nomatch hb.symm.trans h⟩

/-- `readNode` undoes `encodeNode`, up to the projector. -/
theorem readNode_encodeNode (projector : Projector) (n : NodeRecord × Geodetic) :
    readNode projector (encodeNode n) =
      .ok ⟨n.1.id, projector.forward n.2, n.1.attributes⟩ := by
  rw [readNode, bind_of_ok (decodeRecord_eq_ok.2 (decodeNode_encodeNode n)),
    bind_of_ok (attributesOf_mapValues .node n.1.id n.1.attributes)]
  rfl

/-- `readWay` undoes `encodeWay`. -/
theorem readWay_encodeWay (w : WayRecord) : readWay (encodeWay w) = .ok w := by
  rw [readWay, bind_of_ok (decodeRecord_eq_ok.2 (decodeWay_encodeWay w)),
    bind_of_ok (attributesOf_mapValues .way w.id w.attributes)]
  rfl

/-- `readRelation` undoes `encodeRelation`. -/
theorem readRelation_encodeRelation (x : RelationRecord) :
    readRelation (encodeRelation x) = .ok x := by
  rw [readRelation, bind_of_ok (decodeRecord_eq_ok.2 (decodeRelation_encodeRelation x)),
    bind_of_ok (attributesOf_mapValues .relation x.id x.attributes)]
  rfl

end RoadNet.Yaml
