import RoadNet.Proofs.Formats
import RoadNet.Proofs.NodeValues
import RoadNet.Proofs.ScalarTexts

/-!
# RoadNet.Proofs.TagTexts

What becomes of the truth values and numbers among the tags of a YAML document. Between the text of
a scalar and the text of an attribute stands a value, which does not tell how it was written: the
attribute has the one spelling of the value, and the text of the scalar is lost unless it was that.

* `Node.records`, `Targets.tag?` — where a document has its records, and a record its tags;
* `Node.StandsFor.spellsTags` — the attributes of a record that is decoded;
* `forall₂_valuesOf` — the values that are decoded;
* `respells_of_read` — the attributes of the records that are read.
-/

namespace RoadNet.Yaml

variable {targets : Targets} {node n : Node} {v : Value} {c c' : Nat}

/-! ## The tags of a record -/

/-- The node of the tag `key` of a record, aliases followed. -/
def Targets.tag? (targets : Targets) (record : Node) (key : String) : Option Node :=
  ((targets.child? tagsField record).bind (targets.child? key)).bind targets.resolve?

/-- Of the `fields` of a struct the one named `tagsField`, and no other, sets the `tags` of a
draft. -/
def SetsTags {δ : Type} (fields : List (Field δ)) (tags : δ → Option (SortedMap String Value)) :
    Prop :=
  ∀ f ∈ fields, ∀ d v d', f.decode d v = .ok d' →
    if f.name = tagsField then ∃ m, v.dictionary = .ok m ∧ tags d' = some m else tags d' = tags d

theorem setsTags_nodeFields : SetsTags nodeFields (·.tags) := by
  intro f hf d v d' h
  simp only [nodeFields, List.mem_cons, List.not_mem_nil, or_false] at hf
  rcases hf with rfl | rfl | rfl | rfl | rfl
  all_goals
    obtain ⟨a, ha, hd⟩ := bind_eq_ok.1 h
    obtain rfl := Except.ok.inj hd
  case inr.inr.inr.inr => exact ⟨a, ha, rfl⟩
  all_goals rfl

theorem setsTags_wayFields : SetsTags wayFields (·.tags) := by
  intro f hf d v d' h
  simp only [wayFields, List.mem_cons, List.not_mem_nil, or_false] at hf
  rcases hf with rfl | rfl | rfl
  all_goals
    obtain ⟨a, ha, hd⟩ := bind_eq_ok.1 h
    obtain rfl := Except.ok.inj hd
  case inr.inr => exact ⟨a, ha, rfl⟩
  all_goals rfl

theorem setsTags_relationFields : SetsTags relationFields (·.tags) := by
  intro f hf d v d' h
  simp only [relationFields, List.mem_cons, List.not_mem_nil, or_false] at hf
  rcases hf with rfl | rfl | rfl
  all_goals
    obtain ⟨a, ha, hd⟩ := bind_eq_ok.1 h
    obtain rfl := Except.ok.inj hd
  case inr.inl => exact ⟨a, ha, rfl⟩
  all_goals rfl

/-- What `decodeAll` of a struct makes of its tags: the dictionary that the node under `tagsField`
stands for. -/
theorem Node.StandsFor.tags_decodeAll {δ : Type} {fields : List (Field δ)}
    {tags : δ → Option (SortedMap String Value)} (hfields : SetsTags fields tags)
    {structName : String} {blank d : δ} (h : node.StandsFor targets v)
    (hd : Field.decodeAll structName fields blank v = .ok d)
    (hkey : targets.child? tagsField node = some n) :
    ∃ w m, n.StandsFor targets w ∧ w.dictionary = .ok m ∧ tags d = some m := by
  unfold Field.decodeAll at hd
  obtain ⟨vs, hvs, hfold⟩ := bind_eq_ok.1 hd
  have hlast := foldlM_lastUnder tagsField tags (fun v m => v.dictionary = .ok m) ?_
    (h.forall₂_entries hvs) hfold
  · rw [Targets.child?] at hkey
    rw [hkey] at hlast
    exact hlast
  · intro b e b' he
    unfold Field.put at he
    obtain ⟨name, hname, he⟩ := bind_eq_ok.1 he
    refine ⟨name, Value.string_eq_ok.1 hname, ?_⟩
    split at he
    next => cases he
    next f hfind =>
      split at he
      next => cases he
      next =>
        obtain rfl : f.name = name := by simpa using List.find?_some hfind
        exact hfields f (List.mem_of_find?_eq_some hfind) b e.2 b' he

/-- Each key is bound to what `tagText?` gives for its tag. -/
theorem find?_foldlM_tagText {kind : RecordKind} {id : Id} {l : List (String × Value)}
    (hnodup : (l.map Prod.fst).Nodup) {a b : Attributes}
    (h : l.foldlM (fun (a : Attributes) (e : String × Value) =>
      match tagText? e.2 with
      | some text => .ok (a.insert e.1 text)
      | none => .error (.malformedRecord kind (some id) (.tagNotScalar e.1))) a =
        (.ok b : Except Failure Attributes)) {key : String} :
    (∀ v, (key, v) ∈ l → ∃ t, tagText? v = some t ∧ b.find? key = some t) ∧
      (key ∉ l.map Prod.fst → b.find? key = a.find? key) := by
  induction l generalizing a with
  | nil =>
    obtain rfl := Except.ok.inj h
    exact ⟨nofun, fun _ => rfl⟩
  | cons e l ih =>
    rw [List.foldlM_cons] at h
    obtain ⟨a₁, ha₁, hrest⟩ := bind_eq_ok.1 h
    obtain ⟨hnew, hnodup⟩ := List.nodup_cons.1 hnodup
    obtain ⟨hbound, hother⟩ := ih hnodup hrest
    split at ha₁
    next text htext =>
      obtain rfl := Except.ok.inj ha₁
      constructor
      · intro v hv
        rcases List.mem_cons.1 hv with rfl | hv
        · exact ⟨text, htext, by rw [hother hnew, SortedMap.find?_insert, if_pos rfl]⟩
        · exact hbound v hv
      · intro hkey
        rw [List.map_cons, List.mem_cons, not_or] at hkey
        rw [hother hkey.2, SortedMap.find?_insert, if_neg hkey.1]
    next => cases ha₁

/-- `attributesOf` binds each key to the `tagText?` of its tag. -/
theorem find?_attributesOf {kind : RecordKind} {id : Id} {tags : SortedMap String Value}
    {a : Attributes} (h : attributesOf kind id tags = .ok a) {key : String}
    (hv : tags.find? key = some v) : ∃ t, tagText? v = some t ∧ a.find? key = some t :=
  (find?_foldlM_tagText tags.nodup_keys h).1 v (SortedMap.find?_eq_some.1 hv)

/-- The attributes `a` of a record are the texts (`tagText?`) of the values that its tags stand
for. -/
def SpellsTags (targets : Targets) (record : Node) (a : Attributes) : Prop :=
  ∀ key n, (targets.child? tagsField record).bind (targets.child? key) = some n →
    ∃ w t, n.StandsFor targets w ∧ tagText? w = some t ∧ a.find? key = some t

/-- The attributes of a record that decodes are the texts of its tags. -/
theorem Node.StandsFor.spellsTags {δ : Type} {fields : List (Field δ)}
    {tags : δ → Option (SortedMap String Value)} (hfields : SetsTags fields tags)
    {structName : String} {blank d : δ} {kind : RecordKind} {id : Id} {a : Attributes}
    (h : node.StandsFor targets v) (hd : Field.decodeAll structName fields blank v = .ok d)
    (ha : attributesOf kind id ((tags d).getD SortedMap.empty) = .ok a) :
    SpellsTags targets node a := by
  intro key n hkey
  obtain ⟨tagsNode, htags, hkey⟩ := Option.bind_eq_some_iff.1 hkey
  obtain ⟨w, m, hw, hm, hd⟩ := h.tags_decodeAll hfields hd htags
  obtain ⟨u, hu, hfind⟩ := hw.find?_dictionary hm hkey
  rw [hd, Option.getD_some] at ha
  obtain ⟨t, ht, hfound⟩ := find?_attributesOf ha hfind
  exact ⟨u, t, hu, ht, hfound⟩

/-- The attributes that `readNode` gives are the texts of the tags. -/
theorem spellsTags_of_readNode (projector : Projector) {r : NodeRecord}
    (h : node.StandsFor targets v) (hr : readNode projector v = .ok r) :
    SpellsTags targets node r.attributes := by
  obtain ⟨raw, hraw, hr⟩ := bind_eq_ok.1 hr
  obtain ⟨a, ha, hr⟩ := bind_eq_ok.1 hr
  obtain rfl := Except.ok.inj hr
  obtain ⟨d, hd, hraw⟩ := bind_eq_ok.1 (decodeRecord_eq_ok.1 hraw)
  obtain ⟨id, -, hraw⟩ := bind_eq_ok.1 hraw
  obtain ⟨lat, -, hraw⟩ := bind_eq_ok.1 hraw
  obtain ⟨lon, -, hraw⟩ := bind_eq_ok.1 hraw
  obtain rfl := Except.ok.inj hraw
  exact h.spellsTags setsTags_nodeFields hd ha

/-- The attributes that `readWay` gives are the texts of the tags. -/
theorem spellsTags_of_readWay {r : WayRecord} (h : node.StandsFor targets v)
    (hr : readWay v = .ok r) : SpellsTags targets node r.attributes := by
  obtain ⟨raw, hraw, hr⟩ := bind_eq_ok.1 hr
  obtain ⟨a, ha, hr⟩ := bind_eq_ok.1 hr
  obtain rfl := Except.ok.inj hr
  obtain ⟨d, hd, hraw⟩ := bind_eq_ok.1 (decodeRecord_eq_ok.1 hraw)
  obtain ⟨id, -, hraw⟩ := bind_eq_ok.1 hraw
  obtain ⟨nodes, -, hraw⟩ := bind_eq_ok.1 hraw
  obtain rfl := Except.ok.inj hraw
  exact h.spellsTags setsTags_wayFields hd ha

/-- The attributes that `readRelation` gives are the texts of the tags. -/
theorem spellsTags_of_readRelation {r : RelationRecord} (h : node.StandsFor targets v)
    (hr : readRelation v = .ok r) : SpellsTags targets node r.attributes := by
  obtain ⟨raw, hraw, hr⟩ := bind_eq_ok.1 hr
  obtain ⟨a, ha, hr⟩ := bind_eq_ok.1 hr
  obtain rfl := Except.ok.inj hr
  obtain ⟨d, hd, hraw⟩ := bind_eq_ok.1 (decodeRecord_eq_ok.1 hraw)
  obtain ⟨id, -, hraw⟩ := bind_eq_ok.1 hraw
  obtain rfl := Except.ok.inj hraw
  exact h.spellsTags setsTags_relationFields hd ha

/-! ## The records of a document -/

/-- The key of a document, such as `nodesKey`, under which the records of a kind stand. -/
def Document.keyOf : RecordKind → String
  | .node => nodesKey
  | .way => waysKey
  | .relation => relationsKey

/-- The values of the records of a kind. -/
def Document.valuesOf (d : Document) : RecordKind → List Value
  | .node => d.nodes
  | .way => d.ways
  | .relation => d.relations

/-- The nodes of the records of a kind; `root` is that of the whole document. -/
def Node.records (root : Node) (kind : RecordKind) : List Node :=
  ((root.targets.child? (Document.keyOf kind) root).map root.targets.items).getD []

/-- The text that `keyText` reads of a key is the one that `hasText` finds. -/
theorem hasText_of_keyText {name : String}
    (h : (Document.keyText targets node).run c = some (name, c')) (key : String) :
    targets.hasText key node = (name == key) := by
  obtain ⟨n, c₁, hfollow, h⟩ := run_bind_eq_some.1 h
  rw [Targets.hasText, resolve?_of_follow hfollow]
  cases n with
  | scalar anchor tag s plain =>
    obtain ⟨rfl, -⟩ := run_pure_eq_some.1 h
    rfl
  | «alias» _ | sequence _ _ _ | mapping _ _ _ => cases h

/-- The values that `recordValues` reads are those that the `items` of the node stand for. -/
theorem forall₂_of_recordValues {vs : List Value}
    (h : (Document.recordValues targets node).run c = some (vs, c')) :
    List.Forall₂ (Node.StandsFor targets) (targets.items node) vs := by
  obtain ⟨n, c₁, hfollow, h⟩ := run_bind_eq_some.1 h
  rw [Targets.items, resolve?_of_follow hfollow]
  split at h
  next anchor tag items =>
    exact (forall₂_of_run_mapM h).imp fun _ _ ⟨c, c', h⟩ => ⟨_, c, c', h⟩
  next =>
    obtain ⟨rfl, -⟩ := run_pure_eq_some.1 h
    exact .nil
  next => cases h

/-- `readEntries` binds a `known` key to the values of its node; the key occurs once. -/
theorem lookup_readEntries {entries : List (Node × Node)} {fields : List (String × List Value)}
    (h : (Document.readEntries targets entries).run c = some (fields, c')) {key : String}
    (known : key ∈ [Document.nodesKey, Document.waysKey, Document.relationsKey]) :
    match targets.lastUnder? key entries with
    | none => fields.lookup key = none
    | some n => ∃ vs, fields.lookup key = some vs ∧
        List.Forall₂ (Node.StandsFor targets) (targets.items n) vs := by
  induction entries generalizing c c' fields with
  | nil =>
    obtain ⟨rfl, -⟩ := run_pure_eq_some.1 h
    rfl
  | cons e entries ih =>
    obtain ⟨k, node⟩ := e
    rw [Document.readEntries] at h
    obtain ⟨name, c₁, hname, h⟩ := run_bind_eq_some.1 h
    rw [Targets.lastUnder?, hasText_of_keyText hname]
    split at h
    next hknown =>
      obtain ⟨vs, c₂, hvs, h⟩ := run_bind_eq_some.1 h
      obtain ⟨more, c₃, hmore, h⟩ := run_bind_eq_some.1 h
      have hlast := ih hmore
      split at h
      next => cases h
      next hnew =>
        obtain ⟨rfl, -⟩ := run_pure_eq_some.1 h
        by_cases hkey : name = key
        · subst hkey
          have hnone : more.lookup name = none := Option.not_isSome_iff_eq_none.1 hnew
          cases hunder : targets.lastUnder? name entries with
          | none =>
            rw [Option.none_or, beq_self_eq_true, if_pos rfl]
            exact ⟨vs, List.lookup_cons_self, forall₂_of_recordValues hvs⟩
          | some n =>
            rw [hunder] at hlast
            obtain ⟨ws, hws, -⟩ := hlast
            rw [hws] at hnone
            cases hnone
        · rw [if_neg (by simpa using hkey), Option.or_none, List.lookup_cons,
            beq_false_of_ne (Ne.symm hkey)]
          exact hlast
    next hunknown =>
      have hother : name ≠ key := fun heq => hunknown (heq ▸ known)
      rw [if_neg (by simpa using hother), Option.or_none]
      exact ih h

/-- The values of a document are those that the `records` of its root stand for. -/
theorem forall₂_valuesOf {root : Node} {d : Document} (h : Document.ofRoot? root = some d)
    (kind : RecordKind) :
    List.Forall₂ (Node.StandsFor root.targets) (root.records kind) (d.valuesOf kind) := by
  have hknown : Document.keyOf kind ∈
      [Document.nodesKey, Document.waysKey, Document.relationsKey] := by
    cases kind <;> decide
  unfold Document.ofRoot? at h
  split at h
  next anchor tag entries =>
    obtain ⟨⟨fields, count⟩, hfields, h⟩ := Option.bind_eq_some_iff.1 h
    have hd := Option.some.inj h
    have hvalues : d.valuesOf kind = (fields.lookup (Document.keyOf kind)).getD [] := by
      rw [← hd]
      cases kind <;> rfl
    have hlookup := lookup_readEntries hfields hknown
    have hchild : (Node.mapping anchor tag entries).records kind =
        (((Node.mapping anchor tag entries).targets.lastUnder? (Document.keyOf kind) entries).map
          (Node.mapping anchor tag entries).targets.items).getD [] := rfl
    rw [hvalues, hchild]
    split at hlookup
    next hnone =>
      rw [hnone, hlookup]
      exact .nil
    next n hsome =>
      obtain ⟨vs, hvs, hitems⟩ := hlookup
      rw [hsome, hvs]
      exact hitems
  next =>
    obtain rfl := Option.some.inj h
    cases kind <;> exact .nil
  next => cases h

/-- Of records that `read` takes one by one, those that are read come from some of the sources, in
order; from all of them if none fails. -/
theorem exists_sublist_goodOf {α β γ : Type} {R : α → β → Prop} (read : β → Except Failure γ)
    {as : List α} {bs : List β} (h : List.Forall₂ R as bs) :
    ∃ kept, kept.Sublist as ∧ (failuresOf (bs.map read) = [] → kept = as) ∧
      List.Forall₂ (fun a c => ∃ b, R a b ∧ read b = .ok c) kept (goodOf (bs.map read)) := by
  induction h with
  | nil => exact ⟨[], .slnil, fun _ => rfl, .nil⟩
  | @cons a b as bs hab _ ih =>
    obtain ⟨kept, hsub, hkept, hall⟩ := ih
    rw [List.map_cons]
    cases hread : read b with
    | ok c =>
      exact ⟨a :: kept, hsub.cons_cons a, fun hnone => congrArg _ (hkept hnone),
        .cons ⟨b, hab, hread⟩ hall⟩
    | error f => exact ⟨kept, hsub.cons a, nofun, hall⟩

/-! ## What becomes of numbers and truth values -/

/-- The attributes of the records of a kind. -/
def attributesIn (r : RecordSet) : RecordKind → List Attributes
  | .node => r.nodes.map (·.attributes)
  | .way => r.ways.map (·.attributes)
  | .relation => r.relations.map (·.attributes)

/-- What a record keeps of its tags that are truth values and numbers in plain scalars: the values,
in the one `Spelling` that each value has. -/
def Respells (targets : Targets) (record : Node) (a : Attributes) : Prop :=
  ∀ key anchor tag s v, targets.tag? record key = some (.scalar anchor tag s true) →
    Value.ofScalar? tag s true = some v → v.isLiteral = true →
      ∃ t, a.find? key = some t ∧ v.Spelling t ∧ Value.ofPlain? t = some v ∧
        (t = s ↔ v.Spelling s)

/-- The text of a tag depends on the value that its scalar stands for alone, so that attributes that
spell tags (`SpellsTags`) respell them. -/
theorem SpellsTags.respells {record : Node} {a : Attributes} (h : SpellsTags targets record a) :
    Respells targets record a := by
  intro key anchor tag s v htag hscalar hliteral
  obtain ⟨n, hn, hresolve⟩ := Option.bind_eq_some_iff.1 htag
  obtain ⟨w, t, hw, ht, hfind⟩ := h key n hn
  obtain ⟨n', hresolve', hshows⟩ := hw.exists_shows
  obtain rfl := Option.some.inj (hresolve.symm.trans hresolve')
  cases hshows with
  | scalar hvalue =>
    obtain rfl := Option.some.inj (hscalar.symm.trans hvalue)
    have hspelling := Value.spelling_iff.2 ⟨hliteral, ht⟩
    have hword : ∀ n, v = .int n → isWord n = true := fun n hn =>
      Value.isWord_of_ofScalar? (hn ▸ hscalar)
    exact ⟨t, hfind, hspelling, Value.ofPlain?_of_spelling hspelling hword,
      fun heq => heq ▸ hspelling, hspelling.unique⟩

/-- The attributes of the records that `read` takes from `nodes`, under either policy, respell the
tags of their nodes. -/
theorem exists_sublist_respells {γ : Type} {attributes : γ → Attributes}
    {read : Value → Except Failure γ} {nodes : List Node} {vs : List Value}
    (h : List.Forall₂ (Node.StandsFor targets) nodes vs)
    (hread : ∀ node v r, node.StandsFor targets v → read v = .ok r →
      SpellsTags targets node (attributes r)) :
    ∃ kept, kept.Sublist nodes ∧ (failuresOf (vs.map read) = [] → kept = nodes) ∧
      List.Forall₂ (Respells targets) kept ((goodOf (vs.map read)).map attributes) := by
  obtain ⟨kept, hsub, hkept, hall⟩ := exists_sublist_goodOf read h
  refine ⟨kept, hsub, hkept, List.forall₂_map_right_iff.2 (hall.imp fun node r hr => ?_)⟩
  obtain ⟨v, hv, hr⟩ := hr
  exact (hread node v r hv hr).respells

/-- Of a document that `Yaml.read` accepts, the tags of each record that are truth values or numbers
in plain scalars become attributes that stand for the same values (`Respells`); the text of such an
attribute is that of the scalar exactly if this is the one `Spelling` of its value. Only a robust
run leaves records out. -/
theorem respells_of_read {projector : Projector} {policy : Policy} {text : String}
    {messages : List String} {r : RecordSet}
    (h : (read projector policy text messages).1 = .ok r) :
    ∃ root, Node.ofText? text = some root ∧ ∀ kind, ∃ kept, kept.Sublist (root.records kind) ∧
      (policy = .strict → kept = root.records kind) ∧
      List.Forall₂ (Respells root.targets) kept (attributesIn r kind) := by
  obtain ⟨d, hd, rfl, hstrict⟩ := exists_of_read h
  obtain ⟨root, hroot, hd⟩ := Option.bind_eq_some_iff.1 hd
  simp only [failuresIn, List.append_eq_nil_iff] at hstrict
  refine ⟨root, hroot, fun kind => ?_⟩
  have hvalues := forall₂_valuesOf hd kind
  cases kind with
  | node =>
    obtain ⟨kept, hsub, hkept, hall⟩ := exists_sublist_respells hvalues
      fun _ _ _ => spellsTags_of_readNode projector
    exact ⟨kept, hsub, fun hp => hkept (hstrict hp).1, hall⟩
  | way =>
    obtain ⟨kept, hsub, hkept, hall⟩ := exists_sublist_respells hvalues
      fun _ _ _ => spellsTags_of_readWay
    exact ⟨kept, hsub, fun hp => hkept (hstrict hp).2.1, hall⟩
  | relation =>
    obtain ⟨kept, hsub, hkept, hall⟩ := exists_sublist_respells hvalues
      fun _ _ _ => spellsTags_of_readRelation
    exact ⟨kept, hsub, fun hp => hkept (hstrict hp).2.2, hall⟩

/-! ### A document with other spellings -/

/-- A document with a number of each kind and a truth value, none of them spelled as it is written,
and with a number that is. -/
def surveyText : String :=
  "nodes:\n- id: 1\n  lat: 0.0\n  lon: 0.5\n  tags:\n    height: 2.50\n    layer: -1\n" ++
    "ways:\n- id: 2\n  nodes: []\n  tags:\n    lanes: 0x2\n" ++
    "relations:\n- id: 3\n  tags:\n    lit: True\n"

/-- A plain scalar of `surveyText`. -/
def plainScalar (s : String) : Node := .scalar none none s true

/-- A record of `surveyText`: the fields in front of the tags, and the tags. -/
def surveyRecord (fields : List (Node × Node)) (tags : List (String × String)) : Node :=
  .mapping none none (fields ++ [(plainScalar tagsField,
    .mapping none none (tags.map fun tag => (plainScalar tag.1, plainScalar tag.2)))])

/-- The node of `surveyText`. -/
def surveyNode : Node :=
  surveyRecord [(plainScalar idField, plainScalar "1"), (plainScalar latField, plainScalar "0.0"),
    (plainScalar lonField, plainScalar "0.5")] [("height", "2.50"), ("layer", "-1")]

/-- The way of `surveyText`. -/
def surveyWay : Node :=
  surveyRecord [(plainScalar idField, plainScalar "2"),
    (plainScalar nodesField, .sequence none none [])] [("lanes", "0x2")]

/-- The relation of `surveyText`. -/
def surveyRelation : Node :=
  surveyRecord [(plainScalar idField, plainScalar "3")] [("lit", "True")]

/-- The tree that `surveyText` spells out. -/
def surveyRoot : Node :=
  .mapping none none
    [(plainScalar Document.nodesKey, .sequence none none [surveyNode]),
      (plainScalar Document.waysKey, .sequence none none [surveyWay]),
      (plainScalar Document.relationsKey, .sequence none none [surveyRelation])]

/-- The records that are read of `surveyText`. -/
def survey : RecordSet where
  nodes := [⟨1, ⟨0.5, 0, 0⟩, SortedMap.ofList [("height", "2.5"), ("layer", "-1")]⟩]
  ways := [⟨2, [], SortedMap.ofList [("lanes", "2")]⟩]
  relations := [⟨3, SortedMap.ofList [("lit", "true")], []⟩]

set_option maxRecDepth 20000 in
theorem ofText?_surveyText : Node.ofText? surveyText = some surveyRoot := by
  cbv

theorem recordsOf_surveyRoot :
    (Document.ofRoot? surveyRoot).map (fun d =>
      (recordsOf .identity d, (failuresIn .identity d).length)) = some (survey, 0) := by
  decide +kernel

theorem read_surveyText : read .identity .strict surveyText [] = (.ok survey, []) := by
  obtain ⟨d, hd, hread⟩ := Option.map_eq_some_iff.1 recordsOf_surveyRoot
  obtain ⟨hrecords, hfailures⟩ := Prod.mk.inj hread
  rw [read, Document.ofText?, ofText?_surveyText, Option.bind_some, hd]
  refine ((settles_readRecords .identity d).strict []).trans ?_
  rw [List.length_eq_zero_iff.1 hfailures, hrecords]
  rfl

/-- The records of `surveyText` keep the values of their tags. -/
theorem respells_survey :
    (read .identity .strict surveyText []).1 = .ok survey ∧
      ∃ root, Node.ofText? surveyText = some root ∧ ∀ kind,
        List.Forall₂ (Respells root.targets) (root.records kind) (attributesIn survey kind) := by
  have hread := congrArg Prod.fst read_surveyText
  obtain ⟨root, hroot, hall⟩ := respells_of_read hread
  refine ⟨hread, root, hroot, fun kind => ?_⟩
  obtain ⟨kept, -, hkept, hrespells⟩ := hall kind
  exact hkept rfl ▸ hrespells

/-- But of `2.50`, `0x2` and `True` none keeps its text. -/
theorem respelled_survey :
    read .identity .strict surveyText [] = (.ok survey, []) ∧
      Node.ofText? surveyText = some surveyRoot ∧
      (surveyRoot.records .node = [surveyNode] ∧
        surveyRoot.targets.tag? surveyNode "height" = some (.scalar none none "2.50" true) ∧
        Value.ofScalar? none "2.50" true = some (.real 2.5) ∧
        (attributesIn survey .node).map (·.find? "height") = [some "2.5"]) ∧
      (surveyRoot.records .way = [surveyWay] ∧
        surveyRoot.targets.tag? surveyWay "lanes" = some (.scalar none none "0x2" true) ∧
        Value.ofScalar? none "0x2" true = some (.int 2) ∧
        (attributesIn survey .way).map (·.find? "lanes") = [some "2"]) ∧
      surveyRoot.records .relation = [surveyRelation] ∧
        surveyRoot.targets.tag? surveyRelation "lit" = some (.scalar none none "True" true) ∧
        Value.ofScalar? none "True" true = some (.bool true) ∧
        (attributesIn survey .relation).map (·.find? "lit") = [some "true"] := by
  have hplain : Scalar.ofPlain "2.50" = .real 2.5 ∧ Scalar.ofPlain "0x2" = .whole 2 ∧
      Scalar.ofPlain "True" = .bool true := by decide +kernel
  obtain ⟨hreal, hwhole, hbool⟩ := hplain
  have hvalue : ∀ s, Value.ofScalar? none s true = Value.ofPlain? s := fun _ => rfl
  rw [hvalue, hvalue, hvalue, Value.ofPlain?, Value.ofPlain?, Value.ofPlain?, hreal, hwhole, hbool]
  exact ⟨read_surveyText, ofText?_surveyText, ⟨rfl, rfl, rfl, rfl⟩, ⟨rfl, rfl, rfl, rfl⟩, rfl, rfl,
    rfl, rfl⟩

end RoadNet.Yaml
