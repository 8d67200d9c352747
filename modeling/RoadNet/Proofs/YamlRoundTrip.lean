import RoadNet.Proofs.RoundTrip
import RoadNet.Proofs.YamlRecords
import RoadNet.Yaml.Format

/-!
# RoadNet.Proofs.YamlRoundTrip

Records written as YAML and read back.

The writer prints the tree of the document that its records are encoded as, and the reader takes a
document apart into the values of its records. Between the two stands the text: where it
reproduces the tree (`Value.Reproduced`), the reader gets the document of the writer
(`Document.ofRoot?_of_value`), whose records are those that were written (`lossless_tree`).
-/

namespace RoadNet.Yaml

/-! ## Documents -/

/-- The document that `encodeNode`, `encodeWay` and `encodeRelation` make of placed records. -/
def Document.ofPlaced (p : PlacedRecords) : Document :=
  ⟨p.nodes.map encodeNode, p.ways.map encodeWay, p.relations.map encodeRelation⟩

/-- A document as one value. -/
def Document.tree (d : Document) : Value :=
  .struct [(nodesKey, .sequence d.nodes), (waysKey, .sequence d.ways),
    (relationsKey, .sequence d.relations)]

/-- `keepGood` of values that all read well notes nothing. -/
theorem keepGood_map_ok {α β : Type} {write : α → Value} {read : Value → Except Failure β}
    {record : α → β} (h : ∀ a, read (write a) = .ok (record a)) (policy : Policy) (l : List α) :
    policy.keepGood ((l.map write).map read) = pure (l.map record) := by
  induction l with
  | nil => rfl
  | cons a rest ih =>
    rw [List.map_cons, List.map_cons, h, Policy.keepGood, ih]
    rfl

/-- `readRecords` undoes `ofPlaced`, up to the projector. -/
theorem readRecords_ofPlaced (projector : Projector) (policy : Policy) (p : PlacedRecords) :
    readRecords projector policy (.ofPlaced p) =
      pure ⟨p.nodes.map fun n => ⟨n.1.id, projector.forward n.2, n.1.attributes⟩, p.ways,
        p.relations⟩ := by
  have hnodes := keepGood_map_ok (readNode_encodeNode projector) policy p.nodes
  have hways := keepGood_map_ok readWay_encodeWay policy p.ways
  have hrelations := keepGood_map_ok readRelation_encodeRelation policy p.relations
  rw [readRecords, Document.ofPlaced, hnodes, pure_bind, hways, pure_bind, hrelations, pure_bind,
    List.map_id', List.map_id']

/-! ## Values of scalars -/

namespace Value

/-- What the text of a scalar can stand for: of all texts only for itself. -/
inductive OfScalar (s : String) : Value → Prop where
  | null : OfScalar s .null
  | bool (b : Bool) : OfScalar s (.bool b)
  | int (n : Int) : OfScalar s (.int n)
  | real (x : Float) : OfScalar s (.real x)
  | text : OfScalar s (.text s)
  | tagged (name : String) (v : Value) : OfScalar s (.tagged name v)

variable {s : String} {v : Value}

theorem ofScalar_of_plain (h : ofPlain? s = some v) : OfScalar s v := by
  unfold ofPlain? at h
  split at h
  next => exact Option.some.inj h ▸ .null
  next b _ => exact Option.some.inj h ▸ .bool b
  next n _ =>
    split at h
    · exact Option.some.inj h ▸ .int n
    · cases h
  next x _ => exact Option.some.inj h ▸ .real x
  next t ht =>
    have hself : t = s := by
      unfold Scalar.ofPlain at ht
      grind
    exact Option.some.inj h ▸ hself ▸ .text

/-- What `ofText?` gives for a text is one of the values it can stand for, whatever the tag. -/
theorem ofScalar_of_text {tag : Option String} {plain : Bool} (h : ofText? tag s plain = some v) :
    OfScalar s v := by
  unfold ofText? at h
  split at h
  · split at h
    · exact ofScalar_of_plain h
    · exact Option.some.inj h ▸ .text
  · split at h
    · obtain ⟨b, -, rfl⟩ := Option.map_eq_some_iff.1 h
      exact .bool b
    · split at h
      · obtain ⟨n, -, rfl⟩ := Option.map_eq_some_iff.1 h
        exact .int n
      · split at h
        · obtain ⟨x, -, rfl⟩ := Option.map_eq_some_iff.1 h
          exact .real x
        · split at h
          · split at h
            · exact Option.some.inj h ▸ .null
            · cases h
          · exact Option.some.inj h ▸ .text

theorem exists_of_withTag {name : String} {w : Option Value} (h : withTag? name w = some v) :
    ∃ u, v = .tagged name u := by
  unfold withTag? at h
  split at h
  · cases h
  · obtain ⟨u, -, rfl⟩ := Option.map_eq_some_iff.1 h
    exact ⟨u, rfl⟩

/-- So is what `ofScalar?` gives. -/
theorem ofScalar_of_scalar {tag : Option String} {plain : Bool}
    (h : ofScalar? tag s plain = some v) : OfScalar s v := by
  unfold ofScalar? at h
  split at h
  next name _ =>
    obtain ⟨u, rfl⟩ := exists_of_withTag h
    exact .tagged name u
  next => exact ofScalar_of_text h

end Value

/-! ## Values of nodes -/

section Following

variable {targets : Targets} {depth : Nat} {node : Node} {v : Value} {c c' : Nat}

/-- A run of `x >>= next` runs `x`, then `next` from the aliases counted by then. -/
theorem run_bind_eq_some {α β : Type} {x : Following α} {next : α → Following β} {b : β} :
    (x >>= next).run c = some (b, c') ↔
      ∃ a c₁, x.run c = some (a, c₁) ∧ (next a).run c₁ = some (b, c') := by
  rw [StateT.run_bind]
  simp [Option.bind_eq_some_iff]

theorem run_lift_eq_some {α : Type} {x : Option α} {a : α} :
    (liftM x : Following α).run c = some (a, c') ↔ x = some a ∧ c = c' := by
  cases x <;> simp

theorem run_map_eq_some {α β : Type} {x : Following α} {f : α → β} {b : β} :
    (f <$> x).run c = some (b, c') ↔ ∃ a, x.run c = some (a, c') ∧ f a = b := by
  rw [StateT.run_map]
  simp

theorem run_pure_eq_some {α : Type} {a b : α} :
    (pure a : Following α).run c = some (b, c') ↔ a = b ∧ c = c' := by
  rw [StateT.run_pure]
  simp

/-- A run of `mapM` gives the first result, then those of the rest. -/
theorem run_mapM_eq_some {α β : Type} {f : α → Following β} {l : List α} {bs : List β}
    (h : (l.mapM f).run c = some (bs, c')) :
    match bs with
    | [] => l = [] ∧ c = c'
    | b :: bs => ∃ a rest c₁, l = a :: rest ∧ (f a).run c = some (b, c₁) ∧
        (rest.mapM f).run c₁ = some (bs, c') := by
  cases l with
  | nil =>
    rw [List.mapM_nil, run_pure_eq_some] at h
    obtain ⟨rfl, rfl⟩ := h
    exact ⟨rfl, rfl⟩
  | cons a rest =>
    rw [List.mapM_cons] at h
    obtain ⟨b, c₁, hb, h⟩ := run_bind_eq_some.1 h
    obtain ⟨bs', c₂, hbs, h⟩ := run_bind_eq_some.1 h
    obtain ⟨rfl, rfl⟩ := run_pure_eq_some.1 h
    exact ⟨a, rest, c₁, rfl, hb, hbs⟩

/-- What a node that is no alias stands for, and how many aliases (`c`) are followed by then. -/
inductive Node.Means (targets : Targets) (depth c : Nat) : Node → Value → Nat → Prop where
  | scalar {anchor : Option Nat} {tag : Option String} {text : String} {plain : Bool} {v : Value}
      (h : Value.OfScalar text v) : Means targets depth c (.scalar anchor tag text plain) v c
  | sequence {anchor : Option Nat} {tag : Option String} {items : List Node} {vs : List Value}
      {c' : Nat} (h : (items.mapM (Node.value targets depth)).run c = some (vs, c')) :
      Means targets depth c (.sequence anchor tag items) (.sequence vs) c'
  | mapping {anchor : Option Nat} {tag : Option String} {entries : List (Node × Node)}
      {vs : List (Value × Value)} {c' : Nat}
      (h : (entries.mapM fun e : Node × Node => do
        return (← Node.value targets depth e.1, ← Node.value targets depth e.2)).run c =
          some (vs, c')) :
      Means targets depth c (.mapping anchor tag entries) (.mapping vs) c'
  | tagged {n : Node} (name : String) (v : Value) (c' : Nat) :
      Means targets depth c n (.tagged name v) c'

/-- A local tag is put around a value and follows no alias. -/
theorem means_of_withTag {n : Node} {tag : Option String}
    (hv : n.Means targets depth c v c')
    {w : Value} {c₂ : Nat}
    (h : (match Value.localTag? tag with
      | some name => (Value.withTag? name (some v) : Following Value)
      | none => return v : Following Value).run c' = some (w, c₂)) :
    n.Means targets depth c w c₂ := by
  split at h
  · obtain ⟨h, -⟩ := run_lift_eq_some.1 h
    obtain ⟨u, rfl⟩ := Value.exists_of_withTag h
    exact .tagged _ u _
  · obtain ⟨rfl, rfl⟩ := Prod.mk.inj (Option.some.inj h)
    exact hv

/-- One step of the recursion of `Node.value` on the depth. -/
theorem Node.value_succ (targets : Targets) (depth : Nat) (node : Node) :
    node.value targets (depth + 1) = targets.follow node >>= fun n =>
      match n with
      | .alias _ => failure
      | .scalar _ tag text plain => Value.ofScalar? tag text plain
      | .sequence _ tag items => do
        let v ← Value.sequence <$> items.mapM (Node.value targets depth)
        match Value.localTag? tag with
        | some name => Value.withTag? name (some v)
        | none => return v
      | .mapping _ tag entries => do
        let entries ← entries.mapM fun e =>
          return (← Node.value targets depth e.1, ← Node.value targets depth e.2)
        if !Value.hasDistinctKeys entries then failure
        match Value.localTag? tag with
        | some name => Value.withTag? name (some (.mapping entries))
        | none => return .mapping entries := by
  delta Node.value
  dsimp only
  refine bind_congr (m := Following) fun n => ?_
  cases n <;> rfl

namespace Node

variable (anchor : Option Nat)

theorem value_scalar (tag : Option String) (text : String) (plain : Bool) :
    (scalar anchor tag text plain).value targets (depth + 1) =
      Value.ofScalar? tag text plain := by
  rw [value_succ]
  rfl

theorem value_sequence (items : List Node) :
    (sequence anchor none items).value targets (depth + 1) =
      Value.sequence <$> items.mapM (Node.value targets depth) := by
  rw [value_succ]
  simp [Targets.follow, Value.localTag?]

theorem value_mapping (entries : List (Node × Node)) :
    (mapping anchor none entries).value targets (depth + 1) = (do
      let entries ← entries.mapM fun e =>
        return (← Node.value targets depth e.1, ← Node.value targets depth e.2)
      if !Value.hasDistinctKeys entries then failure
      return .mapping entries) := by
  rw [value_succ]
  rfl

end Node

/-- `Node.value` reads a value off the node itself or off the one that it is an alias of. -/
theorem means_of_value (h : (node.value targets (depth + 1)).run c = some (v, c')) :
    ∃ n c₁, (targets.follow node).run c = some (n, c₁) ∧ n.Means targets depth c₁ v c' := by
  rw [Node.value_succ, run_bind_eq_some] at h
  obtain ⟨n, c₁, hfollow, h⟩ := h
  refine ⟨n, c₁, hfollow, ?_⟩
  cases n with
  | «alias» target => cases h
  | scalar anchor tag text plain =>
    obtain ⟨hscalar, rfl⟩ := run_lift_eq_some.1 h
    exact .scalar (Value.ofScalar_of_scalar hscalar)
  | sequence anchor tag items =>
    obtain ⟨w, c₂, hw, h⟩ := run_bind_eq_some.1 h
    obtain ⟨vs, hvs, rfl⟩ := run_map_eq_some.1 hw
    exact means_of_withTag (.sequence hvs) h
  | mapping anchor tag entries =>
    obtain ⟨vs, c₂, hvs, h⟩ := run_bind_eq_some.1 h
    cases hdistinct : Value.hasDistinctKeys vs with
    | true =>
      rw [hdistinct] at h
      exact means_of_withTag (.mapping hvs) h
    | false =>
      rw [hdistinct] at h
      cases h

/-! ## Entries of documents -/

/-- A key that stands for text is read by `keyText` as this text. -/
theorem keyText_of_value {s : String}
    (h : (node.value targets (depth + 1)).run c = some (.text s, c')) :
    (Document.keyText targets node).run c = some (s, c') := by
  obtain ⟨n, c₁, hfollow, hmeans⟩ := means_of_value h
  cases hmeans with
  | scalar h =>
    cases h
    exact run_bind_eq_some.2 ⟨_, _, hfollow, rfl⟩

/-- A node that stands for a sequence is read by `recordValues` as the values of it. -/
theorem recordValues_of_value {vs : List Value}
    (h : (node.value targets (nestingLimit - 1)).run c = some (.sequence vs, c')) :
    (Document.recordValues targets node).run c = some (vs, c') := by
  obtain ⟨n, c₁, hfollow, hmeans⟩ := means_of_value h
  cases hmeans with
  | scalar h => cases h
  | sequence h => exact run_bind_eq_some.2 ⟨_, _, hfollow, h⟩

/-- The entries of a mapping that stands for one of `known` keys and sequences are read by
`readEntries` as such. -/
theorem readEntries_of_value {entries : List (Node × Node)} {fields : List (String × List Value)}
    (h : (entries.mapM fun e : Node × Node => do
      return (← Node.value targets (nestingLimit - 1) e.1,
        ← Node.value targets (nestingLimit - 1) e.2)).run c =
          some (fields.map fun f => (.text f.1, .sequence f.2), c'))
    (known : ∀ f ∈ fields, f.1 ∈ [Document.nodesKey, Document.waysKey, Document.relationsKey])
    (nodup : (fields.map Prod.fst).Nodup) :
    (Document.readEntries targets entries).run c = some (fields, c') := by
  induction fields generalizing entries c with
  | nil =>
    obtain ⟨rfl, rfl⟩ := run_mapM_eq_some h
    rfl
  | cons f fields ih =>
    obtain ⟨e, rest, c₃, rfl, he, hrest⟩ := run_mapM_eq_some h
    obtain ⟨k, c₁, hkey, he⟩ := run_bind_eq_some.1 he
    obtain ⟨v, c₂, hvalues, he⟩ := run_bind_eq_some.1 he
    obtain ⟨hpair, rfl⟩ := run_pure_eq_some.1 he
    obtain ⟨rfl, rfl⟩ := Prod.mk.inj hpair
    obtain ⟨hname, hnodup⟩ := List.nodup_cons.1 nodup
    have hmore := ih hrest (fun g hg => known g (List.mem_cons_of_mem f hg)) hnodup
    have hnew : fields.lookup f.1 = none := List.lookup_eq_none_iff.2 fun g hg =>
      bne_iff_ne.2 fun heq => hname (heq ▸ List.mem_map_of_mem hg)
    rw [Document.readEntries]
    refine run_bind_eq_some.2 ⟨_, _, keyText_of_value hkey, ?_⟩
    rw [if_pos (known f List.mem_cons_self)]
    refine run_bind_eq_some.2 ⟨_, _, recordValues_of_value hvalues, ?_⟩
    refine run_bind_eq_some.2 ⟨_, _, hmore, ?_⟩
    rw [hnew]
    rfl

end Following

/-- The root of a document is no alias, as no node with an anchor comes before it: `follow` stays at
it. -/
theorem follow_root {root n : Node} {c : Nat}
    (h : (root.targets.follow root).run 0 = some (n, c)) : n = root ∧ c = 0 := by
  cases root with
  | «alias» target =>
    simp [Targets.follow, Node.targets, Node.anchored, Node.weight] at h
  | scalar _ _ _ _ | sequence _ _ _ | mapping _ _ _ =>
    obtain ⟨rfl, rfl⟩ := run_pure_eq_some.1 h
    exact ⟨rfl, rfl⟩

/-- `ofRoot?` takes a document apart that stands for the `tree` of the writer. -/
theorem Document.ofRoot?_of_value {d : Document} {root : Node} {count : Nat}
    (h : (root.value root.targets nestingLimit).run 0 = some (d.tree, count)) :
    ofRoot? root = some d := by
  obtain ⟨n, c₁, hfollow, hmeans⟩ := means_of_value h
  obtain ⟨rfl, rfl⟩ := follow_root hfollow
  clear h hfollow
  generalize htree : d.tree = v at hmeans
  cases hmeans with
  | scalar hscalar =>
    subst htree
    nomatch hscalar
  | sequence _ => cases htree
  | tagged => cases htree
  | @mapping anchor tag entries vs _ hvs =>
    cases htree
    have hentries : (readEntries _ entries).run 0 =
        some ([(nodesKey, d.nodes), (waysKey, d.ways), (relationsKey, d.relations)], count) :=
      readEntries_of_value hvs (by simp)
        (by decide : [nodesKey, waysKey, relationsKey].Nodup)
    rw [ofRoot?, hentries]
    rfl

/-! ## Records that come back -/

/-- The text of a value, `v.document`, is parsed to a tree of nodes that stands for the value. -/
def Value.Reproduced (v : Value) : Prop :=
  ∃ root count, Node.ofText? v.document = some root ∧
    (root.value root.targets nestingLimit).run 0 = some (v, count)

/-- A text that reproduces the `tree` of a document is read as the document. -/
theorem Document.ofText?_of_reproduced {d : Document} (h : d.tree.Reproduced) :
    ofText? d.tree.document = some d := by
  obtain ⟨root, count, hroot, hvalue⟩ := h
  rw [ofText?, hroot, Option.bind_some, ofRoot?_of_value hvalue]

open Osm (place placed)

/-- `Yaml.write` writes every record at a finite position. -/
theorem write_of_finite {r : RecordSet} (policy : Policy)
    (h : ∀ n ∈ r.nodes, PlacedRecords.isFinite (place .identity n).2 = true) :
    write .identity policy r = pure (encodeRecords (placed r)).document := by
  have hlost := Osm.lostNodes_eq_nil_iff.2 h
  rw [write, Osm.ofRecords_of_eq_nil hlost, Osm.placedNodes_of_eq_nil hlost, pure_bind]
  rfl

/-- Nothing of records at finite positions is lost between them and the tree of their document:
strict `Yaml.write` prints the tree, and from the document that the tree stands for `readRecords`
takes the very records, without a failure. So they come back from every text that reproduces the
tree (`Reproduced`). -/
theorem lossless_tree {r : RecordSet}
    (finite : ∀ n ∈ r.nodes, isFiniteFloat n.position.x = true ∧
      isFiniteFloat n.position.y = true ∧ isFiniteFloat n.position.z = true) :
    ∃ d : Document, d.tree = encodeRecords (placed r) ∧
      (∀ messages, write .identity .strict r messages = (.ok d.tree.document, messages)) ∧
      (∀ root count, (root.value root.targets nestingLimit).run 0 = some (d.tree, count) →
        Document.ofRoot? root = some d) ∧
      (∀ messages, readRecords .identity .strict d messages = (.ok r, messages)) ∧
      (d.tree.Reproduced → ∀ messages,
        read .identity .strict d.tree.document messages = (.ok r, messages)) := by
  have hfinite : ∀ n ∈ r.nodes, PlacedRecords.isFinite (place .identity n).2 = true := by
    intro n hn
    obtain ⟨hx, hy, hz⟩ := finite n hn
    exact Osm.isFinite_iff.2 ⟨hy, hx, hz⟩
  -- The identity projector puts every node back where it was.
  have hread : ∀ policy, readRecords .identity policy (.ofPlaced (placed r)) = pure r := by
    intro policy
    rw [readRecords_ofPlaced, placed, List.map_map]
    exact congrArg pure (congrArg (RecordSet.mk · r.ways r.relations) (List.map_id r.nodes))
  refine ⟨.ofPlaced (placed r), rfl, fun messages => ?_, fun root count h => ?_, fun messages => ?_,
    fun h messages => ?_⟩
  · rw [write_of_finite .strict hfinite]
    rfl
  · exact Document.ofRoot?_of_value h
  · rw [hread]
    rfl
  · rw [read, Document.ofText?_of_reproduced h]
    dsimp only
    rw [hread]
    rfl

/-- A node with the least id and with tags that look like fields, numbers and other scalars, a way
whose nodes are not in the order of their ids, and a relation with members of two kinds, one in a
role that looks like a number and one in a role without a name. -/
def lookalike : RecordSet where
  nodes := [⟨-9223372036854775808, ⟨0.5, -1.25, 3⟩,
    SortedMap.ofList [("area", "true"), ("ele", "1.5"), ("note", "~")]⟩]
  ways := [⟨2, [4, 3], .empty⟩]
  relations := [⟨9, .empty, [⟨"7", .way, 2⟩, ⟨"", .node, 4⟩]⟩]

/-- The tree of `lookalike`. -/
def lookalikeTree : Value :=
  let member (kind : String) (id : Int) (role : String) : Value :=
    .mapping [(.text "type", .text kind), (.text "ref", .int id), (.text "role", .text role)]
  .mapping
    [(.text "nodes", .sequence
      [.mapping
        [(.text "id", .int (-9223372036854775808)), (.text "lat", .real (-1.25)),
          (.text "lon", .real 0.5), (.text "ele", .real 3),
          (.text "tags", .mapping
            [(.text "area", .text "true"), (.text "ele", .text "1.5"),
              (.text "note", .text "~")])]]),
    (.text "ways", .sequence
      [.mapping
        [(.text "id", .int 2), (.text "nodes", .sequence [.int 4, .int 3])]]),
    (.text "relations", .sequence
      [.mapping
        [(.text "id", .int 9),
          (.text "members", .sequence [member "way" 2 "7", member "node" 4 ""])]])]

/-- The document of `lookalike`. -/
def lookalikeText : String :=
  "nodes:\n- id: -9223372036854775808\n  lat: -1.25\n  lon: 0.5\n  ele: 3.0\n" ++
    "  tags:\n    area: 'true'\n    ele: '1.5'\n    note: '~'\n" ++
    "ways:\n- id: 2\n  nodes:\n  - 4\n  - 3\nrelations:\n- id: 9\n  members:\n" ++
    "  - type: way\n    ref: 2\n    role: '7'\n  - type: node\n    ref: 4\n    role: ''\n"

/-- The nodes that `lookalikeText` spells out. -/
def lookalikeRoot : Node :=
  let plain s := Node.scalar none none s true
  let quoted s := Node.scalar none none s false
  let member kind id role := Node.mapping none none
    [(plain "type", plain kind), (plain "ref", plain id), (plain "role", quoted role)]
  .mapping none none
    [(plain "nodes", .sequence none none
      [.mapping none none
        [(plain "id", plain "-9223372036854775808"), (plain "lat", plain "-1.25"),
          (plain "lon", plain "0.5"), (plain "ele", plain "3.0"),
          (plain "tags", .mapping none none
            [(plain "area", quoted "true"), (plain "ele", quoted "1.5"),
              (plain "note", quoted "~")])]]),
    (plain "ways", .sequence none none
      [.mapping none none
        [(plain "id", plain "2"),
          (plain "nodes", .sequence none none [plain "4", plain "3"])]]),
    (plain "relations", .sequence none none
      [.mapping none none
        [(plain "id", plain "9"), (plain "members", .sequence none none
            [member "way" "2" "7", member "node" "4" ""])]])]

theorem encode_lookalike : encodeRecords (placed lookalike) = lookalikeTree := rfl

theorem document_lookalikeTree : lookalikeTree.document = lookalikeText := by
  have hkeys : ∀ s ∈ ["nodes", "id", "lat", "lon", "ele", "tags", "area", "note", "ways",
      "relations", "type", "members", "ref", "role"],
      textStyle s = .plain ∧ isShortKey s = true := by decide +kernel
  have hplain : ∀ s ∈ ["way", "node"], textStyle s = .plain := by decide +kernel
  have hquoted : ∀ s ∈ ["true", "1.5", "~", "7", ""], textStyle s = .singleQuoted := by
    decide +kernel
  have hreal : numeral 0.5 = "0.5" ∧ numeral (-1.25) = "-1.25" ∧ numeral 3 = "3.0" := by
    decide +kernel
  simp only [List.forall_mem_cons] at hkeys hplain hquoted
  simp only [lookalikeTree, Value.document, Value.block, entryLines, itemLines, Value.behindKey,
    textLines, hkeys, hplain, hquoted, hreal]
  decide +kernel

set_option maxRecDepth 20000 in
theorem ofText?_lookalikeText : Node.ofText? lookalikeText = some lookalikeRoot := by
  unfold lookalikeRoot
  cbv

/-- Plain scalars stand for what they look like, and quoted ones for text. -/
theorem value_lookalikeRoot (targets : Targets) (c : Nat) :
    (lookalikeRoot.value targets nestingLimit).run c = some (lookalikeTree, c) := by
  have htexts : ∀ s ∈ ["nodes", "id", "lat", "lon", "ele", "tags", "area", "note", "ways",
      "relations", "type", "members", "ref", "role", "way", "node"],
      Scalar.ofPlain s = .text s := by decide +kernel
  have hnumbers : Scalar.ofPlain "-9223372036854775808" = .whole (-9223372036854775808) ∧
      isWord (-9223372036854775808) = true ∧ Scalar.ofPlain "-1.25" = .real (-1.25) ∧
      Scalar.ofPlain "0.5" = .real 0.5 ∧ Scalar.ofPlain "3.0" = .real 3 := by decide +kernel
  have hids : Scalar.ofPlain "2" = .whole 2 ∧ isWord 2 = true ∧ Scalar.ofPlain "3" = .whole 3 ∧
      isWord 3 = true ∧ Scalar.ofPlain "4" = .whole 4 ∧ isWord 4 = true ∧
      Scalar.ofPlain "9" = .whole 9 ∧ isWord 9 = true := by decide +kernel
  simp only [List.forall_mem_cons] at htexts
  simp only [nestingLimit, lookalikeRoot, Node.value_scalar, Node.value_mapping,
    Node.value_sequence, Value.ofScalar?, Value.localTag?, Value.ofText?, Value.ofPlain?, htexts,
    hnumbers, hids, List.mapM_cons, List.mapM_nil, StateT.run_bind, StateT.run_map]
  simp [Value.hasDistinctKeys, Value.same, lookalikeTree]

/-- The quotes that `Yaml.write` puts around the tags of `lookalike` are enough to tell them from
numbers, booleans and nulls. -/
theorem lossless_lookalike :
    (∀ n ∈ lookalike.nodes, isFiniteFloat n.position.x = true ∧
      isFiniteFloat n.position.y = true ∧ isFiniteFloat n.position.z = true) ∧
    write .identity .strict lookalike [] = (.ok lookalikeText, []) ∧
    read .identity .strict lookalikeText [] = (.ok lookalike, []) := by
  have hfinite : ∀ n ∈ lookalike.nodes, isFiniteFloat n.position.x = true ∧
      isFiniteFloat n.position.y = true ∧ isFiniteFloat n.position.z = true := by decide
  obtain ⟨d, htree, hwrite, -, -, hread⟩ := lossless_tree hfinite
  rw [encode_lookalike] at htree
  rw [htree, document_lookalikeTree] at hwrite hread
  have hreproduced : lookalikeTree.Reproduced :=
    ⟨lookalikeRoot, 0, document_lookalikeTree ▸ ofText?_lookalikeText, value_lookalikeRoot _ 0⟩
  exact ⟨hfinite, hwrite [], hread hreproduced []⟩

end RoadNet.Yaml
