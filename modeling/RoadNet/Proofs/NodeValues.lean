import RoadNet.Proofs.KeyOrder
import RoadNet.Proofs.YamlRoundTrip

/-!
# RoadNet.Proofs.NodeValues

The nodes of a YAML document and the values that they stand for, taken apart together.

* `Targets.child?` — the node under a key of a mapping, aliases followed;
* `Node.StandsFor.exists_shows` — a value has the shape of the node that stands for it;
* `foldlM_lastUnder` — what a computation along the entries of a mapping makes of a key;
* `Node.StandsFor.find?_dictionary` — a dictionary binds a key to the value of the node under it.
-/

namespace RoadNet.Yaml

/-! ## Nodes under keys -/

namespace Targets

variable (targets : Targets)

/-- The node itself, or the one that an alias names among the `targets`. -/
def resolve? : Node → Option Node
  | .alias number => targets.nodes.lookup number
  | node => some node

/-- The items of a sequence, aliases followed; none for other nodes. -/
def items (node : Node) : List Node :=
  match targets.resolve? node with
  | some (.sequence _ _ items) => items
  | _ => []

/-- The entries of a mapping, aliases followed; none for other nodes. -/
def entries (node : Node) : List (Node × Node) :=
  match targets.resolve? node with
  | some (.mapping _ _ entries) => entries
  | _ => []

/-- Whether a node is a scalar with a text. -/
def hasText (text : String) (node : Node) : Bool :=
  match targets.resolve? node with
  | some (.scalar _ _ s _) => s == text
  | _ => false

/-- The node of the last entry whose key has the text `key`. -/
def lastUnder? (key : String) : List (Node × Node) → Option Node
  | [] => none
  | (k, node) :: rest =>
    (lastUnder? key rest).or (if targets.hasText key k then some node else none)

/-- The node under the text `key` of a mapping, by `lastUnder?`. -/
def child? (key : String) (node : Node) : Option Node :=
  targets.lastUnder? key (targets.entries node)

end Targets

/-! ## Values of nodes -/

variable {targets : Targets} {depth : Nat} {node n : Node} {v w : Value} {c c' : Nat}
  {anchor : Option Nat} {tag : Option String} {s : String} {plain : Bool}

/-- A node stands for a value if `Node.value` reads it so, however deep it is nested and however
many aliases were followed. -/
def Node.StandsFor (targets : Targets) (node : Node) (v : Value) : Prop :=
  ∃ depth c c', (node.value targets depth).run c = some (v, c')

/-- What a node that is no alias stands for, in terms of its parts. -/
inductive Node.Shows (targets : Targets) : Node → Value → Prop where
  | scalar {anchor : Option Nat} {tag : Option String} {s : String} {plain : Bool} {v : Value}
      (h : Value.ofScalar? tag s plain = some v) : Shows targets (.scalar anchor tag s plain) v
  | sequence {anchor : Option Nat} {tag : Option String} {items : List Node} {vs : List Value}
      {v : Value} (hv : v.untagged = .sequence vs)
      (h : List.Forall₂ (Node.StandsFor targets) items vs) :
      Shows targets (.sequence anchor tag items) v
  | mapping {anchor : Option Nat} {tag : Option String} {entries : List (Node × Node)}
      {vs : List (Value × Value)} {v : Value} (hv : v.untagged = .mapping vs)
      (h : List.Forall₂ (fun e w => e.1.StandsFor targets w.1 ∧ e.2.StandsFor targets w.2)
        entries vs) :
      Shows targets (.mapping anchor tag entries) v

/-- The node that `follow` leads to is the one that `resolve?` finds. -/
theorem resolve?_of_follow (h : (targets.follow node).run c = some (n, c')) :
    targets.resolve? node = some n := by
  cases node with
  | «alias» number =>
    rw [Targets.follow] at h
    obtain ⟨count, c₁, -, h⟩ := run_bind_eq_some.1 h
    split at h
    · cases h
    · obtain ⟨-, c₂, -, h⟩ := run_bind_eq_some.1 h
      exact (run_lift_eq_some.1 h).1
  | scalar _ _ _ _ | sequence _ _ _ | mapping _ _ _ =>
    exact congrArg some (run_pure_eq_some.1 h).1

/-- A run of `mapM` that gives results has run at every element of the list. -/
theorem forall₂_of_run_mapM {α β : Type} {f : α → Following β} {l : List α} {bs : List β}
    (h : (l.mapM f).run c = some (bs, c')) :
    List.Forall₂ (fun a b => ∃ c c', (f a).run c = some (b, c')) l bs := by
  induction bs generalizing l c with
  | nil =>
    obtain ⟨rfl, -⟩ := run_mapM_eq_some h
    exact .nil
  | cons b bs ih =>
    obtain ⟨a, rest, c₁, rfl, hb, hbs⟩ := run_mapM_eq_some h
    exact .cons ⟨c, c₁, hb⟩ (ih hbs)

/-- The same for the keys and values of `entries`. -/
theorem forall₂_of_run_entries {entries : List (Node × Node)} {vs : List (Value × Value)}
    (h : (entries.mapM fun e : Node × Node => do
      return (← Node.value targets depth e.1, ← Node.value targets depth e.2)).run c =
        some (vs, c')) :
    List.Forall₂ (fun e w => e.1.StandsFor targets w.1 ∧ e.2.StandsFor targets w.2)
      entries vs := by
  refine (forall₂_of_run_mapM h).imp fun e w he => ?_
  obtain ⟨c, c', he⟩ := he
  obtain ⟨k, c₁, hkey, he⟩ := run_bind_eq_some.1 he
  obtain ⟨v, c₂, hvalue, he⟩ := run_bind_eq_some.1 he
  obtain ⟨rfl, -⟩ := run_pure_eq_some.1 he
  exact ⟨⟨depth, c, c₁, hkey⟩, ⟨depth, c₁, c₂, hvalue⟩⟩

/-- A local tag is put around a value and does not change what is `untagged`. -/
theorem untagged_of_withTag
    (h : (match Value.localTag? tag with
      | some name => (Value.withTag? name (some v) : Following Value)
      | none => return v : Following Value).run c = some (w, c')) : w.untagged = v.untagged := by
  split at h
  · obtain ⟨h, -⟩ := run_lift_eq_some.1 h
    unfold Value.withTag? at h
    split at h
    · cases h
    · obtain rfl := Option.some.inj h
      rfl
  · obtain ⟨rfl, rfl⟩ := Prod.mk.inj (Option.some.inj h)
    rfl

theorem Node.value_zero (targets : Targets) (node : Node) :
    node.value targets 0 = targets.follow node >>= fun n =>
      match n with
      | .scalar _ tag text plain => Value.ofScalar? tag text plain
      | _ => failure := by
  delta Node.value
  dsimp only
  refine bind_congr (m := Following) fun n => ?_
  cases n <;> rfl

/-- A node that stands for a value resolves to one that `Shows` it, itself or the one it is an alias
of. -/
theorem Node.StandsFor.exists_shows (h : node.StandsFor targets v) :
    ∃ n, targets.resolve? node = some n ∧ n.Shows targets v := by
  obtain ⟨depth, c, c', h⟩ := h
  cases depth with
  | zero =>
    rw [Node.value_zero, run_bind_eq_some] at h
    obtain ⟨n, c₁, hfollow, h⟩ := h
    refine ⟨n, resolve?_of_follow hfollow, ?_⟩
    cases n with
    | scalar anchor tag text plain => exact .scalar (run_lift_eq_some.1 h).1
    | «alias» _ | sequence _ _ _ | mapping _ _ _ => cases h
  | succ depth =>
    rw [Node.value_succ, run_bind_eq_some] at h
    obtain ⟨n, c₁, hfollow, h⟩ := h
    refine ⟨n, resolve?_of_follow hfollow, ?_⟩
    cases n with
    | «alias» target => cases h
    | scalar anchor tag text plain => exact .scalar (run_lift_eq_some.1 h).1
    | sequence anchor tag items =>
      obtain ⟨w, c₂, hw, h⟩ := run_bind_eq_some.1 h
      obtain ⟨vs, hvs, rfl⟩ := run_map_eq_some.1 hw
      exact .sequence (untagged_of_withTag h) ((forall₂_of_run_mapM hvs).imp
        fun _ _ ⟨c, c', h⟩ => ⟨depth, c, c', h⟩)
    | mapping anchor tag entries =>
      obtain ⟨vs, c₂, hvs, h⟩ := run_bind_eq_some.1 h
      cases hdistinct : Value.hasDistinctKeys vs with
      | true =>
        rw [hdistinct] at h
        exact .mapping (untagged_of_withTag h) (forall₂_of_run_entries hvs)
      | false =>
        rw [hdistinct] at h
        cases h

/-! ## Keys -/

namespace Value

/-- The value of `ofText?` is no tagged one. -/
theorem untagged_of_ofText? (h : ofText? tag s plain = some v) : v.untagged = v := by
  unfold ofText? at h
  split at h
  · split at h
    · unfold ofPlain? at h
      split at h
      case h_3 =>
        split at h
        · exact Option.some.inj h ▸ rfl
        · cases h
      all_goals exact Option.some.inj h ▸ rfl
    · exact Option.some.inj h ▸ rfl
  · split at h
    · obtain ⟨b, -, rfl⟩ := Option.map_eq_some_iff.1 h
      rfl
    · split at h
      · obtain ⟨n, -, rfl⟩ := Option.map_eq_some_iff.1 h
        rfl
      · split at h
        · obtain ⟨x, -, rfl⟩ := Option.map_eq_some_iff.1 h
          rfl
        · split at h
          · split at h
            · exact Option.some.inj h ▸ rfl
            · cases h
          · exact Option.some.inj h ▸ rfl

/-- The value of a scalar is one of `ofText?`, perhaps with a local tag around it. -/
theorem ofText?_of_ofScalar? (h : ofScalar? tag s plain = some v) :
    ∃ tag, ofText? tag s plain = some v.untagged := by
  unfold ofScalar? at h
  split at h
  next =>
    unfold withTag? at h
    split at h
    · cases h
    · obtain ⟨u, hu, rfl⟩ := Option.map_eq_some_iff.1 h
      exact ⟨none, hu.trans (congrArg some (untagged_of_ofText? hu).symm)⟩
  next => exact ⟨tag, h.trans (congrArg some (untagged_of_ofText? h).symm)⟩

/-- A scalar that stands for text stands for its own, whatever its tag. -/
theorem eq_of_ofScalar? {name : String} (h : ofScalar? tag s plain = some v)
    (hv : v.untagged = .text name) : name = s := by
  obtain ⟨tag, htext⟩ := ofText?_of_ofScalar? h
  rw [hv] at htext
  cases ofScalar_of_text htext
  rfl

/-- A whole number that a scalar stands for is one of 64 bits (`isWord`). -/
theorem isWord_of_ofScalar? {n : Int} (h : ofScalar? tag s plain = some (.int n)) :
    isWord n = true := by
  obtain ⟨tag, h⟩ := ofText?_of_ofScalar? h
  unfold ofText? at h
  split at h
  · split at h
    · unfold ofPlain? at h
      split at h
      case h_3 =>
        split at h
        next hword => exact Value.int.inj (Option.some.inj h) ▸ hword
        next => cases h
      all_goals cases h
    · cases h
  · split at h
    · obtain ⟨b, -, hb⟩ := Option.map_eq_some_iff.1 h
      cases hb
    · split at h
      · obtain ⟨m, hm, hint⟩ := Option.map_eq_some_iff.1 h
        obtain rfl := Value.int.inj hint
        exact (Option.filter_eq_some_iff.1 hm).2
      · split at h
        · obtain ⟨x, -, hx⟩ := Option.map_eq_some_iff.1 h
          cases hx
        · split at h
          · split at h <;> cases h
          · cases h

theorem string_eq_ok {expected : String} : v.string expected = .ok s ↔ v.untagged = .text s := by
  constructor
  · intro h
    unfold string at h
    split at h
    next t ht =>
      obtain rfl := Except.ok.inj h
      exact ht
    next => cases h
  · intro h
    rw [string, h]

end Value

/-- `hasText` finds the text of a key that stands for text. -/
theorem Node.StandsFor.hasText {name : String} (h : node.StandsFor targets v)
    (hv : v.untagged = .text name) (key : String) : targets.hasText key node = (name == key) := by
  obtain ⟨n, hresolve, hshows⟩ := h.exists_shows
  rw [Targets.hasText, hresolve]
  cases hshows with
  | scalar h => rw [Value.eq_of_ofScalar? h hv]
  | sequence hvs _ | mapping hvs _ =>
    rw [hvs] at hv
    cases hv

/-- The `entries` of a node that stands for a mapping stand for those of the mapping. -/
theorem Node.StandsFor.forall₂_entries {expected : String} {vs : List (Value × Value)}
    (h : node.StandsFor targets v) (hv : v.entries expected = .ok vs) :
    List.Forall₂ (fun e w => e.1.StandsFor targets w.1 ∧ e.2.StandsFor targets w.2)
      (targets.entries node) vs := by
  obtain ⟨n, hresolve, hshows⟩ := h.exists_shows
  rw [Targets.entries, hresolve]
  unfold Value.entries at hv
  cases hshows with
  | scalar h =>
    split at hv
    next entries hentries =>
      obtain ⟨tag, htext⟩ := Value.ofText?_of_ofScalar? h
      rw [hentries] at htext
      nomatch Value.ofScalar_of_text htext
    next =>
      obtain rfl := Except.ok.inj hv
      exact .nil
    next => cases hv
  | sequence hvs _ =>
    rw [hvs] at hv
    cases hv
  | mapping hvs h =>
    rw [hvs] at hv
    obtain rfl := Except.ok.inj hv
    exact h

/-! ## Entries one after the other -/

/-- What a `foldlM` along the entries of a mapping makes of one key: of several entries with this
key it is the last that counts (`lastUnder?`). -/
theorem foldlM_lastUnder {β γ : Type} (key : String) (observe : β → Option γ)
    (Made : Value → γ → Prop) {step : β → Value × Value → Except Mismatch β}
    (hstep : ∀ b e b', step b e = .ok b' → ∃ name, e.1.untagged = .text name ∧
      if name = key then ∃ g, Made e.2 g ∧ observe b' = some g else observe b' = observe b)
    {entries : List (Node × Node)} {vs : List (Value × Value)}
    (h : List.Forall₂ (fun e w => e.1.StandsFor targets w.1 ∧ e.2.StandsFor targets w.2) entries vs)
    {b b' : β} (hfold : vs.foldlM step b = .ok b') :
    match targets.lastUnder? key entries with
    | none => observe b' = observe b
    | some n => ∃ v g, n.StandsFor targets v ∧ Made v g ∧ observe b' = some g := by
  induction h generalizing b with
  | nil =>
    obtain rfl := Except.ok.inj hfold
    rfl
  | @cons e w entries vs he _ ih =>
    obtain ⟨k, node⟩ := e
    rw [List.foldlM_cons] at hfold
    obtain ⟨b₁, hb₁, hrest⟩ := bind_eq_ok.1 hfold
    obtain ⟨name, hname, hobserve⟩ := hstep b w b₁ hb₁
    have hlast := ih hrest
    rw [Targets.lastUnder?, he.1.hasText hname key]
    cases hunder : targets.lastUnder? key entries with
    | some n =>
      rw [hunder] at hlast
      exact hlast
    | none =>
      rw [hunder] at hlast
      rw [Option.none_or]
      by_cases hkey : name = key
      · rw [if_pos hkey] at hobserve
        obtain ⟨g, hmade, hg⟩ := hobserve
        rw [if_pos (beq_iff_eq.2 hkey)]
        exact ⟨w.2, g, he.2, hmade, hlast.trans hg⟩
      · rw [if_neg hkey] at hobserve
        rw [if_neg (by simpa using hkey)]
        exact hlast.trans hobserve

/-- A mapping with text keys binds each of them to the value of its `child?`. -/
theorem Node.StandsFor.find?_dictionary {m : SortedMap String Value} {key : String}
    (h : node.StandsFor targets v) (hv : v.dictionary = .ok m)
    (hkey : targets.child? key node = some n) :
    ∃ w, n.StandsFor targets w ∧ m.find? key = some w := by
  unfold Value.dictionary at hv
  obtain ⟨vs, hvs, hfold⟩ := bind_eq_ok.1 hv
  have hlast := foldlM_lastUnder key (fun m : SortedMap String Value => m.find? key) Eq ?_
    (h.forall₂_entries hvs) hfold
  · rw [Targets.child?] at hkey
    rw [hkey] at hlast
    obtain ⟨w, g, hw, rfl, hg⟩ := hlast
    exact ⟨w, hw, hg⟩
  · intro b e b' he
    obtain ⟨name, hname, he⟩ := bind_eq_ok.1 he
    obtain rfl := Except.ok.inj he
    refine ⟨name, Value.string_eq_ok.1 hname, ?_⟩
    split
    next hkey => exact ⟨e.2, rfl, by rw [SortedMap.find?_insert, if_pos hkey.symm]⟩
    next hkey => rw [SortedMap.find?_insert, if_neg (Ne.symm hkey)]

end RoadNet.Yaml
