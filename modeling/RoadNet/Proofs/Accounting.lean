import RoadNet.Proofs.Assembled
import RoadNet.Proofs.Messages
import RoadNet.Proofs.Rules

/-!
# RoadNet.Proofs.Accounting

A robust run of assembly loses no record without a word, and says nothing twice.

Duplicates, both clean-ups and the build loop each drop records from a different list. Their
accounts add up (`Assembly.drops_kept`): every record of the input is in the map or named by
one failure, and a failure that blames a missing record comes after the failure that names it.
What holds of the failures then holds of the texts that the run hands out
(`RoadMap.accounts_of_ofRecords`), because each text tells which record it is about and which
element it blames.

The one exception is the verdict of a rule from outside this library, which is passed on in its own
words (`Assembly.Accuses`): such a rule may call an element missing that is there
(`RoadMap.accused_present`).
-/

namespace RoadNet

/-! ## Verdicts -/

/-- What breaks a rule (`Fault.Breaks`) blames no element as missing. -/
theorem Fault.Breaks.missing_eq_none {rule : String} {id id' : Id} {kind : RecordKind}
    {fault : Fault} (h : Fault.Breaks rule id fault) :
    (Failure.recordFailed kind id' fault).missing? = none := by
  cases h <;> rfl

/-- A failure that blames an element as missing is an `unresolvedReference`. -/
theorem Failure.recordFailed_missing {kind k : RecordKind} {id i : Id} {fault : Fault}
    (h : (Failure.recordFailed kind id fault).missing? = some (k, i)) :
    ∃ holder role member, fault = .unresolvedReference holder role member := by
  cases fault with
  | unresolvedReference holder role member => exact ⟨holder, role, member, rfl⟩
  | _ => cases h

/-- A factory of this library, one of `builtinRules`. -/
def RuleFactory.BuiltIn (factory : RuleFactory) : Prop :=
  ∃ name, (name, factory) ∈ RuleRegistry.builtinRules

namespace Assembly

open BuiltRelation

variable (g : RuleRegistry) (r : RecordSet)

/-- A failure in which a rule from outside this library has the word: the registered `factory`
refuses a relation of the records, and the reason it gives is that `member` were missing. -/
inductive Accuses (member : Reference) : Failure → Prop where
  | verdict {x : RelationRecord} {s : RoleStore} {name : String} {factory : RuleFactory}
      {holder : Id} {role : String} (mem : x ∈ r.relations)
      (store : (classes r).roleStore x = .ok s)
      (rule : s.ruleName? = some name) (registered : g.factories.find? name = some factory)
      (outside : ¬factory.BuiltIn)
      (refuses : factory s = .error (.unresolvedReference holder role member)) :
      Accuses member (.recordFailed .relation x.id (.unresolvedReference holder role member))

/-- The built-in rules accuse no element: none of them fails with `unresolvedReference`. -/
theorem not_accuses_builtin (member : Reference) (f : Failure) : ¬Accuses .builtin r member f := by
  rintro ⟨-, -, -, registered, outside, -⟩
  exact outside ⟨_, (SortedMap.find?_ofList RuleRegistry.nodup_builtinRules).1 registered⟩

/-- A failure that `Accuses` some element. -/
def Foreign (f : Failure) : Prop := ∃ member, Accuses g r member f

/-! ## Accounts -/

/-- The relations that do not build leave `closed r`, and only a rule from outside may blame another
record (`Foreign`). -/
theorem drops_buildable : Drops (Foreign g r) (closed r) (buildable g r) (refusals g r) := by
  refine Drops.of_failures .relation (·.id) (distinct_closed r) (buildable_within g r) rfl rfl ?_
    fun x hx f hf => ?_
  · intro other hother
    cases other with
    | relation => exact absurd rfl hother
    | _ => rfl
  · obtain ⟨fault, hfault, rfl⟩ := refusal?_eq_some g _ hf
    refine ⟨rfl, fun k id hm => ?_⟩
    rcases ofRecord_eq_error hfault with hbreaks | ⟨role, member, rfl⟩ | ⟨s, hs, hu⟩
    · rw [hbreaks.missing_eq_none] at hm
      cases hm
    · cases hm
    · obtain ⟨name, factory, hname, hfactory, hrefuses⟩ := RuleRegistry.upgrade_eq_error hu
      by_cases hbuiltIn : factory.BuiltIn
      · obtain ⟨rule, hrule⟩ := hbuiltIn
        have hbreaks := RuleRegistry.failsOnly_of_mem_builtinRules hrule s fault hrefuses
        rw [hbreaks.missing_eq_none] at hm
        cases hm
      · obtain ⟨holder, role, member, rfl⟩ := Failure.recordFailed_missing hm
        exact .inr ⟨member, .verdict ((closed_within r).relations hx) hs hname hfactory hbuiltIn
          hrefuses⟩

/-- Every record that is not `kept` is accounted for by one of the `failures`. -/
theorem drops_kept : Drops (Foreign g r) r (kept g r) (failures g r) := by
  have hclosed := RecordSet.drops_pruneDangling (Foreign g r) r.distinct_dropDuplicateIds
  have hkept := RecordSet.drops_pruneDangling (Foreign g r) (distinct_buildable g r)
  exact (r.drops_duplicates (Foreign g r)).trans
    (hclosed.trans ((drops_buildable g r).trans hkept))

/-- Each of the `failures` of a run is the one of a repeated identifier (`duplicateId`) or a
`recordFailed`, which gives a fault as its reason. -/
theorem duplicate_or_recordFailed {f : Failure} (h : f ∈ failures g r) :
    (∃ kind id, f = .malformedRecord kind (some id) .duplicateId) ∨
      ∃ kind id fault, f = .recordFailed kind id fault := by
  have hremoval : ∀ {removals : List RecordSet.Removal},
      f ∈ removals.map RecordSet.Removal.failure → ∃ kind id fault,
        f = .recordFailed kind id fault := by
    intro removals hf
    obtain ⟨x, -, rfl⟩ := List.mem_map.1 hf
    exact ⟨x.kind, x.id, _, rfl⟩
  rcases List.mem_append.1 h with hduplicate | h
  · obtain ⟨kind, id, -, rfl⟩ := r.duplicateId_of_mem hduplicate
    exact .inl ⟨kind, id, rfl⟩
  rcases List.mem_append.1 h with hremoved | h
  · exact .inr (hremoval hremoved)
  rcases List.mem_append.1 h with hrefused | hremoved
  · obtain ⟨x, -, hx⟩ := List.mem_filterMap.1 hrefused
    obtain ⟨fault, -, rfl⟩ := refusal?_eq_some g _ hx
    exact .inr ⟨.relation, x.id, fault, rfl⟩
  · exact .inr (hremoval hremoved)

end Assembly

namespace RoadMap

open Assembly

/-- Robust assembly accounts for every record of the input. Each is in the map and no text of the
run is about it (`isAbout`), or it is not in the map and exactly one text is; no text is about
anything else. A text that `Blames` a record of the input as missing comes after the text about
that record, unless a rule from outside this library gave the missing record as the reason to
refuse a relation (`Accuses`). So a strict run that succeeds has lost no record. -/
theorem accounts_of_ofRecords (g : RuleRegistry) (keeps : g.KeepsStores) (r : RecordSet) :
    ∃ m texts,
      (∀ messages, ofRecords g .robust r messages = (.ok m, messages ++ texts)) ∧
      (∀ kind id, id ∈ r.ids kind →
        (m.Holds kind id ∧ texts.countP (isAbout kind id) = 0) ∨
          (¬m.Holds kind id ∧ texts.countP (isAbout kind id) = 1)) ∧
      (∀ text ∈ texts, ∃ kind id, id ∈ r.ids kind ∧ isAbout kind id text = true) ∧
      TellsCausesFirst r (fun member text => ∃ f, Accuses g r member f ∧ f.message = text) texts ∧
      ∀ messages m', (ofRecords g .strict r messages).1 = .ok m' →
        ∀ kind id, id ∈ r.ids kind → (r.ids kind).count id = 1 ∧ m'.Holds kind id := by
  have hrun := settles_ofRecords g r
  have hdrops := drops_kept g r
  refine ⟨map g r, (failures g r).map Failure.message, hrun.robust, fun kind id hid => ?_,
    fun text htext => ?_, ?_, fun messages m' hm kind id hid => ?_⟩
  · rw [holds_iff g r keeps, countP_isAbout hdrops.named]
    exact hdrops.present_or_named hid
  · obtain ⟨f, hf, rfl⟩ := List.mem_map.1 htext
    obtain ⟨kind, id, hrecord⟩ := hdrops.named f hf
    exact ⟨kind, id, hdrops.mem_of_record hf hrecord, (isAbout_message hrecord).2 rfl⟩
  · refine hdrops.causes.tells (fun f => duplicate_or_recordFailed g r) ?_
    intro kind id holder role member hforeign
    obtain ⟨member', haccuses⟩ := hforeign
    cases haccuses with
    | verdict mem store rule registered outside refuses =>
      exact ⟨_, .verdict mem store rule registered outside refuses, rfl⟩
  · have hnil : failures g r = [] := hrun.eq_nil_of_strict hm
    rw [← Except.ok.inj (hrun.eq_of_ok hm), holds_iff g r keeps]
    rw [hnil] at hdrops
    constructor
    · have hduplicates := List.append_eq_nil_iff.1 hnil
      have hmentions := r.mentions_dropDuplicateIds kind id
      rw [hduplicates.1, RecordSet.count_repeatedIds] at hmentions
      have hpos : 0 < (r.ids kind).count id := List.count_pos_iff.2 hid
      have hzero : Failure.mentions [] kind id = 0 := rfl
      split at hmentions <;> omega
    · rcases hdrops.present_or_named hid with ⟨hkept, -⟩ | ⟨-, hone⟩
      · exact hkept
      · cases hone

/-- The way that misses a node is not in the map, the one text is about it, and no rule has to be
excused. -/
theorem accounts_crossing :
    RuleRegistry.builtin.KeepsStores ∧ ∃ m,
      (∀ messages, ofRecords .builtin .robust crossing messages =
        (.ok m, messages ++ ["way 12: Role 'nodes' of 12 references missing point 3"])) ∧
      ¬m.Holds .way 12 ∧
      TellsCausesFirst crossing (fun _ _ => False)
        ["way 12: Role 'nodes' of 12 references missing point 3"] := by
  have keeps := RuleRegistry.Grown.builtin.keepsStores
  obtain ⟨m, texts, hrun, honce, -, hcauses, -⟩ := accounts_of_ofRecords .builtin keeps crossing
  have hboth := (hrun []).symm.trans ((settles_ofRecords .builtin crossing).robust [])
  have htexts : texts = (failures .builtin crossing).map Failure.message :=
    congrArg Prod.snd hboth
  obtain rfl : texts = ["way 12: Role 'nodes' of 12 references missing point 3"] := by
    rw [htexts]
    decide +kernel
  refine ⟨keeps, m, hrun, ?_, fun before text after htexts kind id member hblames => ?_⟩
  · refine ((honce .way 12 (by decide +kernel)).resolve_left fun h => ?_).1
    exact absurd h.2 (by decide +kernel)
  · rcases hcauses before text after htexts kind id member hblames with hgone | hcause | hexcused
    · exact .inl hgone
    · exact .inr (.inl hcause)
    · obtain ⟨f, haccuses, -⟩ := hexcused
      exact absurd haccuses (not_accuses_builtin crossing member f)

/-! ### A rule that calls a record missing -/

/-- The built-in rules, and one that refuses every relation because way 10 were missing. -/
def accusing : RuleRegistry where
  factories := RuleRegistry.builtin.factories.insert "accusing" fun s =>
    .error (.unresolvedReference s.id RoleName.refers (.lineString 10))

/-- A relation under that rule, and the way. -/
def accused : RecordSet where
  nodes := [⟨1, ⟨0, 0, 0⟩, .empty⟩]
  ways := [⟨10, [1], .empty⟩]
  relations := [⟨30, .ofList [(Key.subtype, "accusing")], [⟨RoleName.refers, .way, 10⟩]⟩]

/-- `accusing` keeps the stores that it is given, as it reads none of them. The way that it calls
missing is in the map, and no text is about it. -/
theorem accused_present :
    accusing.KeepsStores ∧ ∃ m,
      ofRecords accusing .robust accused [] =
        (.ok m, ["relation 30: Role 'refers' of 30 references missing linestring 10"]) ∧
      m.Holds .way 10 ∧
      ¬TellsCausesFirst accused (fun _ _ => False)
        ["relation 30: Role 'refers' of 30 references missing linestring 10"] := by
  have htexts : (failures accusing accused).map Failure.message =
      ["relation 30: Role 'refers' of 30 references missing linestring 10"] := by
    decide +kernel
  refine ⟨fun name factory hfind s e he => ?_, map accusing accused, ?_,
    .inl (by decide +kernel), ?_⟩
  · rw [accusing, SortedMap.find?_insert] at hfind
    split at hfind
    · obtain rfl := Option.some.inj hfind
      cases he
    · exact RuleRegistry.Grown.builtin.keepsStores name factory hfind s e he
  · rw [(settles_ofRecords accusing accused).robust, htexts]
    rfl
  · intro h
    rcases h [] _ [] rfl .relation 30 (.lineString 10) ⟨30, RoleName.refers, by decide +kernel⟩ with
      hgone | ⟨cause, hcause, -⟩ | hfalse
    · exact hgone (by decide +kernel)
    · cases hcause
    · exact hfalse

end RoadMap

end RoadNet
