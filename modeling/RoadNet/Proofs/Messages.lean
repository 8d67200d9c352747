import RoadNet.Proofs.Numerals
import RoadNet.Proofs.Records

/-!
# RoadNet.Proofs.Messages

What the text of a message tells. A robust run hands out texts, so whatever is promised of its
messages is promised of texts. Two things can be read off them again:

* `isAbout_message` — which record a message is about: it begins with the kind and the identifier,
  and no other record's heading is a prefix of the same text;
* `exists_eq_of_message_eq` — which element a message blames as missing: the only fault that is
  worded like an `unresolvedReference` to an element is an `unresolvedReference` to that element.
-/

namespace RoadNet

/-! ## Marks in texts -/

/-- A list is split in one way only at the first `c` in it. -/
theorem append_cons_inj {c : α} {a b x y : List α} (ha : c ∉ a) (hb : c ∉ b)
    (h : a ++ c :: x = b ++ c :: y) : a = b ∧ x = y := by
  induction a generalizing b with
  | nil =>
    cases b with
    | nil => exact ⟨rfl, (List.cons.inj h).2⟩
    | cons d b => exact absurd ((List.cons.inj h).1 ▸ List.mem_cons_self) hb
  | cons d a ih =>
    cases b with
    | nil => exact absurd ((List.cons.inj h).1 ▸ List.mem_cons_self) ha
    | cons e b =>
      obtain ⟨rfl, hrest⟩ := List.cons.inj h
      obtain ⟨rfl, rfl⟩ := ih (fun hc => ha (List.mem_cons_of_mem _ hc))
        (fun hc => hb (List.mem_cons_of_mem _ hc)) hrest
      exact ⟨rfl, rfl⟩

/-- A list is split in one way only at the last `c` in it. -/
theorem append_cons_inj_of_not_mem_right {c : α} {a b x y : List α} (hx : c ∉ x) (hy : c ∉ y)
    (h : a ++ c :: x = b ++ c :: y) : a = b ∧ x = y := by
  have hreverse := congrArg List.reverse h
  simp only [List.reverse_append, List.reverse_cons, List.append_assoc,
    List.singleton_append] at hreverse
  obtain ⟨hxy, hab⟩ := append_cons_inj (by simpa using hx) (by simpa using hy) hreverse
  exact ⟨List.reverse_inj.1 hab, List.reverse_inj.1 hxy⟩

/-- No two identifiers have one `idText`. -/
theorem idText_inj {id id' : Id} (h : (idText id).toList = (idText id').toList) : id = id' := by
  have hread := readId?_idText id
  rw [h, readId?_idText id'] at hread
  exact (Option.some.inj hread).symm

/-- An `idText` has digits and a minus sign at most. -/
theorem not_mem_idText {c : Char} (hdigit : c.isDigit = false) (hsign : c ≠ '-') (id : Id) :
    c ∉ (idText id).toList := by
  intro hc
  rcases mem_idText hc with h | h
  · rw [hdigit] at h
    cases h
  · exact hsign h

/-! ## The record a message is about -/

/-- The words with which every message about a record begins. -/
def heading (kind : RecordKind) (id : Id) : String := kind.name ++ " " ++ idText id ++ ": "

/-- Whether a text is a message about a record, that is begins with its `heading`. -/
def isAbout (kind : RecordKind) (id : Id) (text : String) : Bool :=
  (heading kind id).toList.isPrefixOf text.toList

theorem isAbout_iff {kind : RecordKind} {id : Id} {text : String} :
    isAbout kind id text = true ↔ ∃ reason, text = heading kind id ++ reason := by
  rw [isAbout, List.isPrefixOf_iff_prefix]
  constructor
  · rintro ⟨reason, hreason⟩
    exact ⟨String.ofList reason, by rw [← String.toList_inj, String.toList_append, ← hreason,
      String.toList_ofList]⟩
  · rintro ⟨reason, rfl⟩
    exact ⟨reason.toList, (String.toList_append ..).symm⟩

/-- A text has the `heading` of one record only. -/
theorem heading_append_inj {kind kind' : RecordKind} {id id' : Id} {reason reason' : String}
    (h : heading kind id ++ reason = heading kind' id' ++ reason') :
    kind = kind' ∧ id = id' ∧ reason = reason' := by
  have hkind : ∀ kind : RecordKind, ' ' ∉ kind.name.toList := by
    intro kind
    cases kind <;> decide
  have hcolon := not_mem_idText (c := ':') (by decide) (by decide)
  have hlist := congrArg String.toList h
  simp only [heading, String.toList_append, List.append_assoc] at hlist
  obtain ⟨hname, hrest⟩ := append_cons_inj (hkind kind) (hkind kind') hlist
  obtain ⟨hid, hreason⟩ := append_cons_inj (hcolon id) (hcolon id') hrest
  have hofName := RecordKind.ofName?_name kind
  rw [String.toList_inj.1 hname, RecordKind.ofName?_name kind'] at hofName
  exact ⟨(Option.some.inj hofName).symm, idText_inj hid,
    String.toList_inj.1 (List.cons.inj hreason).2⟩

/-- A failure that names a record (`record?`) is worded as a message about that record and no
other. -/
theorem isAbout_message {f : Failure} {kind kind' : RecordKind} {id id' : Id}
    (h : f.record? = some (kind, id)) :
    isAbout kind' id' f.message = true ↔ (kind, id) = (kind', id') := by
  obtain ⟨reason, hmessage⟩ := Failure.message_of_record h
  rw [isAbout_iff, hmessage]
  constructor
  · rintro ⟨reason', heq⟩
    obtain ⟨rfl, rfl, -⟩ := heading_append_inj heq
    rfl
  · intro heq
    obtain ⟨rfl, rfl⟩ := Prod.mk.inj heq
    exact ⟨reason, rfl⟩

/-- Where every failure names a record, the messages about a record are as many as `mentions`
counts failures. -/
theorem countP_isAbout {failures : List Failure}
    (named : ∀ f ∈ failures, ∃ kind id, f.record? = some (kind, id)) (kind : RecordKind)
    (id : Id) :
    (failures.map Failure.message).countP (isAbout kind id) =
      Failure.mentions failures kind id := by
  rw [List.countP_map, Failure.mentions]
  refine List.countP_congr fun f hf => ?_
  obtain ⟨kind', id', hrecord⟩ := named f hf
  rw [Function.comp_apply, isAbout_message hrecord, hrecord, decide_eq_true_eq,
    Option.some.injEq]

/-! ## The element a message blames -/

/-- A text that ends in the name of an element, split in front of its identifier. -/
theorem toList_append_text (front words : String) (member : Reference) :
    (front ++ words ++ member.text).toList =
      front.toList ++ (words ++ member.kind.name).toList ++ ' ' :: (idText member.id).toList := by
  have hblank : ' ' :: (idText member.id).toList = " ".toList ++ (idText member.id).toList := rfl
  rw [Reference.text, hblank]
  simp only [String.toList_append, List.append_assoc]

/-- The words that introduce the element at the end of a message. -/
def introductions : List String := [" references missing ", " already references "]

/-- The kinds of elements. -/
def Kind.all : List Kind := [.point, .lineString, .polygon, .lanelet, .regulatoryElement]

/-- Every kind is among `Kind.all`. -/
theorem Kind.mem_all (kind : Kind) : kind ∈ Kind.all := by
  cases kind <;> decide

/-- None of the `introductions`, with the name of a kind, ends like another. -/
theorem introduction_inj {front front' : List Char} {words words' : String} {kind kind' : Kind}
    (hwords : words ∈ introductions) (hwords' : words' ∈ introductions)
    (h : front ++ (words ++ kind.name).toList = front' ++ (words' ++ kind'.name).toList) :
    words = words' ∧ kind = kind' := by
  have hsuffix : ∀ words ∈ introductions, ∀ words' ∈ introductions, ∀ kind ∈ Kind.all,
      ∀ kind' ∈ Kind.all, (words ++ kind.name).toList <:+ (words' ++ kind'.name).toList →
        words = words' ∧ kind = kind' := by
    decide +kernel
  rcases List.suffix_or_suffix_of_suffix ⟨front, rfl⟩ ⟨front', h.symm⟩ with hend | hend
  · exact hsuffix words hwords words' hwords' kind kind.mem_all kind' kind'.mem_all hend
  · obtain ⟨rfl, rfl⟩ :=
      hsuffix words' hwords' words hwords kind' kind'.mem_all kind kind.mem_all hend
    exact ⟨rfl, rfl⟩

/-- A text that ends in one of the `introductions` and the name of an element tells both. -/
theorem append_text_inj {front front' words words' : String} {member member' : Reference}
    (hwords : words ∈ introductions) (hwords' : words' ∈ introductions)
    (h : front ++ words ++ member.text = front' ++ words' ++ member'.text) :
    words = words' ∧ member = member' := by
  have hblank := not_mem_idText (c := ' ') (by decide) (by decide)
  have hlist := congrArg String.toList h
  rw [toList_append_text, toList_append_text] at hlist
  obtain ⟨hfront, hid⟩ := append_cons_inj_of_not_mem_right (hblank _) (hblank _) hlist
  obtain ⟨rfl, hkind⟩ := introduction_inj hwords hwords' hfront
  cases member
  cases member'
  exact ⟨rfl, congrArg₂ Reference.mk hkind (idText_inj hid)⟩

/-- The words with which the message of a fault opens. -/
def Fault.opening : Fault → String
  | invalidRelation .. => "Invalid "
  | conflictingRole .. => "Lanelet "
  | duplicateReference .. => "Role '"
  | duplicateTypeName .. => "Relation type '"
  | unresolvedReference .. => "Role '"
  | invariantViolated .. => "Internal invariant violated: "

/-- The wording of a fault begins with its `opening`. -/
theorem Fault.message_begins (fault : Fault) : fault.opening.toList <+: fault.message.toList := by
  have more : ∀ {front : List Char} {text : String} (rest : String), front <+: text.toList →
      front <+: (text ++ rest).toList := by
    intro front text rest h
    rw [String.toList_append]
    exact h.trans (List.prefix_append ..)
  have start : ∀ text : String, text.toList <+: text.toList := fun _ => List.prefix_refl _
  cases fault with
  | invalidRelation => exact more _ (more _ (more _ (more _ (more _ (start _)))))
  | conflictingRole =>
    exact more _ (more _ (more _ (more _ (more _ (more _ (more _ (more _ (start _))))))))
  | duplicateReference => exact more _ (more _ (more _ (more _ (more _ (start _)))))
  | duplicateTypeName => exact more _ (more _ (start _))
  | unresolvedReference => exact more _ (more _ (more _ (more _ (more _ (start _)))))
  | invariantViolated => exact more _ (start _)

/-- Only an `unresolvedReference` is worded like one, and its words tell the element. -/
theorem exists_eq_of_message_eq {fault : Fault} {id : Id} {role : String} {member : Reference}
    (h : fault.message = (Fault.unresolvedReference id role member).message) :
    ∃ id' role', fault = .unresolvedReference id' role' member := by
  have hopening := List.prefix_or_prefix_of_prefix (h ▸ fault.message_begins)
    (Fault.unresolvedReference id role member).message_begins
  cases fault with
  | duplicateReference id' role' member' =>
    have htexts : _ ++ " already references " ++ member'.text =
        _ ++ " references missing " ++ member.text := h
    exact absurd (append_text_inj (by decide) (by decide) htexts).1 (by decide)
  | unresolvedReference id' role' member' =>
    have htexts : _ ++ " references missing " ++ member'.text =
        _ ++ " references missing " ++ member.text := h
    obtain rfl := (append_text_inj (by decide) (by decide) htexts).2
    exact ⟨id', role', rfl⟩
  | invalidRelation _ _ _ | conflictingRole _ _ _ _ | duplicateTypeName _ | invariantViolated _ =>
    simp only [Fault.opening] at hopening
    exact absurd hopening (by decide)

/-- Whether a text says that a record references `member`, which is missing: these are the words of
an `unresolvedReference`. -/
def Blames (kind : RecordKind) (id : Id) (member : Reference) (text : String) : Prop :=
  ∃ holder role,
    text = (Failure.recordFailed kind id (.unresolvedReference holder role member)).message

/-- A failure of assembly whose text `Blames` an element is an `unresolvedReference` to it. -/
theorem exists_eq_of_blames {f : Failure} {kind : RecordKind} {id : Id} {member : Reference}
    (hf : (∃ kind id, f = .malformedRecord kind (some id) .duplicateId) ∨
      ∃ kind id fault, f = .recordFailed kind id fault)
    (h : Blames kind id member f.message) :
    ∃ holder role, f = .recordFailed kind id (.unresolvedReference holder role member) := by
  obtain ⟨holder, role, hmessage⟩ := h
  rcases hf with ⟨kind', id', rfl⟩ | ⟨kind', id', fault, rfl⟩
  · have hheading : heading kind' id' ++ "duplicate id" = heading kind id ++
        (Fault.unresolvedReference holder role member).message := hmessage
    obtain ⟨-, -, hreason⟩ := heading_append_inj hheading
    have hprefix := (Fault.unresolvedReference holder role member).message_begins
    rw [← hreason] at hprefix
    simp only [Fault.opening] at hprefix
    exact absurd hprefix (by decide)
  · have hheading : heading kind' id' ++ fault.message = heading kind id ++
        (Fault.unresolvedReference holder role member).message := hmessage
    obtain ⟨rfl, rfl, hreason⟩ := heading_append_inj hheading
    obtain ⟨holder', role', rfl⟩ := exists_eq_of_message_eq hreason
    exact ⟨holder', role', rfl⟩

/-! ## Causes before effects -/

/-- Whenever a text `Blames` an element, the input has no record in its place, or a text before is
about that record, or the text is `excused`. -/
def TellsCausesFirst (r : RecordSet) (excused : Reference → String → Prop)
    (texts : List String) : Prop :=
  ∀ before text after, texts = before ++ text :: after → ∀ kind id member,
    Blames kind id member text →
      member.id ∉ r.ids member.kind.recordKind ∨
        (∃ cause ∈ before, isAbout member.kind.recordKind member.id cause = true) ∨
          excused member text

/-- What `CausesFirst` says of failures, their texts tell. -/
theorem CausesFirst.tells {foreign : Failure → Prop} {r : RecordSet} {failures : List Failure}
    {excused : Reference → String → Prop}
    (h : CausesFirst foreign (fun kind id => id ∉ r.ids kind) failures)
    (hworded : ∀ f ∈ failures, (∃ kind id, f = .malformedRecord kind (some id) .duplicateId) ∨
      ∃ kind id fault, f = .recordFailed kind id fault)
    (hexcused : ∀ kind id holder role member,
      foreign (.recordFailed kind id (.unresolvedReference holder role member)) →
        excused member
          (Failure.recordFailed kind id (.unresolvedReference holder role member)).message) :
    TellsCausesFirst r excused (failures.map Failure.message) := by
  intro before text after htexts kind id member hblames
  obtain ⟨fbefore, rest, hfailures, rfl, hrest⟩ := List.map_eq_append_iff.1 htexts
  obtain ⟨f, fafter, rfl, rfl, -⟩ := List.map_eq_cons_iff.1 hrest
  have hf : f ∈ failures := hfailures ▸ List.mem_append_right _ List.mem_cons_self
  obtain ⟨holder, role, rfl⟩ := exists_eq_of_blames (hworded f hf) hblames
  rcases h fbefore _ fafter hfailures _ _ rfl with hgone | ⟨cause, hcause, hrecord⟩ | hforeign
  · exact .inl hgone
  · exact .inr (.inl ⟨cause.message, List.mem_map_of_mem hcause,
      (isAbout_message hrecord).2 rfl⟩)
  · exact .inr (.inr (hexcused kind id holder role member hforeign))

end RoadNet
