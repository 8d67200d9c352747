import RoadNet.Proofs.AttributeValues
import RoadNet.Xml.Document

/-!
# RoadNet.Proofs.XmlCharacters

What an XML document carries, XML can carry: every attribute of the element that a text is parsed
to has a value of XML characters only (`Element.clean_of_parse?`).

Characters enter in two ways. What stands in the text is checked where the text is split, and
what a reference stands for is checked where it is resolved. From there the property is lifted
along the parser, to attributes, tokens, and trees.
-/

namespace RoadNet.Xml

/-- Whether a document may hold all of the characters. -/
def XmlChars (cs : List Char) : Prop := ∀ c ∈ cs, isXmlChar c = true

/-- A text `isXmlText` exactly if a document may hold its characters. -/
theorem isXmlText_ofList {cs : List Char} : isXmlText (String.ofList cs) = true ↔ XmlChars cs := by
  rw [isXmlText_iff, String.toList_ofList]
  rfl

/-! ## Values -/

/-- `normalizeSpaces` keeps to XML characters. -/
theorem xmlChars_normalizeSpaces {cs : List Char} (h : XmlChars cs) :
    XmlChars (normalizeSpaces cs) := by
  fun_induction normalizeSpaces cs with
  | case1 => exact h
  | case2 cs ih => exact List.forall_mem_cons.2 ⟨rfl, ih fun c hc => h c (by simp [hc])⟩
  | case3 c cs _ ih =>
    obtain ⟨hc, hcs⟩ := List.forall_mem_cons.1 h
    refine List.forall_mem_cons.2 ⟨?_, ih hcs⟩
    split
    · rfl
    · exact hc

theorem isXmlChar_of_charOfCode? {n : Nat} {c : Char} (h : charOfCode? n = some c) :
    isXmlChar c = true := by
  rw [charOfCode?, Option.ite_none_right_eq_some] at h
  obtain ⟨hcode, hc⟩ := h
  exact Option.some.inj hc ▸ (Bool.and_eq_true_iff.1 hcode).2

/-- A reference that `referenceChar?` reads stands for an XML character. -/
theorem isXmlChar_of_referenceChar? {body : List Char} {c : Char}
    (h : referenceChar? body = some c) : isXmlChar c = true := by
  unfold referenceChar? at h
  split at h
  · exact isXmlChar_of_charOfCode? (Option.ite_none_right_eq_some.1 h).2
  · exact isXmlChar_of_charOfCode? (Option.ite_none_right_eq_some.1 h).2
  · obtain ⟨before, after, hnames, -⟩ := List.lookup_eq_some_iff.1 h
    have hall : ∀ p ∈ [("lt", '<'), ("gt", '>'), ("amp", '&'), ("quot", '"'), ("apos", '\'')],
        isXmlChar p.2 = true := by decide
    exact hall (String.ofList body, c) (hnames ▸ List.mem_append_cons_self)

/-- `resolve?` keeps to XML characters. -/
theorem xmlChars_of_resolve? {seen : Option (List Char)} {cs out : List Char}
    (h : resolve? seen cs = some out) (hcs : XmlChars cs) : XmlChars out := by
  -- Nothing is asked of the reference that is being read: its characters do not get out.
  fun_induction resolve? seen cs generalizing out with
  | case1 => exact Option.some.inj h ▸ hcs
  | case2 => cases h
  | case3 cs ih => exact ih h (List.forall_mem_cons.1 hcs).2
  | case4 c cs _ ih =>
    obtain ⟨hc, hcs⟩ := List.forall_mem_cons.1 hcs
    obtain ⟨tail, htail, rfl⟩ := Option.map_eq_some_iff.1 h
    exact List.forall_mem_cons.2 ⟨hc, ih htail hcs⟩
  | case5 body cs ih =>
    obtain ⟨c, hc, h⟩ := Option.bind_eq_some_iff.1 h
    obtain ⟨tail, htail, h⟩ := Option.bind_eq_some_iff.1 h
    obtain rfl := Option.some.inj h
    exact List.forall_mem_cons.2
      ⟨isXmlChar_of_referenceChar? hc, ih htail (List.forall_mem_cons.1 hcs).2⟩
  | case6 body c cs _ ih => exact ih h (List.forall_mem_cons.1 hcs).2

/-- `attributeValue?` reads XML text from XML characters. -/
theorem isXmlText_of_attributeValue? {raw : List Char} {value : String}
    (h : attributeValue? raw = some value) (hraw : XmlChars raw) : isXmlText value = true := by
  obtain ⟨cs, hcs, rfl⟩ := Option.map_eq_some_iff.1 h
  exact isXmlText_ofList.2 (xmlChars_of_resolve? hcs (xmlChars_normalizeSpaces hraw))

/-! ## Tokens -/

namespace Token

/-- What stands before the mark of `splitAt?` are XML characters. -/
theorem xmlChars_of_splitAt? {mark cs before after : List Char}
    (h : splitAt? mark cs = some (before, after)) : XmlChars before := by
  induction cs generalizing before with
  | nil => cases h
  | cons c cs ih =>
    unfold splitAt? at h
    split at h
    · obtain ⟨rfl, -⟩ := Prod.mk.inj (Option.some.inj h)
      exact List.forall_mem_nil _
    · split at h
      next hc =>
        obtain ⟨p, hp, heq⟩ := Option.map_eq_some_iff.1 h
        obtain ⟨rfl, rfl⟩ := Prod.mk.inj heq
        exact List.forall_mem_cons.2 ⟨hc, ih hp⟩
      next => cases h

theorem xmlChars_of_takeQuoted? {cs raw rest : List Char}
    (h : takeQuoted? cs = some (raw, rest)) : XmlChars raw := by
  cases cs with
  | nil => cases h
  | cons quote cs =>
    rw [takeQuoted?, Option.ite_none_right_eq_some] at h
    exact xmlChars_of_splitAt? (Option.filter_eq_some_iff.1 h.2).1

/-- The value of an attribute that `takeAttribute?` takes is XML text. -/
theorem isXmlText_of_takeAttribute? {cs rest : List Char} {a : RawAttribute}
    (h : takeAttribute? cs = some (a, rest)) : isXmlText a.value = true := by
  obtain ⟨⟨name, raw, after⟩, hsetting, h⟩ := Option.bind_eq_some_iff.1 h
  obtain ⟨value, hvalue, h⟩ := Option.bind_eq_some_iff.1 h
  obtain ⟨rfl, -⟩ := Prod.mk.inj (Option.some.inj h)
  obtain ⟨⟨name', behind⟩, -, hsetting⟩ := Option.bind_eq_some_iff.1 hsetting
  obtain ⟨quoted, -, hsetting⟩ := Option.bind_eq_some_iff.1 hsetting
  obtain ⟨⟨raw', rest'⟩, hquoted, hsetting⟩ := Option.bind_eq_some_iff.1 hsetting
  simp only [pure, Option.some.injEq, Prod.mk.injEq] at hsetting
  obtain ⟨-, rfl, -⟩ := hsetting
  exact isXmlText_of_attributeValue? hvalue (xmlChars_of_takeQuoted? hquoted)

/-- The attributes of a token. -/
def attributes : Token → List RawAttribute
  | .startTag _ attributes _ => attributes
  | _ => []

/-- Whether all attributes of a token have values that a document can carry (`isXmlText`). -/
def Clean (t : Token) : Prop := ∀ a ∈ t.attributes, isXmlText a.value = true

theorem clean_of_takeAttributes? {fuel : Nat} {cs rest : List Char} {l : List RawAttribute}
    {empty : Bool} (h : takeAttributes? fuel cs = some (l, empty, rest)) :
    ∀ a ∈ l, isXmlText a.value = true := by
  induction fuel generalizing cs l empty rest with
  | zero => cases h
  | succ fuel ih =>
    unfold takeAttributes? at h
    split at h
    · obtain ⟨rfl, -⟩ := Prod.mk.inj (Option.some.inj h)
      exact List.forall_mem_nil _
    · obtain ⟨rfl, -⟩ := Prod.mk.inj (Option.some.inj h)
      exact List.forall_mem_nil _
    · split at h
      · obtain ⟨⟨a, after⟩, ha, h⟩ := Option.bind_eq_some_iff.1 h
        obtain ⟨⟨more, empty', after'⟩, hmore, h⟩ := Option.bind_eq_some_iff.1 h
        obtain ⟨rfl, -⟩ := Prod.mk.inj (Option.some.inj h)
        exact List.forall_mem_cons.2 ⟨isXmlText_of_takeAttribute? ha, ih hmore⟩
      · cases h

/-- A token that `take?` takes is `Clean`, since only start tags have attributes. -/
theorem clean_of_take? {cs rest : List Char} {t : Token} (h : take? cs = some (t, rest)) :
    t.Clean := by
  unfold take? at h
  split at h
  · obtain ⟨⟨body, after⟩, -, h⟩ := Option.bind_eq_some_iff.1 h
    obtain ⟨rfl, -⟩ := Prod.mk.inj (Option.some.inj (Option.ite_none_left_eq_some.1 h).2)
    exact List.forall_mem_nil _
  · obtain ⟨p, -, heq⟩ := Option.map_eq_some_iff.1 (Option.ite_none_right_eq_some.1 h).2
    obtain ⟨rfl, -⟩ := Prod.mk.inj heq
    exact List.forall_mem_nil _
  · obtain ⟨p, -, heq⟩ := Option.map_eq_some_iff.1 (Option.ite_none_left_eq_some.1 h).2
    obtain ⟨rfl, -⟩ := Prod.mk.inj heq
    exact List.forall_mem_nil _
  · obtain ⟨⟨name, after⟩, -, h⟩ := Option.bind_eq_some_iff.1 h
    dsimp only at h
    split at h
    · obtain ⟨rfl, -⟩ := Prod.mk.inj (Option.some.inj h)
      exact List.forall_mem_nil _
    · cases h
  · obtain ⟨⟨name, after⟩, -, h⟩ := Option.bind_eq_some_iff.1 h
    obtain ⟨⟨attributes, empty, after'⟩, hattributes, h⟩ := Option.bind_eq_some_iff.1 h
    obtain ⟨rfl, -⟩ := Prod.mk.inj (Option.some.inj h)
    exact clean_of_takeAttributes? hattributes
  · have hbody := (Option.ite_none_left_eq_some.1 h).2
    split at hbody
    · obtain ⟨rfl, -⟩ := Prod.mk.inj (Option.some.inj hbody)
      exact List.forall_mem_nil _
    · obtain ⟨out, -, heq⟩ := Option.map_eq_some_iff.1 hbody
      obtain ⟨rfl, -⟩ := Prod.mk.inj heq
      exact List.forall_mem_nil _

theorem clean_of_takeAll? {fuel : Nat} {cs : List Char} {ts : List Token}
    (h : takeAll? fuel cs = some ts) : ∀ t ∈ ts, t.Clean := by
  fun_induction takeAll? fuel cs generalizing ts with
  | case1 => exact Option.some.inj h ▸ List.forall_mem_nil _
  | case2 => cases h
  | case3 fuel cs _ ih =>
    obtain ⟨⟨t, rest⟩, ht, h⟩ := Option.bind_eq_some_iff.1 h
    obtain ⟨more, hmore, h⟩ := Option.bind_eq_some_iff.1 h
    obtain rfl := Option.some.inj h
    exact List.forall_mem_cons.2 ⟨clean_of_take? ht, ih rest hmore⟩

/-- The tokens of a document are `Clean`. -/
theorem clean_of_ofText? {s : String} {ts : List Token} (h : ofText? s = some ts) :
    ∀ t ∈ ts, t.Clean := by
  have hbody : ∀ {body? : Option (List Char)},
      (body? >>= fun body => takeAll? body.length body) = some ts → ∀ t ∈ ts, t.Clean := by
    intro body? hall
    obtain ⟨body, -, hall⟩ := Option.bind_eq_some_iff.1 hall
    exact clean_of_takeAll? hall
  -- With or without a byte order mark, with or without a declaration.
  unfold ofText? at h
  dsimp only at h
  split at h <;> split at h <;> exact hbody h

end Token

/-! ## Trees -/

/-- An element that a document can carry: all values of attributes are of XML characters, in the
elements below as well. -/
inductive Element.Clean : Element → Prop
  | intro {e : Element} (attributes : ∀ p ∈ e.attributes, isXmlText p.2 = true)
      (children : ∀ c ∈ e.children, Clean c) : Clean e

namespace Element.Clean

variable {e : Element}

/-- The attributes of a `Clean` element are XML text. -/
theorem attribute? (h : e.Clean) {name value : String} (hvalue : e.attribute? name = some value) :
    isXmlText value = true := by
  obtain ⟨before, after, heq, -⟩ := List.lookup_eq_some_iff.1 hvalue
  cases h with
  | intro attributes _ => exact attributes (name, value) (heq ▸ List.mem_append_cons_self)

theorem childrenNamed (h : e.Clean) {name : String} : ∀ c ∈ e.childrenNamed name, c.Clean := by
  cases h with
  | intro _ children => exact fun c hc => children c (List.mem_filter.1 hc).1

end Element.Clean

/-- The same of a start tag, `Clean`, and of what has been read below it. -/
structure OpenTag.Clean (t : OpenTag) : Prop where
  attributes : ∀ p ∈ t.attributes, isXmlText p.2 = true
  children : ∀ c ∈ t.children, c.Clean

/-- A start tag with clean attributes opens a `Clean` element. -/
theorem OpenTag.clean_of_ofTag? {outer : Bindings} {name : QName} {attributes : List RawAttribute}
    {t : OpenTag} (h : ofTag? outer name attributes = some t)
    (clean : ∀ a ∈ attributes, isXmlText a.value = true) : t.Clean := by
  have hchecked : ∀ {α : Type} {c : Prop} [Decidable c] {next : Option α} {a : α},
      (if c then (none : Option PUnit) >>= fun _ => next else next) = some a → next = some a :=
    fun hnext => by
      split at hnext
      · cases hnext
      · exact hnext
  unfold ofTag? at h
  obtain ⟨own, -, h⟩ := Option.bind_eq_some_iff.1 (hchecked h)
  obtain ⟨names, -, h⟩ := Option.bind_eq_some_iff.1 (hchecked h)
  obtain rfl := Option.some.inj (hchecked h)
  refine ⟨List.forall_mem_map.2 fun a ha => clean a (List.mem_filter.1 ha).1, ?_⟩
  exact List.forall_mem_nil _

theorem OpenTag.Clean.close {t : OpenTag} (h : t.Clean) : t.close.Clean :=
  ⟨h.attributes, fun c hc => h.children c (List.mem_reverse.1 hc)⟩

namespace Element

variable {open_ : List OpenTag} {root : Option Element}

/-- `place?` puts a `Clean` element among clean ones. -/
theorem clean_of_place? {e : Element} {open' : List OpenTag} {root' : Option Element}
    (h : place? e open_ root = some (open', root')) (he : e.Clean) (hopen : ∀ t ∈ open_, t.Clean)
    (hroot : ∀ r ∈ root, r.Clean) : (∀ t ∈ open', t.Clean) ∧ ∀ r ∈ root', r.Clean := by
  unfold place? at h
  split at h
  · obtain ⟨rfl, rfl⟩ := Prod.mk.inj (Option.some.inj h)
    exact ⟨hopen, fun r hr => Option.mem_some_iff.1 hr ▸ he⟩
  · cases h
  · obtain ⟨rfl, rfl⟩ := Prod.mk.inj (Option.some.inj h)
    obtain ⟨ht, hrest⟩ := List.forall_mem_cons.1 hopen
    have hchildren := List.forall_mem_cons.2 ⟨he, ht.children⟩
    exact ⟨List.forall_mem_cons.2 ⟨⟨ht.attributes, hchildren⟩, hrest⟩, hroot⟩

/-- Along the tokens of `build?`, the open tags and the root stay `Clean`. -/
theorem clean_of_build? {ts : List Token} {e : Element} (h : build? open_ root ts = some e)
    (hts : ∀ t ∈ ts, t.Clean) (hopen : ∀ t ∈ open_, t.Clean) (hroot : ∀ r ∈ root, r.Clean) :
    e.Clean := by
  fun_induction build? open_ root ts with
  | case1 root => exact hroot e h
  | case2 | case5 | case9 | case10 => cases h
  | case3 _ _ _ ih | case4 _ _ _ ih | case6 _ _ _ _ ih =>
    exact ih h (List.forall_mem_cons.1 hts).2 hopen hroot
  | case7 open_ root name attributes empty rest outer ihPlaced ihOpen =>
    obtain ⟨htag, hrest⟩ := List.forall_mem_cons.1 hts
    obtain ⟨tag, hofTag, h⟩ := Option.bind_eq_some_iff.1 h
    have hclean := OpenTag.clean_of_ofTag? hofTag htag
    split at h
    · obtain ⟨⟨open', root'⟩, hplace, h⟩ := Option.bind_eq_some_iff.1 h
      obtain ⟨hopen', hroot'⟩ := clean_of_place? hplace hclean.close hopen hroot
      exact ihPlaced open' root' h hrest hopen' hroot'
    · have hnext := (Option.ite_none_left_eq_some.1 h).2
      exact ihOpen tag hnext hrest (List.forall_mem_cons.2 ⟨hclean, hopen⟩) hroot
  | case8 root rest tag outer ih =>
    obtain ⟨⟨open', root'⟩, hplace, h⟩ := Option.bind_eq_some_iff.1 h
    obtain ⟨htag, houter⟩ := List.forall_mem_cons.1 hopen
    obtain ⟨hopen', hroot'⟩ := clean_of_place? hplace htag.close houter hroot
    exact ih open' root' h (List.forall_mem_cons.1 hts).2 hopen' hroot'

/-- An element that `parse?` gives is `Clean`: every attribute in it is text that a document can
carry. -/
theorem clean_of_parse? {s : String} {e : Element} (h : parse? s = some e) : e.Clean := by
  obtain ⟨ts, hts, h⟩ := Option.bind_eq_some_iff.1 h
  exact clean_of_build? h (Token.clean_of_ofText? hts) (List.forall_mem_nil _) nofun

end Element

end RoadNet.Xml
