import Mathlib.Data.List.Forall2
import RoadNet.Proofs.XmlTokens
import RoadNet.Xml.Document

/-!
# RoadNet.Proofs.XmlElements

Which texts are read as which elements. Elements here have names without namespaces, and no
element has two attributes of one name.

* `Forest es ts` — the tokens `ts` spell out the elements `es`, one after the other;
* `Element.build?_forest` — such tokens become children of the innermost open tag, in order;
* `Spells cs es` — the text `cs` is made of such tokens and white space; its laws follow the
  shape of a text, from single tags to whole documents (`Spells.parse?`).
-/

namespace RoadNet.Xml

/-! ## Open tags -/

theorem eraseDups_of_nodup {α : Type} [BEq α] [LawfulBEq α] {l : List α} (h : l.Nodup) :
    l.eraseDups = l := by
  induction l with
  | nil => rfl
  | cons a l ih =>
    obtain ⟨ha, hl⟩ := List.nodup_cons.1 h
    have hfilter : (l.filter fun b => !b == a) = l :=
      List.filter_eq_self.2 fun b hb => by
        have hne : b ≠ a := fun heq => ha (heq ▸ hb)
        simpa using hne
    rw [List.eraseDups_cons, hfilter, ih hl]

/-- The settings `l` of a tag with names that are not declarations of namespaces, none of them set
twice. -/
structure PlainSettings (l : List (String × String)) : Prop where
  ne_xmlns : ∀ p ∈ l, p.1 ≠ "xmlns"
  distinct : (l.map Prod.fst).Nodup

/-- Plain settings declare no namespace. -/
theorem declared?_plain {l : List (String × String)} (h : ∀ p ∈ l, p.1 ≠ "xmlns")
    (seen : Bindings) : declared? seen (l.map plainAttribute) = some seen := by
  induction l with
  | nil => rfl
  | cons p l ih =>
    have hspace : (plainAttribute p).name.space ≠ "xmlns" := by simp [plainAttribute]
    have hname : (plainAttribute p).name.name ≠ "xmlns" := h p List.mem_cons_self
    rw [List.map_cons, declared?, if_neg hspace, if_neg hname,
      ih fun q hq => h q (List.mem_cons_of_mem p hq)]

/-- The names of plain settings expand to themselves. -/
theorem mapM_expandedName?_plain (l : List (String × String)) :
    ((l.map plainAttribute).mapM fun a => expandedName? [] a.name) =
      some (l.map fun p => (none, p.1)) := by
  induction l with
  | nil => rfl
  | cons p l ih =>
    rw [List.map_cons, List.mapM_cons, ih]
    rfl

/-- A tag with `PlainSettings` opens with these as its attributes. -/
theorem OpenTag.ofTag?_plain {l : List (String × String)} (h : PlainSettings l) (name : String) :
    OpenTag.ofTag? [] ⟨"", name⟩ (l.map plainAttribute) = some ⟨⟨"", name⟩, [], l, []⟩ := by
  have hplain : ((l.map plainAttribute).filter fun a => !isDeclaration a) =
      l.map plainAttribute := by
    refine List.filter_eq_self.2 (List.forall_mem_map.2 fun p hp => ?_)
    simp [isDeclaration, plainAttribute, h.ne_xmlns p hp]
  have hnames := mapM_expandedName?_plain l
  have hdistinct : (l.map fun p => ((none : Option String), p.1)).Nodup := by
    have hmap : (l.map fun p => ((none : Option String), p.1)) =
        (l.map Prod.fst).map fun name => (none, name) := by rw [List.map_map]; rfl
    rw [hmap]
    exact h.distinct.map fun _ _ heq => (Prod.mk.inj heq).2
  have hattributes : ((l.map plainAttribute).map fun a => (a.name.name, a.value)) = l := by
    rw [List.map_map]
    exact List.map_id l
  unfold OpenTag.ofTag?
  rw [if_neg (by simp)]
  simp only [declared?_plain h.ne_xmlns, Option.bind_eq_bind, Option.bind_some, List.append_nil,
    ne_eq, not_true_eq_false, decide_false, Bool.false_and, Bool.false_eq_true, if_false, hplain,
    hnames, eraseDups_of_nodup hdistinct, hattributes, Option.pure_def]

/-! ## Trees from tokens -/

/-- Tokens that spell out elements, one after the other: tags that close themselves, and start and
end tags around others. -/
inductive Forest : List Element → List Token → Prop where
  | nil : Forest [] []
  | leaf {l : List (String × String)} {es : List Element} {ts : List Token} (name : String)
      (hl : PlainSettings l) (h : Forest es ts) :
      Forest (⟨name, l, []⟩ :: es) (.startTag ⟨"", name⟩ (l.map plainAttribute) true :: ts)
  | nested {l : List (String × String)} {children es : List Element} {inner ts : List Token}
      (name : String) (hl : PlainSettings l) (hchildren : Forest children inner)
      (h : Forest es ts) :
      Forest (⟨name, l, children⟩ :: es)
        (.startTag ⟨"", name⟩ (l.map plainAttribute) false ::
          (inner ++ .endTag ⟨"", name⟩ :: ts))

theorem Forest.append {es fs : List Element} {ts us : List Token} (h : Forest es ts)
    (k : Forest fs us) : Forest (es ++ fs) (ts ++ us) := by
  induction h with
  | nil => exact k
  | leaf name hl h ih => exact .leaf name hl ih
  | @nested l children es inner ts name hl hchildren h _ ih =>
    rw [List.cons_append, List.cons_append, List.append_assoc, List.cons_append]
    exact .nested name hl hchildren ih

namespace Element

/-- `build?` leaves white space out of a tree. -/
theorem build?_filter (open_ : List OpenTag) (root : Option Element) (ts : List Token) :
    build? open_ root (ts.filter (· ≠ .space)) = build? open_ root ts := by
  induction ts generalizing open_ root with
  | nil => rfl
  | cons t ts ih =>
    cases t with
    | space => rw [List.filter_cons_of_neg (by simp), build?, ih]
    | endTag name =>
      rw [List.filter_cons_of_pos (by simp)]
      cases open_ <;> simp only [build?, ih]
    | _ =>
      rw [List.filter_cons_of_pos (by simp)]
      simp only [build?, ih]

/-- `build?` of a start tag with `PlainSettings`, below open tags that declare no namespace. -/
theorem build?_startTag {l : List (String × String)} (hl : PlainSettings l) (name : String)
    {open_ : List OpenTag} (hbindings : ∀ tag ∈ open_.head?, tag.bindings = [])
    (root : Option Element) (empty : Bool) (rest : List Token) :
    build? open_ root (.startTag ⟨"", name⟩ (l.map plainAttribute) empty :: rest) =
      if empty then
        (place? ⟨name, l, []⟩ open_ root).bind fun p => build? p.1 p.2 rest
      else if open_.isEmpty && root.isSome then none
      else build? (⟨⟨"", name⟩, [], l, []⟩ :: open_) root rest := by
  have houter : (open_.head?.map OpenTag.bindings).getD [] = [] := by
    cases open_ with
    | nil => rfl
    | cons tag outer => exact hbindings tag rfl
  rw [build?, houter, OpenTag.ofTag?_plain hl]
  rfl

/-- Tokens of a `Forest` add its elements to the children of the innermost open tag. -/
theorem build?_forest {es : List Element} {ts : List Token} (h : Forest es ts) {tag : OpenTag}
    (hbindings : tag.bindings = []) (outer : List OpenTag) (root : Option Element)
    (rest : List Token) :
    build? (tag :: outer) root (ts ++ rest) =
      build? ({ tag with children := es.reverse ++ tag.children } :: outer) root rest := by
  -- A nested element is the open tag of its own children, and the tag here is then an outer one.
  induction h generalizing tag outer rest with
  | nil => rfl
  | @leaf l es ts name hl h ih =>
    have hhead : ∀ t ∈ (tag :: outer).head?, t.bindings = [] := fun t ht =>
      Option.some.inj ht ▸ hbindings
    have hadded :
        ({ tag with children := ⟨name, l, []⟩ :: tag.children } : OpenTag).bindings = [] :=
      hbindings
    rw [List.cons_append, build?_startTag hl name hhead, if_pos rfl, place?, Option.bind_some]
    refine (ih hadded outer rest).trans ?_
    rw [List.reverse_cons, List.append_assoc]
    rfl
  | @nested l children es inner ts name hl hchildren h ihchildren ih =>
    have hhead : ∀ t ∈ (tag :: outer).head?, t.bindings = [] := fun t ht =>
      Option.some.inj ht ▸ hbindings
    have hadded :
        ({ tag with children := ⟨name, l, children⟩ :: tag.children } : OpenTag).bindings = [] :=
      hbindings
    have hclosed : OpenTag.close ⟨⟨"", name⟩, [], l, children.reverse ++ []⟩ =
        ⟨name, l, children⟩ := by
      rw [OpenTag.close, List.append_nil, List.reverse_reverse]
    rw [List.cons_append, build?_startTag hl name hhead, if_neg Bool.false_ne_true,
      if_neg (by simp), List.append_assoc, ihchildren rfl, List.cons_append, build?, if_pos rfl,
      hclosed, place?]
    refine (ih hadded outer rest).trans ?_
    rw [List.reverse_cons, List.append_assoc]
    rfl

/-- Tokens that spell out one element are read by `build?` as this element. -/
theorem build?_root {e : Element} {ts : List Token} (h : Forest [e] ts) :
    build? [] none ts = some e := by
  have hhead : ∀ tag ∈ ([] : List OpenTag).head?, tag.bindings = [] := nofun
  cases h with
  | leaf name hl h =>
    cases h
    rw [build?_startTag hl name hhead]
    rfl
  | @nested l children _ inner _ name hl hchildren h =>
    cases h
    rw [build?_startTag hl name hhead, if_neg Bool.false_ne_true, if_neg (by simp),
      build?_forest hchildren rfl, build?, if_pos rfl]
    simp [OpenTag.close, place?, build?]

end Element

/-! ## Texts -/

/-- A text made of elements and white space: tags that are laid out (`Layout`) and make a
`Forest`. -/
def Spells (cs : List Char) (es : List Element) : Prop :=
  ∃ ts, Layout cs ts ∧ Forest es ts

namespace Spells

variable {cs ds inner : List Char} {es fs children : List Element} {name : String}
variable {l : List (String × String)}

theorem nil : Spells [] [] := ⟨[], .nil, .nil⟩

/-- Two texts one after the other spell the elements of both. -/
theorem append (h : Spells cs es) (k : Spells ds fs) : Spells (cs ++ ds) (es ++ fs) := by
  obtain ⟨ts, hcs, hes⟩ := h
  obtain ⟨us, hds, hfs⟩ := k
  exact ⟨ts ++ us, hcs.append hds, hes.append hfs⟩

/-- White space spells nothing. -/
theorem spaces (h : ∀ c ∈ cs, isSpace c = true) : Spells cs [] := by
  refine ⟨[], ?_, .nil⟩
  induction cs with
  | nil => exact .nil
  | cons c cs ih =>
    exact .blank (h c List.mem_cons_self) (ih fun d hd => h d (List.mem_cons_of_mem c hd))

theorem plainSettings (h : Settings cs l) (hdistinct : (l.map Prod.fst).Nodup) :
    PlainSettings l := by
  refine ⟨?_, hdistinct⟩
  clear hdistinct
  induction h with
  | nil => exact nofun
  | cons hname hraw h ih => exact List.forall_mem_cons.2 ⟨Token.ne_xmlns hname, ih⟩

/-- A tag that closes itself. -/
theorem leaf (hname : isPlainName name = true) (h : Settings cs l)
    (hdistinct : (l.map Prod.fst).Nodup) :
    Spells ('<' :: (name.toList ++ (cs ++ ['/', '>']))) [⟨name, l, []⟩] := by
  have htag : Layout ('<' :: (name.toList ++ (cs ++ ['/', '>'])) ++ []) _ :=
    .tag (Token.isTag_startTag hname h true) .nil
  rw [List.append_nil] at htag
  exact ⟨_, htag, .leaf name (plainSettings h hdistinct) .nil⟩

/-- A start tag, children and an end tag. -/
theorem nested (hname : isPlainName name = true) (h : Settings cs l)
    (hdistinct : (l.map Prod.fst).Nodup) (hinner : Spells inner children) :
    Spells ('<' :: (name.toList ++ (cs ++ ['>'])) ++
      (inner ++ '<' :: '/' :: (name.toList ++ ['>']))) [⟨name, l, children⟩] := by
  obtain ⟨ts, htext, hchildren⟩ := hinner
  have hend : Layout ('<' :: '/' :: (name.toList ++ ['>']) ++ []) _ :=
    .tag (Token.isTag_endTag hname) .nil
  rw [List.append_nil] at hend
  exact ⟨_, .tag (Token.isTag_startTag hname h false) (htext.append hend),
    .nested name (plainSettings h hdistinct) hchildren .nil⟩

/-- Texts of one element each, joined together, spell all of these. -/
theorem join {texts : List String} (h : List.Forall₂ (fun s e => Spells s.toList [e]) texts es) :
    Spells (String.join texts).toList es := by
  induction h with
  | nil => exact .nil
  | cons hs h ih =>
    rw [String.join_cons, String.toList_append]
    exact hs.append ih

/-- A document is read by `Element.parse?` as the element that it spells. -/
theorem parse? {e : Element} (h : Spells cs [e]) {s : String}
    (hs : Token.ofText? s = Token.takeAll? cs.length cs) : Element.parse? s = some e := by
  obtain ⟨ts, hcs, he⟩ := h
  obtain ⟨read, hread, hts⟩ := hcs.ofText? hs
  rw [Element.parse?, hread, Option.bind_some, ← Element.build?_filter, hts, Element.build?_root he]

end Spells

end RoadNet.Xml
