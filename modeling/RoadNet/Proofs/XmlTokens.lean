import RoadNet.Proofs.AttributeValues
import RoadNet.Xml.Token

/-!
# RoadNet.Proofs.XmlTokens

Which texts are read as which tokens. A text is laid out from tags, one after the other, with
white space between them; how much there is of it does not matter.

* `Settings cs l` — the text `cs` sets the names of `l` to its values, in order;
* `IsTag chunk t` — the text `chunk` is read as the token `t`, whatever follows it;
* `Layout cs ts` — the text `cs` is made of the tags `ts` and white space;
* `Layout.ofText?` — a document so laid out is read as its tags.
-/

namespace RoadNet.Xml

/-- A name without a namespace in front of it; it is not `xmlns` either, which declares one. -/
def isPlainName (name : String) : Bool :=
  (name.toList.head?.map isNameStart).getD false &&
    name.toList.all (fun c => isNameChar c && c ≠ ':') && name ≠ "xmlns"

/-- A text that sets names to values, each setting after one space, with values that are
`Quoted`. -/
inductive Settings : List Char → List (String × String) → Prop where
  | nil : Settings [] []
  | cons {name value : String} {raw cs : List Char} {l : List (String × String)}
      (hname : isPlainName name = true) (hraw : Quoted raw value) (h : Settings cs l) :
      Settings (' ' :: (name.toList ++ '=' :: '"' :: (raw ++ '"' :: cs))) ((name, value) :: l)

/-- Each setting takes a character at least, so that fuel for the characters is enough. -/
theorem Settings.length_le {cs : List Char} {l : List (String × String)} (h : Settings cs l) :
    l.length ≤ cs.length := by
  induction h with
  | nil => exact Nat.le_refl 0
  | cons hname hraw h ih =>
    simp only [List.length_cons, List.length_append]
    omega

/-- A setting as it is read. -/
def plainAttribute (p : String × String) : RawAttribute := ⟨⟨"", p.1⟩, p.2⟩

namespace Token

/-! ## Names -/

section Names

variable {name : String} (hname : isPlainName name = true)

include hname

/-- A plain name begins with a character that `isNameStart`. -/
theorem exists_start : ∃ c cs, name.toList = c :: cs ∧ isNameStart c = true := by
  simp only [isPlainName, Bool.and_eq_true] at hname
  have hstart := hname.1.1
  cases h : name.toList with
  | nil => rw [h] at hstart; cases hstart
  | cons c cs => rw [h] at hstart; exact ⟨c, cs, rfl, hstart⟩

theorem forall_isNameChar : ∀ c ∈ name.toList, isNameChar c = true ∧ c ≠ ':' := by
  simp only [isPlainName, Bool.and_eq_true, List.all_eq_true, decide_eq_true_eq] at hname
  exact hname.1.2

theorem ne_xmlns : name ≠ "xmlns" := by
  simp only [isPlainName, Bool.and_eq_true, decide_eq_true_eq] at hname
  exact hname.2

/-- `takeName?` reads a plain name up to the first character that does not belong to one. -/
theorem takeName?_append {rest : List Char} (hrest : ∀ c ∈ rest.head?, isNameChar c = false) :
    takeName? (name.toList ++ rest) = some (⟨"", name⟩, rest) := by
  have hchars := forall_isNameChar hname
  have hstart : (name.toList.head?.map isNameStart).getD false = true := by
    obtain ⟨c, cs, hcs, hc⟩ := exists_start hname
    rw [hcs]
    exact hc
  have hcolon : (name.toList ++ []).span (· ≠ ':') = (name.toList, []) :=
    Text.span_append (fun c hc => decide_eq_true (hchars c hc).2) nofun
  rw [List.append_nil] at hcolon
  unfold takeName? qname?
  rw [Text.span_append (fun c hc => (hchars c hc).1) hrest]
  dsimp only
  rw [hcolon]
  dsimp only
  rw [if_pos hstart, String.ofList_toList]
  rfl

end Names

theorem isSpace_of_isNameStart {c : Char} (hc : isNameStart c = true) : isSpace c = false := by
  rw [Bool.eq_false_iff]
  intro hspace
  rcases eq_of_isSpace hspace with rfl | rfl | rfl | rfl <;> exact absurd hc (by decide)

/-! ## Attributes -/

/-- `splitAt?` finds the quote behind `Quotable` characters. -/
theorem splitAt?_quote {raw : List Char} (h : ∀ c ∈ raw, Quotable c) (rest : List Char) :
    splitAt? ['"'] (raw ++ '"' :: rest) = some (raw, rest) := by
  induction raw with
  | nil => rfl
  | cons c raw ih =>
    have hc := h c List.mem_cons_self
    have hquote : ['"'].isPrefixOf (c :: (raw ++ '"' :: rest)) = false := by
      simp [List.isPrefixOf, hc.noQuote.symm]
    rw [List.cons_append, splitAt?, hquote, if_pos hc.xmlChar,
      ih fun d hd => h d (List.mem_cons_of_mem c hd)]
    rfl

/-- `takeAttribute?` reads a setting with what its quotes hold. -/
theorem takeAttribute?_append {name value : String} {raw : List Char}
    (hname : isPlainName name = true) (hraw : Quoted raw value) (rest : List Char) :
    takeAttribute? (name.toList ++ '=' :: '"' :: (raw ++ '"' :: rest)) =
      some (plainAttribute (name, value), rest) := by
  have htake : takeName? (name.toList ++ '=' :: '"' :: (raw ++ '"' :: rest)) =
      some (⟨"", name⟩, '=' :: '"' :: (raw ++ '"' :: rest)) :=
    takeName?_append hname fun c hc => by
      obtain rfl : '=' = c := Option.some.inj hc
      decide
  have hequals : takeEquals? ('=' :: '"' :: (raw ++ '"' :: rest)) =
      some ('"' :: (raw ++ '"' :: rest)) := rfl
  have hnoTag : raw.contains '<' = false := by
    rw [List.contains_eq_mem, decide_eq_false_iff_not]
    exact fun hmem => (hraw.chars _ hmem).noTag rfl
  have hquoted : takeQuoted? ('"' :: (raw ++ '"' :: rest)) = some (raw, rest) := by
    change (splitAt? ['"'] (raw ++ '"' :: rest)).filter (fun p => !p.1.contains '<') = _
    rw [splitAt?_quote hraw.chars, Option.filter_some, hnoTag]
    rfl
  simp only [takeAttribute?, takeSetting?, htake, hequals, hquoted, hraw.value, plainAttribute,
    Option.bind_eq_bind, Option.bind_some, Option.pure_def]

/-- How a start tag ends. -/
def tagEnd (empty : Bool) : List Char := if empty then ['/', '>'] else ['>']

/-- A space and the start of a name begin another attribute. -/
theorem takeAttributes?_cons {c : Char} (hc : isNameStart c = true) (fuel : Nat)
    (after : List Char) :
    takeAttributes? (fuel + 1) (' ' :: c :: after) =
      (takeAttribute? (c :: after)).bind fun p =>
        (takeAttributes? fuel p.2).map fun q => (p.1 :: q.1, q.2) := by
  have hdrop : dropSpaces (' ' :: c :: after) = c :: after := by
    have hspace : isSpace ' ' = true := by decide
    rw [dropSpaces, List.dropWhile_cons_of_pos hspace, List.dropWhile_cons_of_neg]
    rw [isSpace_of_isNameStart hc]
    exact Bool.false_ne_true
  rw [takeAttributes?, hdrop]
  split
  next heq => exact absurd (List.cons.inj heq).1 (ne_of_class hc (by decide))
  next heq => exact absurd (List.cons.inj heq).1 (ne_of_class hc (by decide))
  next =>
    have hspace : ((' ' :: c :: after).head?.map isSpace).getD false = true := rfl
    rw [if_pos hspace]
    cases takeAttribute? (c :: after) with
    | none => rfl
    | some p => cases h : takeAttributes? fuel p.2 <;> simp [h]

/-- `takeAttributes?` reads `Settings` up to the end of a tag as its attributes. -/
theorem takeAttributes?_append {cs : List Char} {l : List (String × String)}
    (h : Settings cs l) (empty : Bool) (rest : List Char) {fuel : Nat} (hfuel : l.length < fuel) :
    takeAttributes? fuel (cs ++ (tagEnd empty ++ rest)) =
      some (l.map plainAttribute, empty, rest) := by
  induction h generalizing fuel with
  | nil =>
    obtain ⟨fuel, rfl⟩ := Nat.exists_eq_add_one_of_ne_zero (Nat.ne_of_gt hfuel)
    cases empty <;> rfl
  | @cons name value raw cs l hname hraw h ih =>
    obtain ⟨fuel, rfl⟩ := Nat.exists_eq_add_one_of_ne_zero (Nat.ne_of_gt (Nat.zero_lt_of_lt hfuel))
    obtain ⟨c, more, hmore, hc⟩ := exists_start hname
    have hattribute := takeAttribute?_append hname hraw (cs ++ (tagEnd empty ++ rest))
    simp only [hmore, List.cons_append, List.append_assoc] at hattribute ⊢
    rw [takeAttributes?_cons hc, hattribute, Option.bind_some, ih (Nat.lt_of_succ_lt_succ hfuel)]
    rfl

/-! ## Tags -/

/-- A text that `take?` reads as a tag, whatever follows it. -/
structure IsTag (chunk : List Char) (t : Token) : Prop where
  opens : chunk.head? = some '<'
  ne_space : t ≠ .space
  take? : ∀ rest, take? (chunk ++ rest) = some (t, rest)

theorem take?_startTag {c : Char} (hc : isNameStart c = true) (rest : List Char) :
    take? ('<' :: c :: rest) = takeStartTag? (c :: rest) := by
  -- No other kind of token has the first character of a name behind its bracket.
  have hmark : ∀ {d : Char} {cs : List Char}, isNameStart d = false →
      '<' :: c :: rest ≠ '<' :: d :: cs :=
    fun hd heq => ne_of_class hc hd (List.cons.inj (List.cons.inj heq).2).1
  unfold take?
  split
  next heq => exact absurd heq (hmark (by decide))
  next heq => exact absurd heq (hmark (by decide))
  next heq => exact absurd heq (hmark (by decide))
  next heq => exact absurd heq (hmark (by decide))
  next heq => rw [(List.cons.inj heq).2]
  next hother => exact absurd rfl (hother (c :: rest))

/-- `Settings` behind a plain name make a start tag. -/
theorem isTag_startTag {name : String} {cs : List Char} {l : List (String × String)}
    (hname : isPlainName name = true) (h : Settings cs l) (empty : Bool) :
    IsTag ('<' :: (name.toList ++ (cs ++ tagEnd empty)))
      (.startTag ⟨"", name⟩ (l.map plainAttribute) empty) := by
  refine ⟨rfl, nofun, fun rest => ?_⟩
  obtain ⟨c, more, hmore, hc⟩ := exists_start hname
  have htake : takeName? (name.toList ++ (cs ++ (tagEnd empty ++ rest))) =
      some (⟨"", name⟩, cs ++ (tagEnd empty ++ rest)) := takeName?_append hname fun d hd => by
    cases h with
    | nil => cases empty <;> obtain rfl := Option.some.inj hd <;> decide
    | cons => obtain rfl := Option.some.inj hd; decide
  have hfuel : l.length < (cs ++ (tagEnd empty ++ rest)).length + 1 := by
    have hle := h.length_le
    rw [List.length_append]
    omega
  have hattributes := takeAttributes?_append h empty rest hfuel
  rw [hmore] at htake ⊢
  rw [List.cons_append] at htake
  simp only [List.cons_append, List.append_assoc]
  rw [take?_startTag hc, takeStartTag?, htake, Option.bind_eq_bind, Option.bind_some]
  dsimp only
  rw [hattributes]
  rfl

/-- A plain name makes an end tag. -/
theorem isTag_endTag {name : String} (hname : isPlainName name = true) :
    IsTag ('<' :: '/' :: (name.toList ++ ['>'])) (.endTag ⟨"", name⟩) := by
  refine ⟨rfl, nofun, fun rest => ?_⟩
  have htake : takeName? (name.toList ++ '>' :: rest) = some (⟨"", name⟩, '>' :: rest) :=
    takeName?_append hname fun d hd => by
      obtain rfl := Option.some.inj hd
      decide
  have hshape : '<' :: '/' :: (name.toList ++ ['>']) ++ rest =
      '<' :: '/' :: (name.toList ++ '>' :: rest) := by simp
  rw [hshape]
  change takeEndTag? (name.toList ++ '>' :: rest) = _
  rw [takeEndTag?, htake]
  rfl

/-! ## White space -/

/-- A text does not hold a mark whose first character it has not. -/
theorem holds_of_not_mem {m : Char} {mark cs : List Char} (h : m ∉ cs) :
    holds (m :: mark) cs = false := by
  induction cs with
  | nil => rfl
  | cons c cs ih =>
    have hc : m ≠ c := fun heq => h (heq ▸ List.mem_cons_self)
    rw [holds, ih fun hmem => h (List.mem_cons_of_mem c hmem)]
    simp [List.isPrefixOf, hc]

/-- White space up to a tag is one token of `take?`. -/
theorem take?_spaces {c : Char} {spaces rest : List Char}
    (h : ∀ d ∈ c :: spaces, isSpace d = true) (hrest : ∀ d ∈ rest.head?, d = '<') :
    take? (c :: spaces ++ rest) = some (.space, rest) := by
  have hspaces : ∀ d ∈ c :: spaces, isXmlChar d = true ∧ d ≠ '<' ∧ d ≠ ']' := by
    intro d hd
    rcases eq_of_isSpace (h d hd) with rfl | rfl | rfl | rfl <;> decide
  have hspan : (c :: spaces ++ rest).span (· ≠ '<') = (c :: spaces, rest) :=
    Text.span_append (fun d hd => decide_eq_true (hspaces d hd).2.1)
      fun d hd => decide_eq_false (not_not.2 (hrest d hd))
  have hxml : (c :: spaces).all isXmlChar = true :=
    List.all_eq_true.2 fun d hd => (hspaces d hd).1
  have hmark : holds [']', ']', '>'] (c :: spaces) = false :=
    holds_of_not_mem fun hmem => (hspaces _ hmem).2.2 rfl
  have htext : take? (c :: spaces ++ rest) = takeText? (c :: spaces ++ rest) := by
    have hc := (hspaces c List.mem_cons_self).2.1
    unfold take?
    split
    next heq => exact absurd (List.cons.inj heq).1 hc
    next heq => exact absurd (List.cons.inj heq).1 hc
    next heq => exact absurd (List.cons.inj heq).1 hc
    next heq => exact absurd (List.cons.inj heq).1 hc
    next heq => exact absurd (List.cons.inj heq).1 hc
    next => rfl
  rw [htext, takeText?, hspan]
  dsimp only
  rw [hxml, hmark, if_neg (by decide), if_pos (List.all_eq_true.2 h)]

end Token

/-! ## Whole texts -/

/-- The XML declaration. -/
def declaration : List Char := "<?xml version=\"1.0\" encoding=\"UTF-8\"?>".toList

/-- Behind the `declaration` the tags of a document follow. -/
theorem Token.ofText?_declaration {s : String} {cs : List Char}
    (hs : s.toList = declaration ++ cs) : ofText? s = takeAll? cs.length cs := by
  unfold ofText?
  rw [hs]
  rfl

/-- A document may begin with its first tag. -/
theorem Token.ofText?_tag {s : String} {c : Char} {cs : List Char} (hc : c ≠ '?')
    (hs : s.toList = '<' :: c :: cs) : ofText? s = takeAll? s.toList.length s.toList := by
  have hmark : "<?xml ".toList.isPrefixOf ('<' :: c :: cs) = false := by
    simp [List.isPrefixOf, hc.symm]
  unfold ofText?
  rw [hs]
  exact if_neg (Bool.eq_false_iff.1 hmark)

/-- A text made of tags (`IsTag`) and white space. -/
inductive Layout : List Char → List Token → Prop where
  | nil : Layout [] []
  | blank {c : Char} {cs : List Char} {ts : List Token} (hc : isSpace c = true)
      (h : Layout cs ts) : Layout (c :: cs) ts
  | tag {chunk cs : List Char} {t : Token} {ts : List Token} (ht : Token.IsTag chunk t)
      (h : Layout cs ts) : Layout (chunk ++ cs) (t :: ts)

namespace Layout

variable {cs ds : List Char} {ts us : List Token}

theorem append (h : Layout cs ts) (k : Layout ds us) : Layout (cs ++ ds) (ts ++ us) := by
  induction h with
  | nil => exact k
  | blank hc h ih => exact .blank hc ih
  | tag ht h ih =>
    rw [List.append_assoc]
    exact .tag ht ih

/-- What `takeAll?` reads a text as, leaving white space out. -/
def ReadAs (cs : List Char) (ts : List Token) : Prop :=
  ∀ fuel, cs.length ≤ fuel →
    ∃ read, Token.takeAll? fuel cs = some read ∧ read.filter (· ≠ .space) = ts

/-- White space in front of a tag, or at the end, is left out. -/
theorem readAs_spaces {spaces : List Char} (hspaces : ∀ c ∈ spaces, isSpace c = true)
    (hcs : ∀ c ∈ cs.head?, c = '<') (h : ReadAs cs ts) : ReadAs (spaces ++ cs) ts := by
  cases spaces with
  | nil => exact h
  | cons c spaces =>
    intro fuel hfuel
    rw [List.length_append, List.length_cons] at hfuel
    obtain ⟨fuel, rfl⟩ : ∃ n, fuel = n + 1 := ⟨fuel - 1, by omega⟩
    obtain ⟨read, hread, hts⟩ := h fuel (by omega)
    refine ⟨.space :: read, ?_, hts⟩
    have htake := Token.take?_spaces hspaces hcs
    rw [List.cons_append] at htake ⊢
    simp [Token.takeAll?, htake, hread]

/-- A text that is laid out from tags (`Layout`) is read as these. -/
theorem readAs (h : Layout cs ts) {spaces : List Char}
    (hspaces : ∀ c ∈ spaces, isSpace c = true) : ReadAs (spaces ++ cs) ts := by
  -- The white space since the last tag is carried along: all of it is one token.
  induction h generalizing spaces with
  | nil =>
    refine readAs_spaces hspaces nofun fun fuel _ => ⟨[], ?_, rfl⟩
    cases fuel <;> rfl
  | @blank c cs ts hc h ih =>
    have hmore : ∀ d ∈ spaces ++ [c], isSpace d = true := by
      intro d hd
      rcases List.mem_append.1 hd with hd | hd
      · exact hspaces d hd
      · rwa [List.mem_singleton.1 hd]
    have hread := ih hmore
    rwa [List.append_assoc] at hread
  | @tag chunk cs t ts ht h ih =>
    obtain ⟨hopens, hne, htake⟩ := ht
    obtain ⟨chunk, rfl⟩ : ∃ rest, chunk = '<' :: rest := List.head?_eq_some_iff.1 hopens
    refine readAs_spaces hspaces (fun c hc => (Option.some.inj hc).symm) fun fuel hfuel => ?_
    rw [List.length_append, List.length_cons] at hfuel
    obtain ⟨fuel, rfl⟩ : ∃ n, fuel = n + 1 := ⟨fuel - 1, by omega⟩
    have hrest : ReadAs cs ts := ih fun d hd => absurd hd List.not_mem_nil
    obtain ⟨read, hread, hts⟩ := hrest fuel (by omega)
    have htag := htake cs
    rw [List.cons_append] at htag ⊢
    refine ⟨t :: read, by simp [Token.takeAll?, htag, hread], ?_⟩
    rw [List.filter_cons_of_pos (by simpa using hne), hts]

/-- A document is read by `Token.ofText?` as its tags. -/
theorem ofText? (h : Layout cs ts) {s : String}
    (hs : Token.ofText? s = Token.takeAll? cs.length cs) :
    ∃ read, Token.ofText? s = some read ∧ read.filter (· ≠ .space) = ts := by
  have hread : ReadAs cs ts := h.readAs fun c hc => absurd hc List.not_mem_nil
  rw [hs]
  exact hread cs.length (Nat.le_refl _)

end Layout

end RoadNet.Xml
