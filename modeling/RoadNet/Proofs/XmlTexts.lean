import RoadNet.Proofs.XmlCharacters

/-!
# RoadNet.Proofs.XmlTexts

A text that is read as a document holds XML characters only (`Element.isXmlText_of_parse?`).

Every reader hands out what it has not read. Each lemma here goes backwards over one reader: if
what is left holds XML characters only, then so does what the reader was given.
-/

namespace RoadNet.Xml

variable {cs rest : List Char}

/-! ## Runs of characters -/

/-- A `mark` of XML characters may be read over. -/
theorem xmlChars_append (mark : List Char) (hmark : mark.all isXmlChar = true)
    (hrest : XmlChars rest) : XmlChars (mark ++ rest) :=
  List.forall_mem_append.2 ⟨List.all_eq_true.1 hmark, hrest⟩

theorem isXmlChar_of_isSpace {c : Char} (h : isSpace c = true) : isXmlChar c = true := by
  rcases eq_of_isSpace h with rfl | rfl | rfl | rfl <;> rfl

/-- A run of XML characters may be skipped by `dropWhile`. -/
theorem xmlChars_of_dropWhile {p : Char → Bool} (hp : ∀ c, p c = true → isXmlChar c = true)
    (h : XmlChars (cs.dropWhile p)) : XmlChars cs := by
  rw [← List.takeWhile_append_dropWhile (p := p) (l := cs)]
  exact List.forall_mem_append.2 ⟨fun c hc => hp c (List.mem_takeWhile_imp hc), h⟩

theorem xmlChars_of_dropSpaces (h : XmlChars (dropSpaces cs)) : XmlChars cs :=
  xmlChars_of_dropWhile (fun _ => isXmlChar_of_isSpace) h

/-- If a text begins with a `mark` of XML characters and goes on with such, it has no others. -/
theorem xmlChars_of_isPrefixOf {mark : List Char} (hmark : mark.all isXmlChar = true)
    (h : mark.isPrefixOf cs = true) (hrest : XmlChars (cs.drop mark.length)) : XmlChars cs := by
  obtain ⟨rest, rfl⟩ := List.isPrefixOf_iff_prefix.1 h
  rw [List.drop_left] at hrest
  exact xmlChars_append mark hmark hrest

namespace Token

/-- If what `takeName?` leaves has XML characters only, so has what it was given. The lemmas below
say the same of each reader that consists of others. -/
theorem xmlChars_of_takeName? {name : QName} (h : takeName? cs = some (name, rest))
    (hrest : XmlChars rest) : XmlChars cs := by
  rw [takeName?, List.span_eq_takeWhile_dropWhile] at h
  obtain ⟨q, -, heq⟩ := Option.map_eq_some_iff.1 h
  obtain ⟨-, rfl⟩ := Prod.mk.inj heq
  exact xmlChars_of_dropWhile (fun _ => isXmlChar_of_isNameChar) hrest

/-- `splitAt?` checks what stands before its mark, and the mark itself is known. -/
theorem xmlChars_of_splitAt?_rest {mark before : List Char}
    (hmark : mark.all isXmlChar = true)
    (h : splitAt? mark cs = some (before, rest)) (hrest : XmlChars rest) : XmlChars cs := by
  induction cs generalizing before with
  | nil => cases h
  | cons c cs ih =>
    unfold splitAt? at h
    split at h
    next hprefix =>
      obtain ⟨-, rfl⟩ := Prod.mk.inj (Option.some.inj h)
      exact xmlChars_of_isPrefixOf hmark hprefix hrest
    next =>
      obtain ⟨hc, h⟩ := Option.ite_none_right_eq_some.1 h
      obtain ⟨p, hp, heq⟩ := Option.map_eq_some_iff.1 h
      obtain ⟨-, rfl⟩ := Prod.mk.inj heq
      exact List.forall_mem_cons.2 ⟨hc, ih hp⟩

/-! ## Attributes -/

theorem xmlChars_of_takeEquals? (h : takeEquals? cs = some rest) (hrest : XmlChars rest) :
    XmlChars cs := by
  unfold takeEquals? at h
  split at h
  next after heq =>
    obtain rfl := Option.some.inj h
    refine xmlChars_of_dropSpaces ?_
    rw [heq]
    exact List.forall_mem_cons.2 ⟨rfl, xmlChars_of_dropSpaces hrest⟩
  next => cases h

/-- `takeQuoted?` reads a quote, what `splitAt?` checks, and the quote again. -/
theorem xmlChars_of_takeQuoted?_rest {raw : List Char} (h : takeQuoted? cs = some (raw, rest))
    (hrest : XmlChars rest) : XmlChars cs := by
  cases cs with
  | nil => cases h
  | cons quote cs =>
    rw [takeQuoted?, Option.ite_none_right_eq_some] at h
    obtain ⟨hquote, h⟩ := h
    have hmark : isXmlChar quote = true := by
      rcases Bool.or_eq_true_iff.1 hquote with h | h <;> exact of_decide_eq_true h ▸ rfl
    have hsplit := (Option.filter_eq_some_iff.1 h).1
    exact List.forall_mem_cons.2
      ⟨hmark, xmlChars_of_splitAt?_rest (by simp [hmark]) hsplit hrest⟩

theorem xmlChars_of_takeSetting? {name : QName} {raw : List Char}
    (h : takeSetting? cs = some (name, raw, rest)) (hrest : XmlChars rest) : XmlChars cs := by
  obtain ⟨⟨q, after⟩, hname, h⟩ := Option.bind_eq_some_iff.1 h
  obtain ⟨quoted, hequals, h⟩ := Option.bind_eq_some_iff.1 h
  obtain ⟨⟨raw', rest'⟩, hquoted, h⟩ := Option.bind_eq_some_iff.1 h
  simp only [pure, Option.some.injEq, Prod.mk.injEq] at h
  obtain ⟨-, -, rfl⟩ := h
  exact xmlChars_of_takeName? hname <| xmlChars_of_takeEquals? hequals <|
    xmlChars_of_takeQuoted?_rest hquoted hrest

theorem xmlChars_of_takeAttribute? {a : RawAttribute} (h : takeAttribute? cs = some (a, rest))
    (hrest : XmlChars rest) : XmlChars cs := by
  obtain ⟨⟨name, raw, after⟩, hsetting, h⟩ := Option.bind_eq_some_iff.1 h
  obtain ⟨value, -, h⟩ := Option.bind_eq_some_iff.1 h
  obtain ⟨-, rfl⟩ := Prod.mk.inj (Option.some.inj h)
  exact xmlChars_of_takeSetting? hsetting hrest

/-- `takeAttributes?`, by induction on its fuel. -/
theorem xmlChars_of_takeAttributes? {fuel : Nat} {l : List RawAttribute} {empty : Bool}
    (h : takeAttributes? fuel cs = some (l, empty, rest)) (hrest : XmlChars rest) :
    XmlChars cs := by
  induction fuel generalizing cs l empty with
  | zero => cases h
  | succ fuel ih =>
    refine xmlChars_of_dropSpaces ?_
    unfold takeAttributes? at h
    split at h
    next heq =>
      obtain ⟨-, -, rfl⟩ := by simpa only [Option.some.injEq, Prod.mk.injEq] using h
      rw [heq]
      exact xmlChars_append ['/', '>'] rfl hrest
    next heq =>
      obtain ⟨-, -, rfl⟩ := by simpa only [Option.some.injEq, Prod.mk.injEq] using h
      rw [heq]
      exact xmlChars_append ['>'] rfl hrest
    next =>
      obtain ⟨-, h⟩ := Option.ite_none_right_eq_some.1 h
      obtain ⟨⟨a, after⟩, ha, h⟩ := Option.bind_eq_some_iff.1 h
      obtain ⟨⟨more, empty', after'⟩, hmore, h⟩ := Option.bind_eq_some_iff.1 h
      simp only [pure, Option.some.injEq, Prod.mk.injEq] at h
      obtain ⟨-, -, rfl⟩ := h
      exact xmlChars_of_takeAttribute? ha (ih hmore)

/-! ## Tokens -/

variable {t : Token}

theorem xmlChars_of_takeStartTag? (h : takeStartTag? cs = some (t, rest))
    (hrest : XmlChars rest) : XmlChars cs := by
  obtain ⟨⟨name, after⟩, hname, h⟩ := Option.bind_eq_some_iff.1 h
  obtain ⟨⟨attributes, empty, after'⟩, hattributes, h⟩ := Option.bind_eq_some_iff.1 h
  obtain ⟨-, rfl⟩ := Prod.mk.inj (Option.some.inj h)
  exact xmlChars_of_takeName? hname (xmlChars_of_takeAttributes? hattributes hrest)

theorem xmlChars_of_takeEndTag? (h : takeEndTag? cs = some (t, rest)) (hrest : XmlChars rest) :
    XmlChars cs := by
  obtain ⟨⟨name, after⟩, hname, h⟩ := Option.bind_eq_some_iff.1 h
  refine xmlChars_of_takeName? hname (xmlChars_of_dropSpaces ?_)
  dsimp only at h
  split at h
  next heq =>
    obtain ⟨-, rfl⟩ := Prod.mk.inj (Option.some.inj h)
    rw [heq]
    exact xmlChars_append ['>'] rfl hrest
  next => cases h

theorem xmlChars_of_takeComment? (h : takeComment? cs = some (t, rest)) (hrest : XmlChars rest) :
    XmlChars cs := by
  obtain ⟨⟨body, after⟩, hbody, h⟩ := Option.bind_eq_some_iff.1 h
  obtain ⟨-, rfl⟩ := Prod.mk.inj (Option.some.inj (Option.ite_none_left_eq_some.1 h).2)
  exact xmlChars_of_splitAt?_rest rfl hbody hrest

theorem xmlChars_of_takeInstruction? (h : takeInstruction? cs = some (t, rest))
    (hrest : XmlChars rest) : XmlChars cs := by
  obtain ⟨p, hbody, heq⟩ := Option.map_eq_some_iff.1 (Option.ite_none_left_eq_some.1 h).2
  obtain ⟨-, rfl⟩ := Prod.mk.inj heq
  exact xmlChars_of_dropWhile (fun _ => isXmlChar_of_isNameChar) <|
    xmlChars_of_dropSpaces <| xmlChars_of_splitAt?_rest rfl hbody hrest

theorem xmlChars_of_takeText? (h : takeText? cs = some (t, rest)) (hrest : XmlChars rest) :
    XmlChars cs := by
  rw [takeText?, List.span_eq_takeWhile_dropWhile] at h
  obtain ⟨hbody, h⟩ := Option.ite_none_left_eq_some.1 h
  simp only [Bool.or_eq_true, Bool.not_eq_true', not_or, Bool.not_eq_false] at hbody
  have hafter : cs.dropWhile (· ≠ '<') = rest := by
    split at h
    · exact (Prod.mk.inj (Option.some.inj h)).2
    · obtain ⟨out, -, heq⟩ := Option.map_eq_some_iff.1 h
      exact (Prod.mk.inj heq).2
  rw [← List.takeWhile_append_dropWhile (p := (· ≠ '<')) (l := cs), hafter]
  exact xmlChars_append _ hbody.1 hrest

/-- `take?` reads a token of any kind. -/
theorem xmlChars_of_take? (h : take? cs = some (t, rest)) (hrest : XmlChars rest) :
    XmlChars cs := by
  unfold take? at h
  split at h
  · exact xmlChars_append ['<', '!', '-', '-'] rfl (xmlChars_of_takeComment? h hrest)
  · obtain ⟨hmark, h⟩ := Option.ite_none_right_eq_some.1 h
    obtain ⟨p, hbody, heq⟩ := Option.map_eq_some_iff.1 h
    obtain ⟨-, rfl⟩ := Prod.mk.inj heq
    refine xmlChars_append ['<', '!'] rfl ?_
    exact xmlChars_of_isPrefixOf rfl hmark
      (xmlChars_of_splitAt?_rest rfl hbody hrest)
  · exact xmlChars_append ['<', '?'] rfl (xmlChars_of_takeInstruction? h hrest)
  · exact xmlChars_append ['<', '/'] rfl (xmlChars_of_takeEndTag? h hrest)
  · exact xmlChars_append ['<'] rfl (xmlChars_of_takeStartTag? h hrest)
  · exact xmlChars_of_takeText? h hrest

/-- `takeAll?` leaves nothing, so that its text has XML characters only. -/
theorem xmlChars_of_takeAll? {fuel : Nat} {ts : List Token} (h : takeAll? fuel cs = some ts) :
    XmlChars cs := by
  fun_induction takeAll? fuel cs generalizing ts with
  | case1 => exact List.forall_mem_nil _
  | case2 => cases h
  | case3 fuel cs _ ih =>
    obtain ⟨⟨t, rest⟩, ht, h⟩ := Option.bind_eq_some_iff.1 h
    obtain ⟨more, hmore, -⟩ := Option.bind_eq_some_iff.1 h
    exact xmlChars_of_take? ht (ih rest hmore)

/-! ## Documents -/

theorem xmlChars_of_takePseudoAttribute? {name : String}
    (h : takePseudoAttribute? name cs = some rest) (hrest : XmlChars rest) : XmlChars cs := by
  obtain ⟨-, h⟩ := Option.ite_none_right_eq_some.1 h
  obtain ⟨⟨q, raw, after⟩, hsetting, h⟩ := Option.bind_eq_some_iff.1 h
  obtain ⟨-, h⟩ := Option.ite_none_right_eq_some.1 h
  obtain rfl := Option.some.inj h
  exact xmlChars_of_takeSetting? hsetting (xmlChars_of_dropSpaces hrest)

/-- `dropDeclaration?` reads the XML declaration. -/
theorem xmlChars_of_dropDeclaration? (h : dropDeclaration? cs = some rest)
    (hrest : XmlChars rest) : XmlChars cs := by
  obtain ⟨afterVersion, hversion, h⟩ := Option.bind_eq_some_iff.1 h
  refine xmlChars_of_dropSpaces (xmlChars_of_takePseudoAttribute? hversion ?_)
  -- An encoding and a statement on standing alone may be there or not.
  have hencoding : XmlChars ((takePseudoAttribute? "encoding" afterVersion).getD afterVersion) →
      XmlChars afterVersion := by
    cases hencoding : takePseudoAttribute? "encoding" afterVersion with
    | none => exact fun h => h
    | some after => exact xmlChars_of_takePseudoAttribute? hencoding
  refine hencoding ?_
  dsimp only at h
  split at h
  next body heq =>
    obtain rfl := Option.some.inj h
    have hbody : XmlChars ('?' :: '>' :: body) := xmlChars_append ['?', '>'] rfl hrest
    rw [← heq] at hbody
    split at hbody
    next name raw after hsetting =>
      split at hbody
      · exact xmlChars_of_takeSetting? hsetting (xmlChars_of_dropSpaces hbody)
      · exact hbody
    next => exact hbody
  next => cases h

theorem xmlChars_of_ofText? {s : String} {ts : List Token} (h : ofText? s = some ts) :
    XmlChars s.toList := by
  have hbody : ∀ {cs : List Char}, (if "<?xml ".toList.isPrefixOf cs = true then
      (dropDeclaration? (cs.drop "<?xml ".toList.length)).bind fun body =>
        takeAll? body.length body
      else takeAll? cs.length cs) = some ts → XmlChars cs := by
    intro cs h
    split at h
    next hmark =>
      obtain ⟨body, hdrop, h⟩ := Option.bind_eq_some_iff.1 h
      exact xmlChars_of_isPrefixOf rfl hmark
        (xmlChars_of_dropDeclaration? hdrop (xmlChars_of_takeAll? h))
    next => exact xmlChars_of_takeAll? h
  unfold ofText? at h
  dsimp only at h
  split at h
  next rest heq =>
    rw [heq]
    exact xmlChars_append ['\uFEFF'] rfl (hbody h)
  next => exact hbody h

end Token

/-- A text that `parse?` accepts holds only characters that a document can carry. -/
theorem Element.isXmlText_of_parse? {s : String} {e : Element} (h : parse? s = some e) :
    isXmlText s = true := by
  obtain ⟨ts, hts, -⟩ := Option.bind_eq_some_iff.1 h
  exact isXmlText_iff.2 (Token.xmlChars_of_ofText? hts)

end RoadNet.Xml
