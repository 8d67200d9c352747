import RoadNet.Proofs.XmlElements
import RoadNet.Proofs.XmlTexts

/-!
# RoadNet.Proofs.Escaping

Escaping is undone by reading an attribute, for exactly the texts that a document can carry
(`escape_undone`).

* `parse?_tagText` — a text that can be carried comes back as the value of the attribute;
* `parse?_tagText_of_not` — another text spoils the document, since what is not markup is not
  escaped;
* `escape_injective` — resolving references undoes the escaping of any text at all.
-/

namespace RoadNet.Xml

/-- An element with one attribute, whose value is the `escape` of the text `s`. -/
def tagText (s : String) : String := "<tag v=\"" ++ escape s ++ "\"/>"

variable {s t : String}

theorem toList_tagText (s : String) :
    (tagText s).toList = '<' :: ("tag".toList ++
      (' ' :: ("v".toList ++ '=' :: '"' :: ((escape s).toList ++ '"' :: [])) ++ ['/', '>'])) := by
  rw [tagText, String.toList_append, String.toList_append]
  simp

/-! ## Texts that a document can carry -/

/-- The tag spells an element whose attribute has the value `s`, if XML can carry it. -/
theorem spells_tagText (h : isXmlText s = true) :
    Spells (tagText s).toList [⟨"tag", [("v", s)], []⟩] := by
  have hsettings : Settings (' ' :: ("v".toList ++ '=' :: '"' :: ((escape s).toList ++ '"' :: [])))
      [("v", s)] :=
    .cons (by decide) (quoted_escape h) .nil
  rw [toList_tagText]
  exact .leaf (by decide) hsettings (List.nodup_singleton _)

/-- Reading the tag gives that element. -/
theorem parse?_tagText (h : isXmlText s = true) :
    Element.parse? (tagText s) = some ⟨"tag", [("v", s)], []⟩ :=
  (spells_tagText h).parse? (Token.ofText?_tag (by decide) (toList_tagText s))

/-! ## Other texts -/

/-- A character that is no `markup` is in the `escape` of a text that has it. -/
theorem mem_escape_of_not_mem_markup {c : Char} (hc : c ∈ s.toList) (h : c ∉ markup) :
    c ∈ (escape s).toList := by
  rw [toList_escape]
  refine List.mem_flatMap.2 ⟨c, hc, ?_⟩
  rw [escapeChar_of_not_mem_markup h]
  exact List.mem_singleton_self c

/-- Escaping does not help a character that no document can hold: if the tag `isXmlText`, its value
is. -/
theorem isXmlText_of_tagText (h : isXmlText (tagText s) = true) : isXmlText s = true := by
  rw [isXmlText_iff] at h ⊢
  intro c hc
  by_cases hmarkup : c ∈ markup
  · have hmarkups : ∀ c ∈ markup, isXmlChar c = true := by simp [markup, isXmlChar]
    exact hmarkups c hmarkup
  · refine h c ?_
    rw [tagText, String.toList_append, String.toList_append, List.mem_append, List.mem_append]
    exact .inl (.inr (mem_escape_of_not_mem_markup hc hmarkup))

theorem parse?_tagText_of_not (h : isXmlText s = false) : Element.parse? (tagText s) = none := by
  cases hparse : Element.parse? (tagText s) with
  | none => rfl
  | some e =>
    have hs : isXmlText s = true := isXmlText_of_tagText (Element.isXmlText_of_parse? hparse)
    rw [h] at hs
    cases hs

/-! ## Escaped texts -/

/-- An `escape` has no `markup` in it but ampersands. -/
theorem not_mem_markup_of_mem_escape {c : Char} (h : c ∈ (escape s).toList) :
    c = '&' ∨ c ∉ markup := by
  rw [toList_escape] at h
  obtain ⟨d, -, hc⟩ := List.mem_flatMap.1 h
  rcases escapeChar_cases d with ⟨body, heq, hbody, -, -⟩ | ⟨heq, hplain⟩
  · rw [heq, List.mem_cons, List.mem_append, List.mem_singleton] at hc
    rcases hc with rfl | hc | rfl
    · exact .inl rfl
    · right
      rcases hbody c hc with rfl | hname
      · decide
      · have hnames : markup.all (fun m => !isNameChar m) = true := rfl
        simp only [List.all_eq_true, Bool.not_eq_true'] at hnames
        exact fun hmem => ne_of_class hname (hnames c hmem) rfl
    · exact .inr (by decide)
  · rw [heq, List.mem_singleton] at hc
    exact .inr (hc ▸ hplain)

/-- No two texts have one `escape`, since its references can be resolved. -/
theorem escape_injective : Function.Injective escape := by
  intro s t h
  have hresolved : resolve? none (escape s).toList = resolve? none (escape t).toList := by rw [h]
  rw [toList_escape, toList_escape, resolve?_flatMap_escapeChar, resolve?_flatMap_escapeChar]
    at hresolved
  exact String.toList_inj.1 (Option.some.inj hresolved)

/-- Reading the attribute undoes `escape` for exactly the texts that XML can carry (`isXmlText`):
these come back as they are, and a document with any other text is refused. No two texts have one
escape, an escaped text has no markup in it but ampersands, and taking a text without markup as it
is makes no difference to the loop `escapeAll`. -/
theorem escape_undone (s : String) :
    (isXmlText s = true →
        Element.parse? (tagText s) = some ⟨"tag", [("v", s)], []⟩) ∧
      (isXmlText s = false → Element.parse? (tagText s) = none) ∧
      (∀ t, escape s = escape t → s = t) ∧
      (∀ c ∈ (escape s).toList, c ∉ ['<', '>', '"', '\'', '\t', '\n', '\r']) ∧
      escape s = escapeAll s := by
  refine ⟨parse?_tagText, parse?_tagText_of_not, fun t h => escape_injective h, fun c hc => ?_,
    escape_eq_escapeAll s⟩
  rcases not_mem_markup_of_mem_escape hc with rfl | hplain
  · decide
  · have hmarkup : ['<', '>', '"', '\'', '\t', '\n', '\r'] ⊆ markup := by decide
    exact fun hmem => hplain (hmarkup hmem)

/-- White space, quotes and something that looks like a reference come back, and a control
character does not. -/
theorem escape_undone_lookalike :
    Element.parse? (tagText "\t'&lt;'\r\n") = some ⟨"tag", [("v", "\t'&lt;'\r\n")], []⟩ ∧
      Element.parse? (tagText "bell\x07") = none :=
  ⟨(escape_undone _).1 (by decide), (escape_undone _).2.1 (by decide)⟩

end RoadNet.Xml
