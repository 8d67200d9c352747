import RoadNet.Proofs.FloatText
import RoadNet.Xml.Escape

/-!
# RoadNet.Proofs.AttributeValues

What stands between the quotes of an attribute, and the value it is read as.

* `Xml.Quoted raw value` — `raw` may stand between double quotes and is read as `value`;
* `Xml.quoted_escape` — the escape of a text that XML can carry is read as that text;
* `Xml.quoted_of_isNameChar` — a text of name characters stands for itself, and so do
  identifiers and finite numbers.
-/

namespace RoadNet.Xml

/-- A character that may stand between double quotes and that `normalizeSpaces` leaves as it is. -/
structure Quotable (c : Char) : Prop where
  xmlChar : isXmlChar c = true
  noQuote : c ≠ '"'
  noTag : c ≠ '<'
  blank : isSpace c = true → c = ' '

/-- A text that may stand between double quotes, with the value that `attributeValue?` reads from
it. -/
structure Quoted (raw : List Char) (value : String) : Prop where
  chars : ∀ c ∈ raw, Quotable c
  value : attributeValue? raw = some value

/-! ## Classes of characters -/

/-- White space is one of four characters. -/
theorem eq_of_isSpace {c : Char} (h : isSpace c = true) :
    c = ' ' ∨ c = '\t' ∨ c = '\n' ∨ c = '\r' := by
  simp only [isSpace, Bool.or_eq_true, decide_eq_true_eq, or_assoc] at h
  exact h

/-- A character of the class `p` differs from every character outside of it. -/
theorem ne_of_class {p : Char → Bool} {c d : Char} (hc : p c = true) (hd : p d = false) :
    c ≠ d := by
  rintro rfl
  rw [hc] at hd
  cases hd

/-! ## One character -/

theorem forall_of_all {cs : List Char}
    (h : cs.all (fun d => d = '#' || isNameChar d) = true) :
    ∀ d ∈ cs, d = '#' ∨ isNameChar d = true := by simpa using h

/-- The characters with an escape are those of `markup`. -/
theorem map_fst_escapes : escapes.map Prod.fst = markup := rfl

/-- `escapeChar` writes a character as a reference to it, or as itself where it is no `markup`. -/
theorem escapeChar_cases (c : Char) :
    (∃ body, escapeChar c = '&' :: (body ++ [';']) ∧
      (∀ d ∈ body, d = '#' ∨ isNameChar d = true) ∧ referenceChar? body = some c ∧
      isNameChar c = false) ∨
    (escapeChar c = [c] ∧ c ∉ markup) := by
  unfold escapeChar
  cases h : escapes.lookup c with
  | none =>
    refine .inr ⟨rfl, fun hmem => ?_⟩
    obtain ⟨p, hp, hc⟩ := List.mem_map.1 (map_fst_escapes ▸ hmem)
    exact bne_iff_ne.1 (List.lookup_eq_none_iff.1 h p hp) hc.symm
  | some s =>
    refine .inl ?_
    obtain ⟨before, after, hsplit, -⟩ := List.lookup_eq_some_iff.1 h
    have hmem : (c, s) ∈ escapes := hsplit ▸ List.mem_append_right before List.mem_cons_self
    simp only [escapes, List.mem_cons, List.not_mem_nil, or_false, Prod.mk.injEq] at hmem
    rcases hmem with ⟨rfl, rfl⟩ | ⟨rfl, rfl⟩ | ⟨rfl, rfl⟩ | ⟨rfl, rfl⟩ | ⟨rfl, rfl⟩ | ⟨rfl, rfl⟩ |
      ⟨rfl, rfl⟩ | ⟨rfl, rfl⟩
    · exact ⟨"lt".toList, rfl, forall_of_all (by decide), by decide, by decide⟩
    · exact ⟨"gt".toList, rfl, forall_of_all (by decide), by decide, by decide⟩
    · exact ⟨"amp".toList, rfl, forall_of_all (by decide), by decide, by decide⟩
    · exact ⟨"quot".toList, rfl, forall_of_all (by decide), by decide, by decide⟩
    · exact ⟨"apos".toList, rfl, forall_of_all (by decide), by decide, by decide⟩
    · exact ⟨"#10".toList, rfl, forall_of_all (by decide), by decide, by decide⟩
    · exact ⟨"#9".toList, rfl, forall_of_all (by decide), by decide, by decide⟩
    · exact ⟨"#13".toList, rfl, forall_of_all (by decide), by decide, by decide⟩

theorem isXmlChar_of_isNameChar {c : Char} (h : isNameChar c = true) : isXmlChar c = true := by
  have hin : ∀ ranges ⊆ nameStartRanges ++ nameRestRanges,
      Text.inRanges ranges c.toNat = true → isXmlChar c = true := by
    intro ranges hsubset hc
    have hbounds : ∀ p ∈ nameStartRanges ++ nameRestRanges,
        0x20 ≤ p.1 ∧ (p.2 < 0xFFFE ∨ 0xFFFF < p.1) := by decide
    obtain ⟨p, hp, hpc⟩ := List.any_eq_true.1 hc
    have hp' := hbounds p (hsubset hp)
    simp only [Bool.and_eq_true, decide_eq_true_eq] at hpc
    simp only [isXmlChar, Bool.or_eq_true, Bool.and_eq_true, decide_eq_true_eq]
    omega
  have hascii : 0x30 ≤ c.toNat → c.toNat < 0x80 → isXmlChar c = true := by
    intro hlow hhigh
    simp only [isXmlChar, Bool.or_eq_true, Bool.and_eq_true, decide_eq_true_eq]
    omega
  simp only [isNameChar, isNameStart, Bool.or_eq_true, decide_eq_true_eq] at h
  rcases h with ((((((halpha | rfl) | rfl) | hstart) | hdigit) | rfl) | rfl) | hrest
  · rcases Bool.or_eq_true_iff.1 halpha with hupper | hlower
    · have hbounds : 0x41 ≤ c.toNat ∧ c.toNat ≤ 0x5A := of_decide_eq_true hupper
      exact hascii (by omega) (by omega)
    · have hbounds : 0x61 ≤ c.toNat ∧ c.toNat ≤ 0x7A :=
        (Bool.and_eq_true_iff.1 hlower).imp of_decide_eq_true of_decide_eq_true
      exact hascii (by omega) (by omega)
  · decide
  · decide
  · exact hin _ (List.subset_append_left _ _) hstart
  · have hbounds : 0x30 ≤ c.toNat ∧ c.toNat ≤ 0x39 := Char.isDigit_iff_toNat.1 hdigit
    exact hascii hbounds.1 (by omega)
  · decide
  · decide
  · exact hin _ (List.subset_append_right _ _) hrest

theorem quotable_of_isNameChar {c : Char} (h : isNameChar c = true) : Quotable c where
  xmlChar := isXmlChar_of_isNameChar h
  noQuote := ne_of_class h (by decide)
  noTag := ne_of_class h (by decide)
  blank hspace := by
    rcases eq_of_isSpace hspace with rfl | rfl | rfl | rfl <;> exact absurd h (by decide)

/-- What `escapeChar` writes for a character of XML may stand between quotes. -/
theorem quotable_of_mem_escapeChar {c d : Char} (hc : isXmlChar c = true)
    (h : d ∈ escapeChar c) : Quotable d := by
  have hampersand : Quotable '&' := ⟨by decide, by decide, by decide, by decide⟩
  have hhash : Quotable '#' := ⟨by decide, by decide, by decide, by decide⟩
  have hsemicolon : Quotable ';' := ⟨by decide, by decide, by decide, by decide⟩
  rcases escapeChar_cases c with ⟨body, heq, hbody, -, -⟩ | ⟨heq, hplain⟩
  · rw [heq, List.mem_cons, List.mem_append, List.mem_singleton] at h
    rcases h with rfl | hd | rfl
    · exact hampersand
    · rcases hbody d hd with rfl | hname
      · exact hhash
      · exact quotable_of_isNameChar hname
    · exact hsemicolon
  · rw [heq, List.mem_singleton] at h
    subst h
    refine ⟨hc, (ne_of_mem_of_not_mem (by decide) hplain).symm,
      (ne_of_mem_of_not_mem (by decide) hplain).symm, ?_⟩
    intro hspace
    rcases eq_of_isSpace hspace with rfl | rfl | rfl | rfl
    · rfl
    all_goals exact absurd (by decide) hplain

/-! ## Reading a text back -/

/-- `normalizeSpaces` changes nothing in a list of `Quotable` characters. -/
theorem normalizeSpaces_of_quotable {cs : List Char} (h : ∀ c ∈ cs, Quotable c) :
    normalizeSpaces cs = cs := by
  induction cs with
  | nil => rfl
  | cons c cs ih =>
    have hc := (h c List.mem_cons_self).blank
    have hcs := ih fun d hd => h d (List.mem_cons_of_mem c hd)
    rw [normalizeSpaces, hcs]
    · split
      next hspace => rw [hc hspace]
      next => rfl
    · rintro rest rfl -
      exact absurd (hc (by decide)) (by decide)

/-- `resolve?` reads a reference up to its semicolon and goes on behind it. -/
theorem resolve?_body {body : List Char} (h : ';' ∉ body) (seen rest : List Char) :
    resolve? (some seen) (body ++ ';' :: rest) =
      (referenceChar? (seen.reverse ++ body)).bind fun c => (resolve? none rest).map (c :: ·) := by
  induction body generalizing seen with
  | nil =>
    rw [List.nil_append, List.append_nil, resolve?]
    cases referenceChar? seen.reverse <;> cases resolve? none rest <;> rfl
  | cons d body ih =>
    have hd : d ≠ ';' := fun hd => h (hd ▸ List.mem_cons_self)
    rw [List.cons_append, resolve?, ih fun hbody => h (List.mem_cons_of_mem d hbody),
      List.reverse_cons, List.append_assoc, List.singleton_append]
    exact fun heq => absurd heq hd

/-- A character that `escapeChar` writes is read back, whatever follows it. -/
theorem resolve?_escapeChar (c : Char) (rest : List Char) :
    resolve? none (escapeChar c ++ rest) = (resolve? none rest).map (c :: ·) := by
  rcases escapeChar_cases c with ⟨body, heq, hbody, hc, -⟩ | ⟨heq, hplain⟩
  · have hsemicolon : ';' ∉ body := fun hmem => by
      rcases hbody ';' hmem with h | h <;> exact absurd h (by decide)
    rw [heq, List.cons_append, List.append_assoc, List.singleton_append, resolve?,
      resolve?_body hsemicolon, List.reverse_nil, List.nil_append, hc, Option.bind_some]
  · rw [heq, List.singleton_append, resolve?]
    exact (ne_of_mem_of_not_mem (by decide) hplain).symm

/-- `resolve?` undoes `escapeChar` along a list. -/
theorem resolve?_flatMap_escapeChar (cs : List Char) :
    resolve? none (cs.flatMap escapeChar) = some cs := by
  induction cs with
  | nil => rfl
  | cons c cs ih => rw [List.flatMap_cons, resolve?_escapeChar, ih, Option.map_some]

theorem escapeChar_of_not_mem_markup {c : Char} (h : c ∉ markup) : escapeChar c = [c] := by
  have hlookup : escapes.lookup c = none := by
    rw [List.lookup_eq_none_iff]
    intro p hp
    exact bne_iff_ne.2 fun hc => h (map_fst_escapes ▸ hc ▸ List.mem_map_of_mem hp)
  rw [escapeChar, hlookup]

/-- The shortcut of `escape` for a text without `markup` gives what the loop over its characters
gives. -/
theorem escape_eq_escapeAll (s : String) : escape s = escapeAll s := by
  rw [escape]
  split
  · rfl
  next hplain =>
    have hself : s.toList.flatMap escapeChar = s.toList.flatMap fun c => [c] :=
      List.flatMap_congr fun c hc => escapeChar_of_not_mem_markup fun hmarkup =>
        hplain (List.any_eq_true.2 ⟨c, hc, List.elem_eq_true_of_mem hmarkup⟩)
    rw [escapeAll, hself, List.flatMap_singleton', String.ofList_toList]

theorem toList_escape (s : String) : (escape s).toList = s.toList.flatMap escapeChar := by
  rw [escape_eq_escapeAll, escapeAll, String.toList_ofList]

/-- The `escape` of a text that XML can carry is read as that text. -/
theorem quoted_escape {s : String} (h : isXmlText s = true) : Quoted (escape s).toList s := by
  have hchars : ∀ c ∈ s.toList.flatMap escapeChar, Quotable c := by
    intro c hc
    obtain ⟨d, hd, hcd⟩ := List.mem_flatMap.1 hc
    exact quotable_of_mem_escapeChar (isXmlText_iff.1 h d hd) hcd
  rw [toList_escape]
  refine ⟨hchars, ?_⟩
  rw [attributeValue?, normalizeSpaces_of_quotable hchars, resolve?_flatMap_escapeChar,
    Option.map_some, String.ofList_toList]

theorem escapeChar_of_isNameChar {c : Char} (h : isNameChar c = true) : escapeChar c = [c] := by
  rcases escapeChar_cases c with ⟨body, -, -, -, hother⟩ | ⟨heq, -⟩
  · rw [h] at hother
    cases hother
  · exact heq

theorem isXmlText_of_isNameChar {s : String} (h : ∀ c ∈ s.toList, isNameChar c = true) :
    isXmlText s = true :=
  isXmlText_iff.2 fun c hc => isXmlChar_of_isNameChar (h c hc)

/-- A text of name characters is `Quoted` as itself. -/
theorem quoted_of_isNameChar {s : String} (h : ∀ c ∈ s.toList, isNameChar c = true) :
    Quoted s.toList s := by
  have hescape : s.toList.flatMap escapeChar = s.toList := by
    have hcongr : s.toList.flatMap escapeChar = s.toList.flatMap fun c => [c] :=
      List.flatMap_congr fun c hc => escapeChar_of_isNameChar (h c hc)
    rw [hcongr, List.flatMap_singleton']
  have hquoted : Quoted (escape s).toList s := quoted_escape (isXmlText_of_isNameChar h)
  rwa [toList_escape, hescape] at hquoted

theorem quoted_idText (id : Id) : Quoted (idText id).toList (idText id) :=
  quoted_of_isNameChar fun c hc => by
    rcases mem_idText hc with hdigit | rfl
    · simp [isNameChar, hdigit]
    · decide

theorem isNameChar_of_mem_floatText {x : Float} (h : isFiniteFloat x = true) {c : Char}
    (hc : c ∈ (floatText x).toList) : isNameChar c = true := by
  rcases mem_floatText h hc with hdigit | rfl | rfl
  · simp [isNameChar, hdigit]
  · decide
  · decide

/-- The text of a finite number is `Quoted` as itself. -/
theorem quoted_floatText {x : Float} (h : isFiniteFloat x = true) :
    Quoted (floatText x).toList (floatText x) :=
  quoted_of_isNameChar fun _ => isNameChar_of_mem_floatText h

theorem isXmlText_floatText {x : Float} (h : isFiniteFloat x = true) :
    isXmlText (floatText x) = true :=
  isXmlText_of_isNameChar fun _ => isNameChar_of_mem_floatText h

end RoadNet.Xml
