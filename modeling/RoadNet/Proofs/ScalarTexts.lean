import RoadNet.Proofs.FloatText
import RoadNet.Yaml.Record

/-!
# RoadNet.Proofs.ScalarTexts

Truth values and numbers as plain text: how they are written, and that they are read back.

* `Value.Spelling` — the one text that each truth value and each number is written as;
* `Value.spelling_iff` — it is the text that a tag with this value has (`tagText?`);
* `Value.ofPlain?_of_spelling` — and it stands for the value.

A finite number is written positionally or with an exponent; both are decimals with the value of
the shortest one that reads back (`Decimal.read?_plain`).
-/

namespace RoadNet

open Text

/-! ## Numbers that are not whole -/

namespace Decimal

variable {d : Decimal}

/-- A decimal as `numeral` writes it in plain text, with an exponent where it is far from one. -/
def plain (d : Decimal) : List Char :=
  if (d.digits.length : Int) + d.exponent ≤ -5 || 16 < (d.digits.length : Int) + d.exponent then
    d.exponential
  else if 0 ≤ d.exponent then d.positional ++ ['.', '0']
  else d.positional

/-- The `digits` of a decimal, the first of them apart. -/
theorem digits_eq_cons (d : Decimal) :
    ∃ first rest, d.digits = first :: rest ∧ first.isDigit = true ∧
      ∀ c ∈ rest, c.isDigit = true := by
  obtain ⟨first, rest, hdigits⟩ := List.exists_cons_of_ne_nil (Nat.toDigits_ne_nil : d.digits ≠ [])
  have hall : ∀ c ∈ first :: rest, c.isDigit = true := fun c hc =>
    isDigit_of_mem_digits (hdigits ▸ hc)
  exact ⟨first, rest, hdigits, List.forall_mem_cons.1 hall⟩

/-- `read?` undoes `exponential`. -/
theorem read?_exponential (d : Decimal) : read? d.exponential = some d := by
  obtain ⟨first, rest, hdigits, hfirst, hrest⟩ := d.digits_eq_cons
  have hvalue : ofDigits (first :: rest) = d.coefficient := hdigits ▸ ofDigits_toDigits _
  have hexponent : ∀ e : Int, readExponent? ('e' :: (toString e).toList) = some e := fun e => by
    rw [readExponent?, if_pos (.inl rfl), readInt?_toString]
  have hfirst' : ∀ c ∈ [first], c.isDigit = true := List.forall_mem_singleton.2 hfirst
  unfold exponential
  rw [hdigits]
  cases rest with
  | nil =>
    have hread := read?_whole_append ('e' :: (toString (1 + d.exponent - 1)).toList) hfirst'
      (List.cons_ne_nil _ _) (by rintro c ⟨⟩; decide)
    refine hread.trans ?_
    rw [hexponent, Option.map_some, hvalue, add_sub_cancel_left]
  | cons second rest =>
    have hread := read?_point_append
      ('e' :: (toString (((first :: second :: rest).length : Int) + d.exponent - 1)).toList)
      hfirst' hrest (List.cons_ne_nil _ _) (by rintro c ⟨⟩; decide)
    refine hread.trans ?_
    have horder : ((first :: second :: rest).length : Int) + d.exponent - 1 -
        (second :: rest).length = d.exponent := by
      simp only [List.length_cons]
      omega
    rw [hexponent, Option.map_some, List.singleton_append, hvalue, horder]

/-- `read?` undoes `plain` up to the value of the decimal. -/
theorem read?_plain (d : Decimal) : ∃ d', read? d.plain = some d' ∧ d'.value = d.value := by
  unfold plain
  split
  next => exact ⟨d, read?_exponential d, rfl⟩
  next =>
    split
    next hwhole =>
      have hpositional : d.positional = d.digits ++ List.replicate d.exponent.toNat '0' :=
        if_pos hwhole
      have hdigits : ∀ c ∈ d.digits ++ List.replicate d.exponent.toNat '0', c.isDigit = true :=
        fun c hc => (List.mem_append.1 hc).elim isDigit_of_mem_digits isDigit_of_mem_zeros
      obtain ⟨d', hread, hvalue⟩ := read?_positional d
      rw [hpositional] at hread ⊢
      have hne : d.digits ++ List.replicate d.exponent.toNat '0' ≠ [] := by
        simp [digits, Nat.toDigits_ne_nil]
      rw [read?_whole hdigits hne] at hread
      obtain rfl := Option.some.inj hread
      refine ⟨_, read?_point hdigits (List.forall_mem_singleton.2 (by decide)) hne, ?_⟩
      rw [← hvalue, ofDigits_append]
      simp [value, ofDigits, digitValue]
      ring
    next => exact read?_positional d

/-- The first character of `plain` is a digit. -/
theorem head?_plain (d : Decimal) : ∃ c, d.plain.head? = some c ∧ c.isDigit = true := by
  have hpositional : ∃ c, d.positional.head? = some c ∧ c.isDigit = true := by
    obtain ⟨d', hread, -⟩ := read?_positional d
    cases htext : d.positional with
    | nil =>
      rw [htext] at hread
      cases hread
    | cons c rest => exact ⟨c, rfl, head?_positional d c (by rw [htext]; rfl)⟩
  unfold plain
  split
  next =>
    obtain ⟨first, rest, hdigits, hfirst, -⟩ := d.digits_eq_cons
    unfold exponential
    rw [hdigits]
    refine ⟨first, ?_, hfirst⟩
    cases rest <;> rfl
  next =>
    split
    next =>
      obtain ⟨c, hc, hdigit⟩ := hpositional
      exact ⟨c, by rw [List.head?_append, hc, Option.some_or], hdigit⟩
    next => exact hpositional

theorem isDigit_head?_plain (d : Decimal) : ∀ c ∈ d.plain.head?, c.isDigit = true := by
  obtain ⟨c, hc, hdigit⟩ := d.head?_plain
  rw [hc]
  rintro c' ⟨⟩
  exact hdigit

/-- A point or an exponent tells `plain` from a whole number. -/
theorem exists_mem_plain (d : Decimal) : ∃ c ∈ d.plain, c = '.' ∨ c = 'e' := by
  unfold plain
  split
  next =>
    refine ⟨'e', ?_, .inr rfl⟩
    unfold exponential
    simp
  next =>
    split
    next => exact ⟨'.', by simp, .inl rfl⟩
    next hfraction =>
      refine ⟨'.', ?_, .inl rfl⟩
      unfold positional
      dsimp only
      rw [if_neg hfraction]
      split <;> simp

/-- The characters of `plain` are digits, a point, an `e` and a minus sign. -/
theorem mem_plain {c : Char} (h : c ∈ d.plain) :
    c.isDigit = true ∨ c = '.' ∨ c = 'e' ∨ c = '-' := by
  unfold plain at h
  split at h
  next =>
    obtain ⟨first, rest, hdigits, hfirst, hrest⟩ := d.digits_eq_cons
    unfold exponential at h
    rw [hdigits] at h
    rcases List.mem_append.1 h with h | h
    · cases rest with
      | nil => exact .inl (List.mem_singleton.1 h ▸ hfirst)
      | cons second rest =>
        rcases List.mem_cons.1 h with rfl | h
        · exact .inl hfirst
        · rcases List.mem_cons.1 h with rfl | h
          · exact .inr (.inl rfl)
          · exact .inl (hrest c h)
    · rcases List.mem_cons.1 h with rfl | h
      · exact .inr (.inr (.inl rfl))
      · exact (mem_toString h).imp_right fun h => .inr (.inr h)
  next =>
    split at h
    next =>
      rcases List.mem_append.1 h with h | h
      · exact (mem_positional h).imp_right .inl
      · rcases List.mem_cons.1 h with rfl | h
        · exact .inr (.inl rfl)
        · exact .inl (List.mem_singleton.1 h ▸ by decide)
    next => exact (mem_positional h).imp_right .inl

end Decimal

namespace Yaml

/-! ## Whole numbers -/

variable {negative : Bool} {cs : List Char}

theorem hexDigit?_of_isDigit {c : Char} (h : c.isDigit = true) :
    hexDigit? c = some (digitValue c) :=
  if_pos h

theorem isDigit_of_hexDigit? {c : Char} {d : Nat} (h : hexDigit? c = some d) (hlt : d < 10) :
    c.isDigit = true := by
  unfold hexDigit? at h
  split at h
  next hdigit => exact hdigit
  next =>
    split at h
    next hlower =>
      have hcode : 97 ≤ c.toNat := hlower.1
      have hvalue := Option.some.inj h
      omega
    next =>
      split at h
      next hupper =>
        have hcode : 65 ≤ c.toNat := hupper.1
        have hvalue := Option.some.inj h
        omega
      next => cases h

/-- `readDigits?` to the base ten is `readNat?`. -/
theorem readDigits?_ten (cs : List Char) : readDigits? 10 cs = readNat? cs := by
  have hfold : ∀ acc, (cs.foldlM (fun n c => (hexDigit? c).bind fun d =>
      if d < 10 then some (10 * n + d) else none) acc : Option Nat) =
      if cs.all Char.isDigit then
        some (cs.foldl (fun n c => 10 * n + digitValue c) acc) else none := by
    induction cs with
    | nil => exact fun _ => rfl
    | cons c cs ih =>
      intro acc
      rw [List.foldlM_cons, List.all_cons, List.foldl_cons]
      by_cases hc : c.isDigit = true
      · rw [hexDigit?_of_isDigit hc, Option.bind_some, if_pos (digitValue_lt hc), hc,
          Bool.true_and]
        exact ih _
      · have hnone : ((hexDigit? c).bind fun d =>
            if d < 10 then some (10 * acc + d) else none) = none := by
          rw [Option.bind_eq_none_iff]
          exact fun d hd => if_neg fun hlt => hc (isDigit_of_hexDigit? hd hlt)
        rw [hnone, Bool.eq_false_iff.2 hc]
        rfl
  unfold readDigits? readNat?
  rw [hfold]
  cases cs.isEmpty <;> rfl

theorem not_mark_of_isDigit {c : Char} (h : c.isDigit = true) : c ≠ 'x' ∧ c ≠ 'o' ∧ c ≠ 'b' := by
  refine ⟨?_, ?_, ?_⟩ <;> rintro rfl <;> cases h

/-- Where no mark of another base stands, `readMagnitude?` is `readNat?`. -/
theorem readMagnitude?_of_forall (h : ∀ c ∈ cs, c ≠ 'x' ∧ c ≠ 'o' ∧ c ≠ 'b') :
    readMagnitude? cs = readNat? cs := by
  have hbases : (bases.find? fun b => b.1.isPrefixOf cs) = none := by
    refine List.find?_eq_none.2 fun b hb hmark => ?_
    obtain ⟨rest, rfl⟩ := List.isPrefixOf_iff_prefix.1 hmark
    simp only [bases, List.mem_cons, List.not_mem_nil, or_false] at hb
    rcases hb with rfl | rfl | rfl
    · exact (h 'x' (by simp)).1 rfl
    · exact (h 'o' (by simp)).2.1 rfl
    · exact (h 'b' (by simp)).2.2 rfl
  rw [readMagnitude?, hbases]
  exact readDigits?_ten cs

/-- `readWhole?` reads a whole number behind its sign, unless zeros stand in front
(`hasLeadingZero`). -/
theorem readWhole?_signText (negative : Bool) (hhead : ∀ c ∈ cs.head?, c.isDigit = true)
    (hmark : ∀ c ∈ cs, c ≠ 'x' ∧ c ≠ 'o' ∧ c ≠ 'b') :
    readWhole? (signText negative ++ cs) =
      if hasLeadingZero (signText negative ++ cs) then none
      else (readNat? cs).map fun n => if negative then -(n : Int) else n := by
  unfold readWhole?
  rw [splitSign_signText hhead]
  dsimp only
  rw [readMagnitude?_of_forall hmark]

/-- `hasLeadingZero` looks behind the sign, at two digits or more of which the first is a zero. -/
theorem hasLeadingZero_signText (negative : Bool) (hhead : ∀ c ∈ cs.head?, c.isDigit = true) :
    hasLeadingZero (signText negative ++ cs) =
      (1 < cs.length && cs.head? = some '0' && cs.all Char.isDigit) := by
  unfold hasLeadingZero
  rw [splitSign_signText hhead]

/-- A number that is not whole is not read by `readWhole?`, and no zero counts as in front of it. -/
theorem readWhole?_plain (negative : Bool) (d : Decimal) :
    readWhole? (signText negative ++ d.plain) = none ∧
      hasLeadingZero (signText negative ++ d.plain) = false := by
  have hmark : ∀ c ∈ d.plain, c ≠ 'x' ∧ c ≠ 'o' ∧ c ≠ 'b' := by
    intro c hc
    rcases Decimal.mem_plain hc with hdigit | rfl | rfl | rfl
    · exact not_mark_of_isDigit hdigit
    · decide
    · decide
    · decide
  have hall : d.plain.all Char.isDigit = false := by
    obtain ⟨c, hc, hother⟩ := d.exists_mem_plain
    refine List.all_eq_false.2 ⟨c, hc, ?_⟩
    rcases hother with rfl | rfl <;> decide
  have hzero : hasLeadingZero (signText negative ++ d.plain) = false := by
    rw [hasLeadingZero_signText negative d.isDigit_head?_plain, hall, Bool.and_false]
  refine ⟨?_, hzero⟩
  rw [readWhole?_signText negative d.isDigit_head?_plain hmark, hzero, readNat?, hall,
    Bool.and_false]
  rfl

/-- The `toString` of a whole number, its sign apart. -/
theorem toList_toString_natAbs (n : Int) :
    (toString n).toList = signText (n < 0) ++ Nat.toDigits 10 n.natAbs := by
  rw [toList_toString]
  split
  next h =>
    have hsign : decide (n < 0) = false := decide_eq_false (not_lt.2 h)
    rw [hsign, ← Int.toNat_of_nonneg h]
    rfl
  next h =>
    have hsign : decide (n < 0) = true := decide_eq_true (not_le.1 h)
    have habs : (-n).toNat = n.natAbs := by omega
    rw [hsign, habs]
    rfl

/-- `readWhole?` undoes `toString`. -/
theorem readWhole?_toString (n : Int) : readWhole? (toString n).toList = some n := by
  have hmark : ∀ c ∈ Nat.toDigits 10 n.natAbs, c ≠ 'x' ∧ c ≠ 'o' ∧ c ≠ 'b' :=
    fun c hc => not_mark_of_isDigit (isDigit_of_mem_toDigits hc)
  have hzero : hasLeadingZero (toString n).toList = false := by
    rw [toList_toString_natAbs, hasLeadingZero_signText _ (head?_toDigits_isDigit _)]
    rcases Nat.eq_zero_or_pos n.natAbs with habs | habs
    · rw [habs]
      rfl
    · rw [decide_eq_false (head?_toDigits_ne_zero habs), Bool.and_false, Bool.false_and]
  have hread := readWhole?_signText (n < 0) (head?_toDigits_isDigit n.natAbs) hmark
  rw [← toList_toString_natAbs, hzero, readNat?_toDigits] at hread
  refine hread.trans (congrArg some ?_)
  by_cases h : n < 0
  · simp only [decide_eq_true h, if_true]
    omega
  · simp only [decide_eq_false h, Bool.false_eq_true, if_false]
    omega

/-! ## Numbers among other plain text -/

/-- The words that stand for something, and no text at all. -/
def words : List String := "" :: nullWords ++ boolWords.map Prod.fst ++ infinityWords ++ nanWords

/-- How numbers start that are written in digits: with one of these or with a minus sign. -/
def StartsNumber (cs : List Char) : Prop := ∃ c, cs.head? = some c ∧ (c.isDigit = true ∨ c = '-')

/-- A sign in front of digits starts a number. -/
theorem startsNumber_signText (negative : Bool) (h : ∃ c, cs.head? = some c ∧ c.isDigit = true) :
    StartsNumber (signText negative ++ cs) := by
  obtain ⟨c, hc, hdigit⟩ := h
  cases negative with
  | true => exact ⟨'-', rfl, .inr rfl⟩
  | false => exact ⟨c, hc, .inl hdigit⟩

theorem startsNumber_toString (n : Int) : StartsNumber (toString n).toList := by
  rw [toList_toString_natAbs]
  refine startsNumber_signText _ ?_
  obtain ⟨c, rest, hdigits⟩ := List.exists_cons_of_ne_nil
    (Nat.toDigits_ne_nil : Nat.toDigits 10 n.natAbs ≠ [])
  rw [hdigits]
  exact ⟨c, rfl, head?_toDigits_isDigit n.natAbs c (by rw [hdigits]; rfl)⟩

/-- What starts a number is none of the `words`. -/
theorem not_mem_words (h : StartsNumber cs) : String.ofList cs ∉ words := by
  have hwords : words.all (fun w => w.toList.head?.all fun c => !c.isDigit && c != '-') = true := by
    decide +kernel
  obtain ⟨c, hc, hstart⟩ := h
  intro hmem
  have hword := List.all_eq_true.1 hwords _ hmem
  rw [String.toList_ofList, hc, Option.all_some, Bool.and_eq_true, Bool.not_eq_true',
    bne_iff_ne] at hword
  rcases hstart with hdigit | hminus
  · rw [hdigit] at hword
    exact Bool.noConfusion hword.1
  · exact hword.2 hminus

/-- What a text stands for that is none of the `words`: a whole number of up to 128 bits, another
number, or text. -/
theorem Scalar.ofPlain_of_not_mem_words {s : String} (h : s ∉ words) :
    ofPlain s =
      match (readWhole? s.toList).filter isLongWord with
      | some n => .whole n
      | none =>
        match (readReal? s.toList).filter fun _ => !hasLeadingZero s.toList with
        | some x => .real x
        | none => .text s := by
  simp only [words, List.cons_append, List.mem_cons, List.mem_append, not_or] at h
  obtain ⟨hempty, ⟨⟨hnull, hbool⟩, -⟩, -⟩ := h
  have hlookup : boolWords.lookup s = none := List.lookup_eq_none_iff.2 fun p hp =>
    bne_iff_ne.2 fun heq => hbool (List.mem_map.2 ⟨p, hp, heq.symm⟩)
  unfold ofPlain
  rw [hlookup, if_neg (by simp [hempty, hnull])]
  cases (readWhole? s.toList).filter isLongWord <;> rfl

/-! ## What is written -/

/-- The `numeral` of a finite number: its sign and its shortest decimal, `plain`. -/
theorem toList_numeral {x : Float} {m : Magnitude} (h : Binary64.ofFloat x = .finite negative m) :
    (numeral x).toList = signText negative ++ (Decimal.shortest .toEven m).plain := by
  unfold numeral
  rw [h]
  exact String.toList_ofList

/-- `readReal?` undoes `numeral` for finite numbers. -/
theorem readReal?_numeral {x : Float} {m : Magnitude}
    (h : Binary64.ofFloat x = .finite negative m) : readReal? (numeral x).toList = some x := by
  have hhead := (Decimal.shortest .toEven m).isDigit_head?_plain
  have hbody := not_mem_words (startsNumber_signText false (Decimal.shortest .toEven m).head?_plain)
  have hwhole :=
    not_mem_words (startsNumber_signText negative (Decimal.shortest .toEven m).head?_plain)
  rw [signText, if_neg Bool.false_ne_true, List.nil_append] at hbody
  simp only [words, List.mem_append, not_or] at hbody hwhole
  obtain ⟨d, hread, hvalue⟩ := (Decimal.shortest .toEven m).read?_plain
  unfold readReal?
  rw [toList_numeral h, splitSign_signText hhead]
  dsimp only
  rw [if_neg hbody.1.2, if_neg hwhole.2, splitSign_of_isDigit hhead, if_neg (not_not.2 rfl),
    readFloat?_signText negative hhead, hread, Option.map_some, toFloat_of_value_shortest h hvalue,
    Option.filter_some, if_pos (isFiniteFloat_iff.2 ⟨_, _, h⟩)]

/-- The `numeral` of any number is plain text that stands for it. -/
theorem Scalar.ofPlain_numeral (x : Float) : ofPlain (numeral x) = .real x := by
  cases h : Binary64.ofFloat x with
  | nan =>
    have htext : numeral x = ".nan" := by rw [numeral, h]
    have hplain : ofPlain ".nan" = .real Binary64.nan.toFloat := by decide +kernel
    rw [htext, hplain, Binary64.toFloat_of_nan h]
  | infinite negative =>
    have htext : numeral x = if negative then "-.inf" else ".inf" := by rw [numeral, h]
    have hplain : ofPlain (if negative then "-.inf" else ".inf") =
        .real (Binary64.infinite negative).toFloat := by
      cases negative <;> decide +kernel
    rw [htext, hplain, Binary64.toFloat_of_infinite h]
  | finite negative m =>
    have hhead := (Decimal.shortest .toEven m).isDigit_head?_plain
    have hwords :=
      not_mem_words (startsNumber_signText negative (Decimal.shortest .toEven m).head?_plain)
    rw [← toList_numeral h, String.ofList_toList] at hwords
    obtain ⟨hwhole, hzero⟩ := readWhole?_plain negative (Decimal.shortest .toEven m)
    rw [← toList_numeral h] at hwhole hzero
    rw [ofPlain_of_not_mem_words hwords, hwhole, readReal?_numeral h, hzero]
    rfl

/-- The `toString` of a whole number is plain text that stands for it. -/
theorem Scalar.ofPlain_toString {n : Int} (h : isLongWord n = true) :
    ofPlain (toString n) = .whole n := by
  have hwords := not_mem_words (startsNumber_toString n)
  rw [String.ofList_toList] at hwords
  rw [ofPlain_of_not_mem_words hwords, readWhole?_toString, Option.filter_some, if_pos h]

/-! ## The spelling of a value -/

theorem isLongWord_of_isWord {n : Int} (h : isWord n = true) : isLongWord n = true := by
  simp only [isWord, isLongWord, fitsWord, Nat.shiftLeft_eq, Bool.and_eq_true,
    decide_eq_true_eq] at h ⊢
  norm_num at h ⊢
  omega

namespace Value

variable {v : Value} {s : String}

/-- Whether a value is a truth value or a number. -/
def isLiteral : Value → Bool
  | bool _ | int _ | real _ => true
  | _ => false

/-- How a truth value or a number is written: in lower case, or in decimal without a plus sign and
without zeros that could be left out; of the decimals that read back to a number that is not whole
it is the shortest one. -/
inductive Spelling : Value → String → Prop where
  | yes : Spelling (.bool true) "true"
  | no : Spelling (.bool false) "false"
  | zero : Spelling (.int 0) "0"
  | whole (negative : Bool) {first : Char} {rest : List Char} (hfirst : first.isDigit = true)
      (hne : first ≠ '0') (hrest : ∀ c ∈ rest, c.isDigit = true) :
      Spelling
        (.int (if negative then -(ofDigits (first :: rest) : Int) else ofDigits (first :: rest)))
        (String.ofList (signText negative ++ first :: rest))
  | nan {x : Float} (h : Binary64.ofFloat x = .nan) : Spelling (.real x) ".nan"
  | infinite {x : Float} {negative : Bool} (h : Binary64.ofFloat x = .infinite negative) :
      Spelling (.real x) (if negative then "-.inf" else ".inf")
  | finite {x : Float} {negative : Bool} {m : Magnitude}
      (h : Binary64.ofFloat x = .finite negative m) :
      Spelling (.real x) (String.ofList (signText negative ++ (Decimal.shortest .toEven m).plain))

/-- The `Spelling` of a whole number is its `toString`. -/
theorem spelling_toString (n : Int) : Spelling (.int n) (toString n) := by
  rcases eq_or_ne n 0 with rfl | hne
  · exact .zero
  · obtain ⟨first, rest, hdigits⟩ := List.exists_cons_of_ne_nil
      (Nat.toDigits_ne_nil : Nat.toDigits 10 n.natAbs ≠ [])
    have hall : ∀ c ∈ first :: rest, c.isDigit = true := fun c hc =>
      isDigit_of_mem_toDigits (hdigits ▸ hc)
    obtain ⟨hfirst, hrest⟩ := List.forall_mem_cons.1 hall
    have hhead : first ≠ '0' := by
      rintro rfl
      exact head?_toDigits_ne_zero (Int.natAbs_pos.2 hne) (by rw [hdigits]; rfl)
    have hspelling := Spelling.whole (n < 0) hfirst hhead hrest
    rw [← hdigits, ofDigits_toDigits, ← toList_toString_natAbs, String.ofList_toList] at hspelling
    have hvalue : (if decide (n < 0) = true then -(n.natAbs : Int) else n.natAbs) = n := by
      by_cases h : n < 0
      · simp only [decide_eq_true h, if_true]
        omega
      · simp only [decide_eq_false h, Bool.false_eq_true, if_false]
        omega
    rwa [hvalue] at hspelling

/-- The `Spelling` of a value is the text that `tagText?` gives a tag with it, for truth values and
numbers. -/
theorem spelling_iff : v.Spelling s ↔ v.isLiteral = true ∧ tagText? v = some s := by
  constructor
  · intro h
    cases h with
    | yes => exact ⟨rfl, rfl⟩
    | no => exact ⟨rfl, rfl⟩
    | zero => exact ⟨rfl, rfl⟩
    | @whole negative first rest hfirst hne hrest =>
      have hdigits := toDigits_ofDigits hfirst hne hrest
      have hpos : 0 < ofDigits (first :: rest) := ofDigits_pos hfirst hne
      refine ⟨rfl, congrArg some (String.toList_inj.1 ?_)⟩
      rw [toList_toString_natAbs, String.toList_ofList]
      generalize ofDigits (first :: rest) = n at hdigits hpos ⊢
      cases negative with
      | true =>
        have hsign : decide (-(n : Int) < 0) = true := decide_eq_true (by omega)
        rw [if_pos rfl, hsign, Int.natAbs_neg, Int.natAbs_natCast, hdigits]
      | false =>
        have hsign : decide ((n : Int) < 0) = false := decide_eq_false (by omega)
        rw [if_neg Bool.false_ne_true, hsign, Int.natAbs_natCast, hdigits]
    | nan h => exact ⟨rfl, by rw [tagText?, numeral, h]⟩
    | infinite h => exact ⟨rfl, by rw [tagText?, numeral, h]⟩
    | finite h => exact ⟨rfl, by rw [tagText?, ← toList_numeral h, String.ofList_toList]⟩
  · rintro ⟨hliteral, htext⟩
    cases v with
    | bool b =>
      obtain rfl := Option.some.inj htext
      cases b
      · exact .no
      · exact .yes
    | int n => exact Option.some.inj htext ▸ spelling_toString n
    | real x =>
      obtain rfl := Option.some.inj htext
      cases h : Binary64.ofFloat x with
      | nan =>
        have htext : numeral x = ".nan" := by rw [numeral, h]
        exact htext ▸ .nan h
      | infinite negative =>
        have htext : numeral x = if negative then "-.inf" else ".inf" := by rw [numeral, h]
        exact htext ▸ .infinite h
      | finite negative m =>
        have hspelling := Spelling.finite h
        rwa [← toList_numeral h, String.ofList_toList] at hspelling
    | null | text _ | sequence _ | mapping _ | tagged _ _ => cases hliteral

/-- Each value has one `Spelling`. -/
theorem Spelling.unique {s' : String} (h : v.Spelling s) (h' : v.Spelling s') : s = s' :=
  Option.some.inj ((spelling_iff.1 h).2.symm.trans (spelling_iff.1 h').2)

/-- The `Spelling` of a value stands for it as plain text. -/
theorem ofPlain?_of_spelling (h : v.Spelling s) (hword : ∀ n, v = .int n → isWord n = true) :
    ofPlain? s = some v := by
  obtain ⟨hliteral, htext⟩ := spelling_iff.1 h
  cases v with
  | bool b =>
    obtain rfl := Option.some.inj htext
    have hplain : Scalar.ofPlain (Attribute.ofBool b) = .bool b := by cases b <;> decide +kernel
    rw [ofPlain?, hplain]
  | int n =>
    obtain rfl := Option.some.inj htext
    have hn := hword n rfl
    rw [ofPlain?, Scalar.ofPlain_toString (isLongWord_of_isWord hn)]
    exact if_pos hn
  | real x =>
    obtain rfl := Option.some.inj htext
    rw [ofPlain?, Scalar.ofPlain_numeral]
  | null | text _ | sequence _ | mapping _ | tagged _ _ => cases hliteral

end Value

end Yaml

end RoadNet
