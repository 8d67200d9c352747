import Mathlib.Algebra.Group.Nat.Defs
import Mathlib.Data.List.Basic
import Mathlib.Data.List.Induction
import Mathlib.Data.List.TakeDrop
import Mathlib.Data.List.TakeWhile
import RoadNet.Attribute

/-!
# RoadNet.Proofs.Numerals

Whole numbers that are written in decimal are read back.

* `Text.ofDigits_toDigits` — the digits of a number denote it;
* `Text.toDigits_ofDigits` — and digits without a zero in front are those of the number;
* `readId?_idText` — an identifier that is written is read back;
* `Text.trim_of_forall` — a text without white space is not trimmed.
-/

namespace RoadNet

namespace Text

/-! ## Spans -/

/-- Characters of the class `p`, up to one outside of it, are the `span` of the class. -/
theorem span_append {p : α → Bool} {xs rest : List α} (hxs : ∀ a ∈ xs, p a = true)
    (hrest : ∀ a ∈ rest.head?, p a = false) : (xs ++ rest).span p = (xs, rest) := by
  have hstop : rest.takeWhile p = [] ∧ rest.dropWhile p = rest := by
    cases rest with
    | nil => exact ⟨rfl, rfl⟩
    | cons a rest =>
      have ha : p a = false := hrest a rfl
      simp [ha]
  rw [List.span_eq_takeWhile_dropWhile, List.takeWhile_append_of_pos hxs,
    List.dropWhile_append_of_pos hxs, hstop.1, hstop.2, List.append_nil]

/-- Digits, up to a character that is none, are what `spanDigits` takes. -/
theorem spanDigits_append {ds rest : List Char} (hds : ∀ c ∈ ds, c.isDigit = true)
    (hrest : ∀ c ∈ rest.head?, c.isDigit = false) : spanDigits (ds ++ rest) = (ds, rest) :=
  span_append hds hrest

/-! ## Digits -/

theorem isDigit_of_mem_toDigits {n : Nat} {c : Char} (h : c ∈ Nat.toDigits 10 n) :
    c.isDigit = true :=
  Nat.isDigit_of_mem_toDigits (by decide) (by decide) h

/-- `ofDigits` undoes `Nat.toDigits`. -/
theorem ofDigits_toDigits (n : Nat) : ofDigits (Nat.toDigits 10 n) = n :=
  Nat.ofDigitChars_ten_toDigits

/-- Digits count more by a power of ten when others come behind them. -/
theorem ofDigits_append (xs ys : List Char) :
    ofDigits (xs ++ ys) = 10 ^ ys.length * ofDigits xs + ofDigits ys :=
  (Nat.ofDigitChars_append 0).trans Nat.ofDigitChars_eq_ofDigitChars_zero

@[simp] theorem ofDigits_replicate_zero (n : Nat) : ofDigits (List.replicate n '0') = 0 :=
  Nat.ofDigitChars_replicate_zero

theorem digitValue_lt {c : Char} (h : c.isDigit = true) : digitValue c < 10 := by
  have hdigit : 48 ≤ c.toNat ∧ c.toNat ≤ 57 := Char.isDigit_iff_toNat.1 h
  change c.toNat - 48 < 10
  omega

theorem digitChar_digitValue {c : Char} (h : c.isDigit = true) : (digitValue c).digitChar = c := by
  have hdigit : 48 ≤ c.toNat ∧ c.toNat ≤ 57 := Char.isDigit_iff_toNat.1 h
  have htable : ∀ n < 10, n.digitChar = Char.ofNat (48 + n) := by decide
  change (c.toNat - 48).digitChar = c
  rw [htable _ (by omega), Nat.add_sub_cancel' hdigit.1, Char.ofNat_toNat]

/-- `Nat.toDigits` of a positive number does not start with a zero. -/
theorem head?_toDigits_ne_zero {n : Nat} (h : 0 < n) : (Nat.toDigits 10 n).head? ≠ some '0' := by
  induction n using Nat.strongRecOn with
  | ind n ih =>
    rcases Nat.lt_or_ge n 10 with hsmall | hlarge
    · have htable : ∀ n < 10, 0 < n → n.digitChar ≠ '0' := by decide
      rw [Nat.toDigits_of_lt_base hsmall, List.head?_cons, ne_eq, Option.some.injEq]
      exact htable n hsmall h
    · rw [Nat.toDigits_of_base_le (by decide) hlarge,
        List.head?_append_of_ne_nil _ Nat.toDigits_ne_nil]
      exact ih (n / 10) (by omega) (by omega)

/-- Digits that do not start with a zero denote a positive number. -/
theorem ofDigits_pos {d : Char} {ds : List Char} (hd : d.isDigit = true) (hne : d ≠ '0') :
    0 < ofDigits (d :: ds) := by
  have hdigit : 48 ≤ d.toNat ∧ d.toNat ≤ 57 := Char.isDigit_iff_toNat.1 hd
  have hzero : d.toNat ≠ 48 := fun heq => hne (Char.toNat_inj.1 heq)
  have hvalue : 0 < ofDigits [d] := by
    change 0 < 10 * 0 + (d.toNat - 48)
    omega
  rw [← List.singleton_append, ofDigits_append]
  exact Nat.add_pos_left (Nat.mul_pos (Nat.pow_pos (by decide)) hvalue) _

/-- `Nat.toDigits` undoes `ofDigits` on digits that do not start with a zero. -/
theorem toDigits_ofDigits {d : Char} {ds : List Char} (hd : d.isDigit = true) (hne : d ≠ '0')
    (hds : ∀ c ∈ ds, c.isDigit = true) : Nat.toDigits 10 (ofDigits (d :: ds)) = d :: ds := by
  induction ds using List.reverseRecOn with
  | nil =>
    have hvalue : ofDigits [d] = digitValue d := by simp [ofDigits]
    rw [hvalue, Nat.toDigits_of_lt_base (digitValue_lt hd), digitChar_digitValue hd]
  | append_singleton ds c ih =>
    have hc : c.isDigit = true := hds c (by simp)
    have hlast := digitValue_lt hc
    have hfront := ih fun c' hc' => hds c' (List.mem_append_left _ hc')
    have hpos : 0 < ofDigits (d :: ds) := ofDigits_pos hd hne
    have hvalue : ofDigits (d :: (ds ++ [c])) = 10 * ofDigits (d :: ds) + digitValue c := by
      rw [← List.cons_append, ofDigits_append]
      simp [ofDigits]
    have hquot : (10 * ofDigits (d :: ds) + digitValue c) / 10 = ofDigits (d :: ds) := by omega
    have hrem : (10 * ofDigits (d :: ds) + digitValue c) % 10 = digitValue c := by omega
    rw [hvalue, Nat.toDigits_of_base_le (by decide) (by omega), hquot, hrem, hfront,
      digitChar_digitValue hc, List.cons_append]

/-- `splitSign` takes no sign off a text that starts with a digit. -/
theorem splitSign_of_isDigit {cs : List Char} (h : ∀ c ∈ cs.head?, c.isDigit = true) :
    splitSign cs = (false, cs) := by
  unfold splitSign
  split
  next cs => exact absurd (h '-' rfl) (by decide)
  next cs => exact absurd (h '+' rfl) (by decide)
  next => rfl

theorem head?_toDigits_isDigit (n : Nat) : ∀ c ∈ (Nat.toDigits 10 n).head?, c.isDigit = true :=
  fun _ hc => isDigit_of_mem_toDigits (List.mem_of_mem_head? hc)

/-- `readNat?` undoes `Nat.toDigits`. -/
theorem readNat?_toDigits (n : Nat) : readNat? (Nat.toDigits 10 n) = some n := by
  have hfilled : (Nat.toDigits 10 n).isEmpty = false :=
    List.isEmpty_eq_false_iff.2 Nat.toDigits_ne_nil
  have hdigits : (Nat.toDigits 10 n).all Char.isDigit = true :=
    List.all_eq_true.2 fun _ => isDigit_of_mem_toDigits
  rw [readNat?, hfilled, hdigits, ofDigits_toDigits]
  rfl

/-! ## Whole numbers -/

/-- The `toString` of a whole number: a minus sign if it is negative, then its digits. -/
theorem toList_toString (n : Int) :
    (toString n).toList =
      if 0 ≤ n then Nat.toDigits 10 n.toNat else '-' :: Nat.toDigits 10 (-n).toNat := by
  rw [Int.toString_eq_repr, Int.repr_eq_if]
  split
  · exact Nat.toList_repr
  · rw [String.toList_append, Nat.toList_repr]
    rfl

/-- `readInt?` undoes `toString`. -/
theorem readInt?_toString (n : Int) : readInt? (toString n).toList = some n := by
  unfold readInt?
  rw [toList_toString]
  by_cases h : 0 ≤ n
  · rw [if_pos h, splitSign_of_isDigit (head?_toDigits_isDigit _)]
    dsimp only
    rw [readNat?_toDigits]
    exact congrArg some (Int.toNat_of_nonneg h)
  · have hsign : splitSign ('-' :: Nat.toDigits 10 (-n).toNat) =
        (true, Nat.toDigits 10 (-n).toNat) := rfl
    rw [if_neg h, hsign]
    dsimp only
    rw [readNat?_toDigits]
    have hneg : -((-n).toNat : Int) = n := by omega
    exact congrArg some hneg

/-- The `toString` of a whole number has digits and perhaps a minus sign. -/
theorem mem_toString {n : Int} {c : Char} (h : c ∈ (toString n).toList) :
    c.isDigit = true ∨ c = '-' := by
  rw [toList_toString] at h
  split at h
  · exact .inl (isDigit_of_mem_toDigits h)
  · exact (List.mem_cons.1 h).elim .inr fun h => .inl (isDigit_of_mem_toDigits h)

/-! ## White space -/

/-- `trim` leaves a text without white space as it is. -/
theorem trim_of_forall {cs : List Char} (h : ∀ c ∈ cs, isBlank c = false) : trim cs = cs := by
  have hdrop : ∀ ds : List Char, (∀ c ∈ ds, isBlank c = false) → ds.dropWhile isBlank = ds :=
    fun ds hds => List.dropWhile_eq_self_iff.2 fun hl => by simp [hds _ (List.getElem_mem hl)]
  rw [trim, trimEnd, trimStart, hdrop cs h,
    hdrop cs.reverse fun c hc => h c (List.mem_reverse.1 hc), List.reverse_reverse]

theorem isBlank_of_isDigit {c : Char} (h : c.isDigit = true) : isBlank c = false := by
  have hdigit : 48 ≤ c.toNat ∧ c.toNat ≤ 57 := Char.isDigit_iff_toNat.1 h
  simp only [isBlank, inRanges, blankRanges, List.any_cons, List.any_nil, Bool.or_false,
    Bool.or_eq_false_iff, Bool.and_eq_false_iff, decide_eq_false_iff_not]
  omega

end Text

/-! ## Identifiers -/

/-- `readId?` undoes `idText`. -/
theorem readId?_idText (id : Id) : readId? (idText id).toList = some id := by
  rw [readId?, idText, Text.readInt?_toString, Option.bind_some,
    if_pos ⟨Int64.minValue_le_toInt id, Int64.toInt_le id⟩, Int64.ofInt_toInt]

/-- What is written of an identifier are digits and perhaps a minus sign. -/
theorem mem_idText {id : Id} {c : Char} (h : c ∈ (idText id).toList) :
    c.isDigit = true ∨ c = '-' :=
  Text.mem_toString h

theorem isBlank_of_mem_idText {id : Id} {c : Char} (h : c ∈ (idText id).toList) :
    Text.isBlank c = false := by
  rcases mem_idText h with hdigit | rfl
  · exact Text.isBlank_of_isDigit hdigit
  · decide

/-- `Attribute.parse?` reads an identifier back, white space around it aside. -/
theorem Attribute.parse?_idText (id : Id) : Attribute.parse? readId? (idText id) = some id := by
  rw [Attribute.parse?, Text.trim_of_forall fun c => isBlank_of_mem_idText, readId?_idText]

end RoadNet
