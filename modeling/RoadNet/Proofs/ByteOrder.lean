import RoadNet.Proofs.KeyOrder

/-!
# RoadNet.Proofs.ByteOrder

Texts in the order of their characters are in the order of their UTF-8 bytes
(`isLE_compare_iff_bytes_le`).

The encodings of two characters differ at a place that both have, and there the lesser character
has the lesser byte (`utf8EncodeChar_append_lt`): an encoding of more bytes starts with a greater
one, and encodings of equal length list the digits of the codes in base 64.
-/

namespace RoadNet

namespace Text

/-- The bytes of a text in UTF-8. -/
def bytes (s : String) : List UInt8 := s.toUTF8.data.toList

theorem bytes_eq_flatMap (s : String) : bytes s = s.toList.flatMap String.utf8EncodeChar := by
  rw [bytes, String.toUTF8_eq_toByteArray, ← String.ofList_toList (s := s),
    String.toByteArray_ofList, List.utf8Encode, List.toList_data_toByteArray, String.toList_ofList]

/-! ## Characters -/

/-- The first digit at which two numbers differ in base 64 is less in the lesser one. -/
theorem digits_lt {v w : Nat} (h : v < w) :
    v / 262144 < w / 262144 ∨ v / 262144 = w / 262144 ∧
      (v / 4096 % 64 < w / 4096 % 64 ∨ v / 4096 % 64 = w / 4096 % 64 ∧
        (v / 64 % 64 < w / 64 % 64 ∨ v / 64 % 64 = w / 64 % 64 ∧ v % 64 < w % 64)) := by
  omega

/-- The encodings of two characters under `utf8EncodeChar` are in the order of the characters,
whatever follows them. -/
theorem utf8EncodeChar_append_lt {c d : Char} (h : c < d) (xs ys : List UInt8) :
    String.utf8EncodeChar c ++ xs < String.utf8EncodeChar d ++ ys := by
  have hlt : c.val.toNat < d.val.toNat := h
  have hbound : d.val.toNat < 1114112 := by
    rcases d.valid with hd | hd <;> omega
  unfold String.utf8EncodeChar
  dsimp only
  generalize c.val.toNat = v at hlt
  generalize d.val.toNat = w at hlt hbound
  by_cases hfour : 65535 < v
  · have hv : ¬v ≤ 127 ∧ ¬v ≤ 2047 ∧ ¬v ≤ 65535 := by omega
    have hw : ¬w ≤ 127 ∧ ¬w ≤ 2047 ∧ ¬w ≤ 65535 := by omega
    simp only [hv, hw, if_false, List.cons_append, List.nil_append, List.cons_lt_cons_iff,
      UInt8.lt_iff_toNat_lt, ← UInt8.toNat_inj, UInt8.toNat_ofNat']
    rcases digits_lt hlt with h₃ | ⟨h₃, h₂ | ⟨h₂, h₁ | ⟨h₁, h₀⟩⟩⟩
    · exact .inl (by omega)
    · exact .inr ⟨by omega, .inl (by omega)⟩
    · exact .inr ⟨by omega, .inr ⟨by omega, .inl (by omega)⟩⟩
    · exact .inr ⟨by omega, .inr ⟨by omega, .inr ⟨by omega, .inl (by omega)⟩⟩⟩
  · -- The first bytes differ, or there are few digits to compare.
    split_ifs <;> simp only [List.cons_append, List.nil_append, List.cons_lt_cons_iff,
      UInt8.lt_iff_toNat_lt, ← UInt8.toNat_inj, UInt8.toNat_ofNat'] <;>
      generalize (xs < ys) = p <;> omega

/-- The encodings of two lists of characters are in the order of the lists. -/
theorem flatMap_utf8EncodeChar_lt {xs ys : List Char} (h : xs < ys) :
    xs.flatMap String.utf8EncodeChar < ys.flatMap String.utf8EncodeChar := by
  induction h with
  | @nil d ys =>
    rw [List.flatMap_nil, List.flatMap_cons]
    cases henc : String.utf8EncodeChar d with
    | nil => exact absurd henc String.utf8EncodeChar_ne_nil
    | cons b rest => exact .nil
  | rel hlt =>
    rw [List.flatMap_cons, List.flatMap_cons]
    exact utf8EncodeChar_append_lt hlt _ _
  | @cons c xs ys _ ih =>
    rw [List.flatMap_cons, List.flatMap_cons]
    exact List.append_left_lt ih

/-! ## Texts -/

/-- The `bytes` of texts are in the order of the texts. -/
theorem bytes_lt_iff {s t : String} : bytes s < bytes t ↔ s < t := by
  have hlt : ∀ {s t : String}, s < t → bytes s < bytes t := fun {s t} h => by
    rw [bytes_eq_flatMap, bytes_eq_flatMap]
    exact flatMap_utf8EncodeChar_lt h
  refine ⟨fun h => ?_, hlt⟩
  by_contra hnot
  rcases Std.le_iff_lt_or_eq.1 (String.not_lt.1 hnot) with hts | rfl
  · exact List.lt_asymm h (hlt hts)
  · exact List.lt_irrefl _ h

/-- The order that `compare` gives to keys is the order of their `bytes`. -/
theorem isLE_compare_iff_bytes_le {s t : String} :
    (compare s t).isLE = true ↔ bytes s ≤ bytes t := by
  have hle : bytes s ≤ bytes t ↔ s ≤ t := by
    rw [← List.not_lt, ← String.not_lt, bytes_lt_iff]
  rw [hle]
  exact isLE_compareOfLessAndEq String.le_antisymm String.not_le String.le_total

end Text

end RoadNet
