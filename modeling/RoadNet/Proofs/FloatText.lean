import RoadNet.Decimal.Notation
import RoadNet.Decimal.Reading
import RoadNet.Proofs.FloatBits
import RoadNet.Proofs.Numerals
import RoadNet.Proofs.Rounding

/-!
# RoadNet.Proofs.FloatText

A finite float that is written is read back (`readFloat?_floatText`).

The decimal that is written rounds to the float (`Decimal.covers_shortest`), what is read has the
value of the decimal that was written (`Decimal.read?_positional`), and the float nearest to a
decimal is the one that the decimal rounds to.
-/

namespace RoadNet

open Text

/-! ## The decimal that is written -/

namespace Decimal

variable {x : Magnitude} {d : Decimal}

/-- A candidate that `readsBack` as the magnitude is covered by it. -/
theorem covers_of_readsBack (h : readsBack x d = true) : x.Covers d.value := by
  unfold readsBack at h
  simp only [compareMagnitude_eq, Bool.and_eq_true, Bool.or_eq_true, beq_iff_eq,
    compare_gt_iff_gt, compare_eq_iff_eq, compare_lt_iff_lt] at h
  obtain ⟨hlower, hupper⟩ := h
  refine ⟨?_, ?_, ?_⟩
  · rcases hlower with h | ⟨-, h⟩
    · exact h.le
    · exact h.ge
  · rcases hupper with h | ⟨-, h⟩
    · exact h.le
    · exact h.le
  · rintro (h | h)
    · exact (hlower.resolve_left (h ▸ lt_irrefl _)).1
    · exact (hupper.resolve_left (h ▸ lt_irrefl _)).1

/-- `stripZeros` keeps the value. -/
theorem value_stripZeros (fuel : Nat) (d : Decimal) : (stripZeros fuel d).value = d.value := by
  induction fuel generalizing d with
  | zero => rfl
  | succ fuel ih =>
    rw [stripZeros]
    split
    next h =>
      rw [ih, value, value, zpow_add_one₀ (by norm_num)]
      have hcoefficient : (d.coefficient : ℚ) = (d.coefficient / 10 : Nat) * 10 := by
        exact_mod_cast (Nat.div_mul_cancel (Nat.dvd_of_mod_eq_zero h.2)).symm
      rw [hcoefficient]
      ring
    next => rfl

/-- `roundDiv` is the quotient rounded down, or one more. -/
theorem roundDiv_eq_floor_or_succ (tie : Tie) (num den : Nat) :
    roundDiv tie num den = num / den ∨ roundDiv tie num den = num / den + 1 := by
  unfold roundDiv
  dsimp only
  split
  · exact .inl rfl
  · exact .inr rfl
  · cases tie with
    | toEven =>
      dsimp only
      split
      · exact .inl rfl
      · exact .inr rfl
    | up => exact .inr rfl

/-- A candidate that `onGrid?` finds reads back as the magnitude. -/
theorem readsBack_of_onGrid? {tie : Tie} {e : Int} (h : onGrid? tie x e = some d) :
    readsBack x d = true := by
  unfold onGrid? at h
  dsimp only at h
  split at h
  next hbelow habove =>
    rw [← Option.some.inj h]
    rcases roundDiv_eq_floor_or_succ tie (x.num * Nat.pow 10 (-e).toNat)
      (x.den * Nat.pow 10 e.toNat) with hround | hround
    · rwa [hround]
    · rwa [hround]
  next hbelow habove => exact Option.some.inj h ▸ hbelow
  next hbelow habove => exact Option.some.inj h ▸ habove
  next => cases h

/-- A magnitude itself rounds to it. -/
theorem covers_value (hpos : 0 < x.significand) : x.Covers x.value := by
  have hunit : (0 : ℚ) < 2 ^ x.exponent := by positivity
  have hlower : (lowerEnd x).value < x.value := by
    by_cases hpower : x.significand = Binary64.hiddenBit ∧ -1074 < x.exponent
    · rw [Magnitude.value_lowerEnd_hiddenBit hpower, Magnitude.value]
      gcongr
      linarith
    · rw [Magnitude.value_lowerEnd hpos hpower, Magnitude.value]
      gcongr
      linarith
  have hupper : x.value < (upperEnd x).value := by
    rw [Magnitude.value_upperEnd, Magnitude.value]
    gcongr
    linarith
  exact ⟨hlower.le, hupper.le, fun h => h.elim (fun h => absurd h hlower.ne')
    fun h => absurd h hupper.ne⟩

/-- The exact value of a magnitude as a `Decimal`. -/
theorem value_exact (x : Magnitude) :
    value ⟨x.num * Nat.pow 5 (-x.exponent).toNat, min x.exponent 0⟩ = x.value := by
  have hnum : x.num = x.significand * 2 ^ x.exponent.toNat := Nat.shiftLeft_eq _ _
  have hpow : Nat.pow 5 (-x.exponent).toNat = 5 ^ (-x.exponent).toNat := rfl
  rw [value, Magnitude.value, hnum, hpow]
  rcases le_total 0 x.exponent with h | h
  · obtain ⟨n, hn⟩ := Int.eq_ofNat_of_zero_le h
    rw [hn, min_eq_right (Int.natCast_nonneg n)]
    simp
  · obtain ⟨n, hn⟩ := Int.eq_ofNat_of_zero_le (Int.neg_nonneg.2 h)
    have hexponent : x.exponent = -(n : Int) := by omega
    rw [hexponent, min_eq_left (by omega), neg_neg, Int.toNat_natCast, zpow_neg, zpow_neg,
      zpow_natCast, zpow_natCast]
    have htoNat : (-(n : Int)).toNat = 0 := by omega
    rw [htoNat]
    have hten : (10 : ℚ) ^ n = 2 ^ n * 5 ^ n := by rw [← mul_pow]; norm_num
    push_cast
    rw [hten]
    field_simp

/-- The `shortest` decimal rounds to the magnitude. -/
theorem covers_shortest (tie : Tie) (hpos : 0 < x.significand) :
    x.Covers (shortest tie x).value := by
  unfold shortest
  rw [if_neg hpos.ne']
  dsimp only
  split
  next d hfind =>
    rw [value_stripZeros]
    obtain ⟨e, -, he⟩ := List.exists_of_findSome?_eq_some hfind
    exact covers_of_readsBack (readsBack_of_onGrid? he)
  next =>
    rw [value_exact]
    exact covers_value hpos

/-! ## The decimal that is read -/

/-- `read?` takes digits with the exponent that `readExponent?` reads behind them. -/
theorem read?_whole_append {whole : List Char} (rest : List Char)
    (hdigits : ∀ c ∈ whole, c.isDigit = true) (hne : whole ≠ [])
    (hrest : ∀ c ∈ rest.head?, c.isDigit = false ∧ c ≠ '.') :
    read? (whole ++ rest) = (readExponent? rest).map fun e => ⟨ofDigits whole, e⟩ := by
  have hspan := spanDigits_append hdigits fun c hc => (hrest c hc).1
  have hfilled : whole.isEmpty = false := List.isEmpty_eq_false_iff.2 hne
  unfold read?
  rw [hspan]
  dsimp only
  split
  next r => exact absurd rfl (hrest '.' rfl).2
  next =>
    rw [hfilled, List.append_nil]
    simp

/-- `read?` takes digits with a point, and the exponent behind them. -/
theorem read?_point_append {whole frac : List Char} (rest : List Char)
    (hwhole : ∀ c ∈ whole, c.isDigit = true) (hfrac : ∀ c ∈ frac, c.isDigit = true)
    (hne : whole ≠ [])
    (hrest : ∀ c ∈ rest.head?, c.isDigit = false) :
    read? (whole ++ '.' :: (frac ++ rest)) =
      (readExponent? rest).map fun e => ⟨ofDigits (whole ++ frac), e - frac.length⟩ := by
  have hspan : spanDigits (whole ++ '.' :: (frac ++ rest)) = (whole, '.' :: (frac ++ rest)) := by
    refine spanDigits_append hwhole fun c hc => ?_
    obtain rfl : '.' = c := Option.some.inj hc
    decide
  have hspan' : spanDigits (frac ++ rest) = (frac, rest) := spanDigits_append hfrac hrest
  have hfilled : whole.isEmpty = false := List.isEmpty_eq_false_iff.2 hne
  unfold read?
  rw [hspan]
  change (if whole.isEmpty && (spanDigits (frac ++ rest)).1.isEmpty then none
    else (readExponent? (spanDigits (frac ++ rest)).2).map fun e =>
      (⟨ofDigits (whole ++ (spanDigits (frac ++ rest)).1),
        e - (spanDigits (frac ++ rest)).1.length⟩ : Decimal)) = _
  rw [hspan', hfilled]
  rfl

theorem read?_whole {whole : List Char} (hdigits : ∀ c ∈ whole, c.isDigit = true)
    (hne : whole ≠ []) : read? whole = some ⟨ofDigits whole, 0⟩ := by
  have hread := read?_whole_append [] hdigits hne nofun
  rwa [List.append_nil] at hread

theorem read?_point {whole frac : List Char} (hwhole : ∀ c ∈ whole, c.isDigit = true)
    (hfrac : ∀ c ∈ frac, c.isDigit = true) (hne : whole ≠ []) :
    read? (whole ++ '.' :: frac) = some ⟨ofDigits (whole ++ frac), -(frac.length : Int)⟩ := by
  have hread := read?_point_append [] hwhole hfrac hne nofun
  rwa [List.append_nil, readExponent?, Option.map_some, Int.zero_sub] at hread

theorem isDigit_of_mem_digits {c : Char} (h : c ∈ d.digits) : c.isDigit = true :=
  isDigit_of_mem_toDigits h

theorem isDigit_of_mem_zeros {n : Nat} {c : Char} (h : c ∈ List.replicate n '0') :
    c.isDigit = true := by
  rw [List.eq_of_mem_replicate h]
  decide

/-- `read?` undoes `positional` up to the value of the decimal. -/
theorem read?_positional (d : Decimal) :
    ∃ d', read? d.positional = some d' ∧ d'.value = d.value := by
  have hdigits : ofDigits d.digits = d.coefficient := ofDigits_toDigits _
  have hne : d.digits ≠ [] := Nat.toDigits_ne_nil
  unfold positional
  dsimp only
  split
  next h =>
    refine ⟨_, read?_whole (fun c hc => ?_) (by simp [hne]), ?_⟩
    · exact (List.mem_append.1 hc).elim isDigit_of_mem_digits isDigit_of_mem_zeros
    · obtain ⟨n, hn⟩ := Int.eq_ofNat_of_zero_le h
      rw [ofDigits_append, ofDigits_replicate_zero, List.length_replicate, hdigits, value, value,
        hn, Int.toNat_natCast]
      push_cast
      rw [zpow_natCast]
      ring
  next h =>
    split
    next hpoint =>
      have hsplit := List.take_append_drop ((d.digits.length : Int) + d.exponent).toNat d.digits
      refine ⟨_, read?_point (fun c hc => isDigit_of_mem_digits (List.mem_of_mem_take hc))
        (fun c hc => isDigit_of_mem_digits (List.mem_of_mem_drop hc)) ?_, ?_⟩
      · rw [ne_eq, List.take_eq_nil_iff]
        exact fun hnil => hnil.elim (fun hzero => by omega) hne
      · rw [hsplit, hdigits, List.length_drop]
        have hexponent : -((d.digits.length - ((d.digits.length : Int) + d.exponent).toNat : Nat) :
            Int) = d.exponent := by omega
        rw [hexponent]
    next hpoint =>
      have hzeros : ∀ c ∈ ['0'], c.isDigit = true := List.forall_mem_singleton.2 (by decide)
      have hfrac : ∀ c ∈ List.replicate (-((d.digits.length : Int) + d.exponent)).toNat '0' ++
          d.digits, c.isDigit = true :=
        fun c hc => (List.mem_append.1 hc).elim isDigit_of_mem_zeros isDigit_of_mem_digits
      have hread := read?_point hzeros hfrac (by simp)
      refine ⟨_, hread, ?_⟩
      · rw [ofDigits_append, ofDigits_append, hdigits, ofDigits_replicate_zero,
          List.length_append, List.length_replicate]
        have hexponent : -(((-((d.digits.length : Int) + d.exponent)).toNat + d.digits.length :
            Nat) : Int) = d.exponent := by omega
        have hzero : ofDigits ['0'] = 0 := by decide
        rw [hexponent, hzero, Nat.mul_zero, Nat.mul_zero, Nat.zero_add, Nat.zero_add]

/-- The first character of `positional` is a digit. -/
theorem head?_positional (d : Decimal) : ∀ c ∈ d.positional.head?, c.isDigit = true := by
  have hhead : ∀ {whole rest : List Char}, (∀ c ∈ whole, c.isDigit = true) → whole ≠ [] →
      ∀ c ∈ (whole ++ rest).head?, c.isDigit = true := by
    intro whole rest hwhole hne c hc
    rw [List.head?_append_of_ne_nil _ hne] at hc
    exact hwhole c (List.mem_of_mem_head? hc)
  have hne : d.digits ≠ [] := Nat.toDigits_ne_nil
  unfold positional
  dsimp only
  split
  · exact hhead (fun c => isDigit_of_mem_digits) hne
  · split
    next hpoint =>
      refine hhead (fun c hc => isDigit_of_mem_digits (List.mem_of_mem_take hc)) ?_
      rw [ne_eq, List.take_eq_nil_iff]
      exact fun hnil => hnil.elim (fun hzero => by omega) hne
    next =>
      intro c hc
      obtain rfl : '0' = c := Option.some.inj hc
      decide

/-- The characters of `positional` are digits and points. -/
theorem mem_positional {c : Char} (h : c ∈ d.positional) : c.isDigit = true ∨ c = '.' := by
  unfold positional at h
  dsimp only at h
  split at h
  · exact .inl ((List.mem_append.1 h).elim isDigit_of_mem_digits isDigit_of_mem_zeros)
  · split at h
    · rcases List.mem_append.1 h with h | h
      · exact .inl (isDigit_of_mem_digits (List.mem_of_mem_take h))
      · rcases List.mem_cons.1 h with rfl | h
        · exact .inr rfl
        · exact .inl (isDigit_of_mem_digits (List.mem_of_mem_drop h))
    · rcases List.mem_append.1 h with h | h
      · rcases List.mem_cons.1 h with rfl | h
        · exact .inl (by decide)
        · rcases List.mem_cons.1 h with rfl | h
          · exact .inr rfl
          · exact .inl (isDigit_of_mem_zeros h)
      · exact .inl (isDigit_of_mem_digits h)

/-! ## The float nearest to it -/

/-- A decimal lies between the powers of ten that its `digits` and its exponent tell. -/
theorem value_bounds (hpos : 0 < d.coefficient) :
    (10 : ℚ) ^ ((d.digits.length : Int) + d.exponent - 1) ≤ d.value ∧
      d.value < 10 ^ ((d.digits.length : Int) + d.exponent) := by
  have hten : (10 : ℚ) ≠ 0 := by norm_num
  have hunit : (0 : ℚ) < 10 ^ d.exponent := by positivity
  obtain ⟨n, hn⟩ : ∃ n, d.digits.length = n + 1 :=
    ⟨_, (Nat.succ_pred_eq_of_pos Nat.length_toDigits_pos).symm⟩
  have hupper : d.coefficient < 10 ^ (n + 1) :=
    (Nat.length_toDigits_le_iff (by decide) (Nat.succ_pos n)).1 hn.le
  have hlower : 10 ^ n ≤ d.coefficient := by
    rcases Nat.eq_zero_or_pos n with rfl | hlong
    · exact hpos
    · by_contra h
      have hle : d.digits.length ≤ n :=
        (Nat.length_toDigits_le_iff (by decide) hlong).2 (Nat.lt_of_not_le h)
      omega
  have hlength : ((d.digits.length : Int) + d.exponent - 1) = n + d.exponent := by omega
  rw [hlength, hn, value, zpow_add₀ hten, zpow_add₀ hten]
  constructor
  · gcongr
    exact_mod_cast hlower
  · gcongr
    exact_mod_cast hupper

/-- Ten is more than the third power of two. -/
theorem two_zpow_lt_ten_zpow {e : Int} (h : 0 < e) : (2 : ℚ) ^ (3 * e) < 10 ^ e := by
  rw [zpow_mul]
  exact zpow_lt_zpow_left₀ h (by positivity) (by norm_num)

theorem ten_zpow_neg_lt_two_zpow_neg {e : Int} (h : 0 < e) : (10 : ℚ) ^ (-e) < 2 ^ (-(3 * e)) := by
  rw [zpow_neg, zpow_neg, inv_lt_inv₀ (by positivity) (by positivity)]
  exact two_zpow_lt_ten_zpow h

/-- A decimal that a finite magnitude covers is read by `toBinary64` as a float with the bits of
that magnitude. -/
theorem toBinary64_of_covers {below : Nat} (hbelow : below < Binary64.infinityBits)
    (hpos : 0 < (Binary64.magnitudeOfBits below).significand)
    (h : (Binary64.magnitudeOfBits below).Covers d.value) (negative : Bool) :
    ∃ m, d.toBinary64 negative = .finite negative m ∧ Binary64.bitsOfMagnitude m = below := by
  have hx := Binary64.canonical_magnitudeOfBits hbelow
  have hbits := Binary64.bitsOfMagnitude_magnitudeOfBits hbelow
  have hhigh : (Binary64.magnitudeOfBits below).exponent ≤ 971 := by
    unfold Binary64.magnitudeOfBits Binary64.infinityBits Binary64.hiddenBit at *
    split <;> simp only <;> omega
  generalize Binary64.magnitudeOfBits below = x at *
  have hunit : (0 : ℚ) < 2 ^ x.exponent := by positivity
  have hone : (1 : ℚ) ≤ x.significand := by exact_mod_cast hpos
  have hlow := h.lower_scaled hpos
  have hupp := h.upper_scaled
  rw [le_div_iff₀ hunit] at hlow
  rw [div_le_iff₀ hunit] at hupp
  -- The decimal is of an order that is not taken for zero or infinity at once.
  have hleast : (10 : ℚ) ^ (-400 : Int) < d.value := by
    refine (ten_zpow_neg_lt_two_zpow_neg (by decide)).trans_le (le_trans ?_ hlow)
    have hhalf : (2 : ℚ) ^ (-1 : Int) ≤ x.significand - 1 / 2 := by
      rw [zpow_neg_one]
      linarith
    calc (2 : ℚ) ^ (-(3 * 400) : Int) ≤ 2 ^ (-1 + -1074 : Int) :=
          zpow_le_zpow_right₀ one_le_two (by decide)
      _ = 2 ^ (-1 : Int) * 2 ^ (-1074 : Int) := zpow_add₀ two_ne_zero _ _
      _ ≤ (x.significand - 1 / 2) * 2 ^ x.exponent :=
          mul_le_mul hhalf (zpow_le_zpow_right₀ one_le_two hx.exponent_ge) (by positivity)
            (by linarith)
  have hgreatest : d.value < (10 : ℚ) ^ (399 : Int) := by
    refine (hupp.trans ?_).trans_lt (two_zpow_lt_ten_zpow (by decide))
    have hfull : (x.significand : ℚ) + 1 / 2 ≤ 2 ^ (53 : Int) := by
      have hlt : (x.significand : ℚ) + 1 ≤ 2 ^ (53 : Int) := by exact_mod_cast hx.significand_lt
      linarith
    calc (x.significand + 1 / 2) * (2 : ℚ) ^ x.exponent ≤ 2 ^ (53 : Int) * 2 ^ (971 : Int) :=
          mul_le_mul hfull (zpow_le_zpow_right₀ one_le_two hhigh) (by positivity) (by positivity)
      _ = 2 ^ (53 + 971 : Int) := (zpow_add₀ two_ne_zero _ _).symm
      _ ≤ 2 ^ (3 * 399 : Int) := zpow_le_zpow_right₀ one_le_two (by decide)
  have hcoefficient : 0 < d.coefficient := by
    refine Nat.pos_of_ne_zero fun hzero => ?_
    rw [value, hzero, Nat.cast_zero, zero_mul] at hleast
    exact absurd hleast (not_lt.2 (by positivity))
  obtain ⟨hlower, hupper⟩ := value_bounds hcoefficient
  have horder : ¬(d.digits.length : Int) + d.exponent < -400 := fun hlt =>
    absurd ((zpow_lt_zpow_iff_right₀ (by norm_num)).1 (hleast.trans hupper)) (by omega)
  have horder' : ¬400 < (d.digits.length : Int) + d.exponent := fun hlt =>
    absurd ((zpow_lt_zpow_iff_right₀ (by norm_num)).1 (hlower.trans_lt hgreatest)) (by omega)
  have hnearest := Binary64.bitsOfMagnitude_nearest hx hpos d.den_pos (d.num_div_den ▸ h)
  refine ⟨Binary64.nearest d.num d.den, ?_, hnearest.trans hbits⟩
  unfold toBinary64
  dsimp only
  rw [if_neg (not_or.2 ⟨hcoefficient.ne', horder⟩), if_neg horder', if_pos]
  rw [hnearest, hbits]
  exact hbelow

end Decimal

/-! ## Floats -/

section Finite

variable {x : Float} {negative : Bool} {m : Magnitude}

/-- `isFiniteFloat` holds exactly of the floats that `ofFloat` finds finite. -/
theorem isFiniteFloat_iff :
    isFiniteFloat x = true ↔ ∃ negative m, Binary64.ofFloat x = .finite negative m := by
  unfold isFiniteFloat
  split
  next negative m heq => exact iff_of_true rfl ⟨negative, m, heq⟩
  next hother => exact iff_of_false nofun fun ⟨negative, m, heq⟩ => hother negative m heq

/-- `floatText` of a finite float: its sign and its shortest decimal. -/
theorem toList_floatText (h : Binary64.ofFloat x = .finite negative m) :
    (floatText x).toList = signText negative ++ (Decimal.shortest .up m).positional := by
  unfold floatText
  rw [h]
  exact String.toList_ofList

/-- `splitSign` undoes `signText` in front of a text that starts with a digit. -/
theorem splitSign_signText {cs : List Char} (h : ∀ c ∈ cs.head?, c.isDigit = true) :
    splitSign (signText negative ++ cs) = (negative, cs) := by
  cases negative with
  | true => rfl
  | false => exact splitSign_of_isDigit h

theorem toLower_of_isDigit {c : Char} (h : c.isDigit = true) : c.toLower = c := by
  have hdigit : 48 ≤ c.toNat ∧ c.toNat ≤ 57 := Char.isDigit_iff_toNat.1 h
  unfold Char.toLower
  split
  next hupper =>
    have hle : 65 ≤ c.toNat := hupper.1
    omega
  next => rfl

/-- A word that starts with a digit is none of those for infinity and not-a-number, in any case of
letters. -/
theorem map_toLower_ne {cs : List Char} (h : ∀ c ∈ cs.head?, c.isDigit = true) {c : Char}
    {rest : List Char} (hc : c.isDigit = false) : cs.map Char.toLower ≠ c :: rest := by
  intro heq
  obtain ⟨c', rest', rfl, rfl, -⟩ := List.map_eq_cons_iff.1 heq
  have hdigit := h c' rfl
  rw [toLower_of_isDigit hdigit, hdigit] at hc
  cases hc

/-- A sign and a text that starts with a digit are read by `readFloat?` as a decimal with this
sign. -/
theorem readFloat?_signText (negative : Bool) {cs : List Char}
    (h : ∀ c ∈ cs.head?, c.isDigit = true) :
    readFloat? (signText negative ++ cs) =
      (Decimal.read? cs).map fun d => (d.toBinary64 negative).toFloat := by
  unfold readFloat?
  rw [splitSign_signText h]
  dsimp only
  rw [if_neg, if_neg]
  · exact map_toLower_ne h (by decide)
  · rintro (hword | hword)
    · exact map_toLower_ne h (by decide) hword
    · exact map_toLower_ne h (by decide) hword

/-- The float nearest to a decimal with the value of the `shortest` one of a finite float is that
float. -/
theorem toFloat_of_value_shortest (hx : Binary64.ofFloat x = .finite negative m) {tie : Tie}
    {d : Decimal} (hvalue : d.value = (Decimal.shortest tie m).value) :
    (d.toBinary64 negative).toFloat = x := by
  obtain ⟨below, hbelow, hm, -⟩ := Binary64.ofFloat_eq_finite hx
  have hfloat : ∃ m', d.toBinary64 negative = .finite negative m' ∧
      Binary64.bitsOfMagnitude m' = Binary64.bitsOfMagnitude m := by
    rcases Nat.eq_zero_or_pos m.significand with hzero | hpos
    -- Zero is written with the coefficient zero, whatever its exponent.
    · have hcoefficient : d.coefficient = 0 := by
        have hzero' : d.value = 0 := by
          rw [hvalue, Decimal.shortest, if_pos hzero, Decimal.value, Nat.cast_zero, zero_mul]
        rw [Decimal.value, mul_eq_zero, Nat.cast_eq_zero] at hzero'
        exact hzero'.resolve_right (by positivity)
      refine ⟨⟨0, -1074⟩, by rw [Decimal.toBinary64, if_pos (.inl hcoefficient)], ?_⟩
      have hexponent := (hm ▸ Binary64.canonical_magnitudeOfBits hbelow).normal
      rw [hzero] at hexponent
      obtain ⟨s, e⟩ := m
      obtain rfl : s = 0 := hzero
      obtain rfl : e = -1074 := hexponent.resolve_left (by decide)
      rfl
    · have hcovers := Decimal.covers_shortest tie hpos
      rw [← hvalue] at hcovers
      subst hm
      rw [Binary64.bitsOfMagnitude_magnitudeOfBits hbelow]
      exact Decimal.toBinary64_of_covers hbelow hpos hcovers negative
  obtain ⟨m', hm', hbits⟩ := hfloat
  rw [hm', Binary64.toFloat_of_bitsOfMagnitude hx hbits]

/-- `readFloat?` undoes `floatText` for finite floats. -/
theorem readFloat?_floatText (h : isFiniteFloat x = true) :
    readFloat? (floatText x).toList = some x := by
  obtain ⟨negative, m, hx⟩ := isFiniteFloat_iff.1 h
  obtain ⟨d, hread, hvalue⟩ := Decimal.read?_positional (Decimal.shortest .up m)
  have hhead := Decimal.head?_positional (Decimal.shortest .up m)
  rw [toList_floatText hx, readFloat?_signText negative hhead, hread, Option.map_some,
    toFloat_of_value_shortest hx hvalue]

/-- `floatText` of a finite float has digits, a point and a minus sign at most. -/
theorem mem_floatText (h : isFiniteFloat x = true) {c : Char} (hc : c ∈ (floatText x).toList) :
    c.isDigit = true ∨ c = '.' ∨ c = '-' := by
  obtain ⟨negative, m, hx⟩ := isFiniteFloat_iff.1 h
  rw [toList_floatText hx] at hc
  rcases List.mem_append.1 hc with hc | hc
  · cases negative with
    | true => exact .inr (.inr (List.mem_singleton.1 hc))
    | false => exact absurd hc List.not_mem_nil
  · exact (Decimal.mem_positional hc).imp_right .inl

theorem isBlank_of_mem_floatText (h : isFiniteFloat x = true) {c : Char}
    (hc : c ∈ (floatText x).toList) : isBlank c = false := by
  rcases mem_floatText h hc with hdigit | rfl | rfl
  · exact isBlank_of_isDigit hdigit
  · decide
  · decide

/-- `Attribute.parse?` reads a finite float back, white space around it aside. -/
theorem parse?_floatText (h : isFiniteFloat x = true) :
    Attribute.parse? readFloat? (floatText x) = some x := by
  rw [Attribute.parse?, trim_of_forall fun c => isBlank_of_mem_floatText h, readFloat?_floatText h]

theorem float?_floatText (h : isFiniteFloat x = true) :
    Attribute.float? (floatText x) = some x := by
  obtain ⟨negative, m, hx⟩ := isFiniteFloat_iff.1 h
  rw [Attribute.float?, parse?_floatText h, Option.filter_some, Binary64.isNaN_of_finite hx]
  rfl

end Finite

end RoadNet
