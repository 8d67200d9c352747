import Mathlib.Algebra.Order.Field.Rat
import Mathlib.Algebra.Order.Field.Power
import Mathlib.Data.Rat.Cast.Order
import Mathlib.Tactic.FieldSimp
import Mathlib.Tactic.Linarith
import Mathlib.Tactic.Positivity
import Mathlib.Tactic.Ring
import RoadNet.Decimal.Shortest

/-!
# RoadNet.Proofs.Rounding

The float nearest to a fraction.

Fractions, magnitudes and decimals are compared as rational numbers. A magnitude `Covers` the
numbers from halfway to the float below up to halfway to the float above, an end itself only if its
significand is even. `Binary64.bitsOfMagnitude_nearest` says that the float nearest to a number is
the one that covers it.

Between two powers of two the nearest float is found on one grid, and rounding to the grid gives the
significand (`roundDiv_eq_of_near`). Just below a power of two the grid is twice as fine as above,
and the power is found as twice the significand on the finer grid: a different magnitude with the
same bits.
-/

namespace RoadNet

/-! ## Rational values -/

/-- The value of a magnitude, `significand * 2 ^ exponent`. -/
def Magnitude.value (x : Magnitude) : ℚ := x.significand * 2 ^ x.exponent

/-- The value of a decimal, `coefficient * 10 ^ exponent`. -/
def Decimal.value (d : Decimal) : ℚ := d.coefficient * 10 ^ d.exponent

/-- A power with an integer exponent as a fraction of powers with natural exponents. -/
theorem zpow_eq_pow_div_pow {b : ℚ} (hb : b ≠ 0) (e : Int) :
    b ^ e = b ^ e.toNat / b ^ (-e).toNat := by
  rw [← zpow_natCast, ← zpow_natCast, ← zpow_sub₀ hb, Int.toNat_sub_toNat_neg]

theorem Magnitude.den_pos (x : Magnitude) : 0 < x.den := by
  rw [den, Nat.one_shiftLeft]
  positivity

theorem Decimal.den_pos (d : Decimal) : 0 < d.den := Nat.pow_pos (by decide)

/-- The fraction `num / den` of a magnitude is its value. -/
theorem Magnitude.num_div_den (x : Magnitude) : (x.num : ℚ) / x.den = x.value := by
  rw [num, den, value, Nat.shiftLeft_eq, Nat.one_shiftLeft, zpow_eq_pow_div_pow two_ne_zero]
  push_cast
  ring

/-- The fraction `num / den` of a decimal is its value. -/
theorem Decimal.num_div_den (d : Decimal) : (d.num : ℚ) / d.den = d.value := by
  have hten : (10 : ℚ) ≠ 0 := by norm_num
  have hnum : d.num = d.coefficient * 10 ^ d.exponent.toNat := rfl
  have hden : d.den = 10 ^ (-d.exponent).toNat := rfl
  rw [hnum, hden, value, zpow_eq_pow_div_pow hten]
  push_cast
  ring

/-- Fractions are compared by cross multiplication. -/
theorem compare_cross {a b c d : Nat} (hb : 0 < b) (hd : 0 < d) :
    compare (a * d) (c * b) = compare ((a : ℚ) / b) (c / d) := by
  have hb' : (0 : ℚ) < b := by exact_mod_cast hb
  have hd' : (0 : ℚ) < d := by exact_mod_cast hd
  have hlt : a * d < c * b ↔ (a : ℚ) / b < c / d := by
    rw [div_lt_div_iff₀ hb' hd']
    exact_mod_cast Iff.rfl
  have heq : a * d = c * b ↔ (a : ℚ) / b = c / d := by
    rw [div_eq_div_iff hb'.ne' hd'.ne']
    exact_mod_cast Iff.rfl
  rcases lt_trichotomy ((a : ℚ) / b) (c / d) with h | h | h
  · rw [compare_lt_iff_lt.2 h, compare_lt_iff_lt.2 (hlt.2 h)]
  · rw [compare_eq_iff_eq.2 h, compare_eq_iff_eq.2 (heq.2 h)]
  · have hgt : c * b < a * d := by
      by_contra hle
      rcases Nat.lt_or_eq_of_le (Nat.le_of_not_lt hle) with hlt' | heq'
      · exact absurd (hlt.1 hlt') (not_lt.2 h.le)
      · exact h.ne' (heq.1 heq')
    rw [compare_gt_iff_gt.2 h, compare_gt_iff_gt.2 hgt]

/-- `compareMagnitude` compares the values. -/
theorem Decimal.compareMagnitude_eq (d : Decimal) (x : Magnitude) :
    d.compareMagnitude x = compare d.value x.value := by
  rw [compareMagnitude, compare_cross d.den_pos x.den_pos, d.num_div_den, x.num_div_den]

/-! ## Rounding to a grid -/

/-- `roundDiv` gives the whole number within half a unit, an even one if it lies in the middle
(`htie`). -/
theorem roundDiv_eq {num den s : Nat} (hden : 0 < den) (hlow : 2 * (s * den) ≤ 2 * num + den)
    (hhigh : 2 * num ≤ 2 * (s * den) + den)
    (htie : 2 * (s * den) = 2 * num + den ∨ 2 * num = 2 * (s * den) + den → s % 2 = 0) :
    roundDiv .toEven num den = s := by
  have hdiv := Nat.div_add_mod num den
  have hmod := Nat.mod_lt num hden
  rw [Nat.mul_comm] at hdiv
  have step : ∀ {a b : Nat}, a < b → a * den + den ≤ b * den := fun {a b} h => by
    rw [← Nat.succ_mul]
    exact Nat.mul_le_mul_right den h
  have hfloor : num / den ≤ s := by
    by_contra h
    have hstep := step (Nat.lt_of_not_le h)
    omega
  have hceil : s ≤ num / den + 1 := by
    by_contra h
    have hstep := step (Nat.lt_of_not_le h)
    rw [Nat.succ_mul] at hstep
    omega
  -- The whole number is the floor or the one above; which of them, the remainder decides.
  rcases Nat.le_and_le_add_one_iff.1 ⟨hfloor, hceil⟩ with rfl | rfl
  · unfold roundDiv
    dsimp only
    split
    next => rfl
    next hgt =>
      rw [Nat.compare_eq_gt] at hgt
      omega
    next heq =>
      rw [Nat.compare_eq_eq] at heq
      rw [if_pos (htie (.inr (by omega)))]
  · have hmul : (num / den + 1) * den = num / den * den + den := Nat.succ_mul _ _
    rw [hmul] at hlow hhigh htie
    unfold roundDiv
    dsimp only
    split
    next hlt =>
      rw [Nat.compare_eq_lt] at hlt
      omega
    next => rfl
    next heq =>
      rw [Nat.compare_eq_eq] at heq
      have heven := htie (.inl (by omega))
      rw [if_neg (by omega)]

/-- The same with the bounds as fractions. -/
theorem roundDiv_eq_of_near {num den s : Nat} (hden : 0 < den)
    (hlow : (s : ℚ) - 1 / 2 ≤ num / den) (hhigh : (num : ℚ) / den ≤ s + 1 / 2)
    (htie : (num : ℚ) / den = s - 1 / 2 ∨ (num : ℚ) / den = s + 1 / 2 → s % 2 = 0) :
    roundDiv .toEven num den = s := by
  have hden' : (0 : ℚ) < den := by exact_mod_cast hden
  rw [le_div_iff₀ hden'] at hlow
  rw [div_le_iff₀ hden'] at hhigh
  rw [div_eq_iff hden'.ne', div_eq_iff hden'.ne'] at htie
  refine roundDiv_eq hden ?_ ?_ ?_
  · have h : (2 : ℚ) * (s * den) ≤ 2 * num + den := by linarith
    exact_mod_cast h
  · have h : (2 : ℚ) * num ≤ 2 * (s * den) + den := by linarith
    exact_mod_cast h
  · rintro (h | h)
    · have h' : (2 : ℚ) * (s * den) = 2 * num + den := by exact_mod_cast h
      exact htie (.inl (by linarith))
    · have h' : (2 : ℚ) * num = 2 * (s * den) + den := by exact_mod_cast h
      exact htie (.inr (by linarith))

/-! ## The order of a fraction -/

namespace Binary64

/-- A fraction is compared with a power of two by shifting its parts. -/
theorem shiftLeft_lt_shiftLeft_iff {num den : Nat} (hden : 0 < den) (e : Int) :
    num <<< (-e).toNat < den <<< e.toNat ↔ (num : ℚ) / den < 2 ^ e := by
  have hden' : (0 : ℚ) < den := by exact_mod_cast hden
  have hpow : (0 : ℚ) < 2 ^ (-e).toNat := by positivity
  rw [zpow_eq_pow_div_pow two_ne_zero, div_lt_div_iff₀ hden' hpow, Nat.shiftLeft_eq,
    Nat.shiftLeft_eq, Nat.mul_comm den]
  exact_mod_cast Iff.rfl

/-- `binaryOrder` of a fraction is the exponent of the greatest power of two that is not above
it. -/
theorem binaryOrder_spec {num den : Nat} (hnum : 0 < num) (hden : 0 < den) :
    (2 : ℚ) ^ binaryOrder num den ≤ num / den ∧
      (num : ℚ) / den < 2 ^ (binaryOrder num den + 1) := by
  have hden' : (0 : ℚ) < den := by exact_mod_cast hden
  have hnumLow : (2 : ℚ) ^ (num.log2 : Int) ≤ num := by
    exact_mod_cast Nat.log2_self_le hnum.ne'
  have hnumHigh : (num : ℚ) < 2 ^ ((num.log2 : Int) + 1) := by
    exact_mod_cast Nat.lt_log2_self
  have hdenLow : (2 : ℚ) ^ (den.log2 : Int) ≤ den := by
    exact_mod_cast Nat.log2_self_le hden.ne'
  have hdenHigh : (den : ℚ) < 2 ^ ((den.log2 : Int) + 1) := by
    exact_mod_cast Nat.lt_log2_self
  have hlow : (2 : ℚ) ^ ((num.log2 : Int) - den.log2 - 1) ≤ num / den := by
    rw [le_div_iff₀ hden']
    calc (2 : ℚ) ^ ((num.log2 : Int) - den.log2 - 1) * den
        ≤ 2 ^ ((num.log2 : Int) - den.log2 - 1) * 2 ^ ((den.log2 : Int) + 1) := by gcongr
      _ = 2 ^ (num.log2 : Int) := by
        rw [← zpow_add₀ two_ne_zero]
        congr 1
        ring
      _ ≤ num := hnumLow
  have hhigh : (num : ℚ) / den < 2 ^ ((num.log2 : Int) - den.log2 + 1) := by
    rw [div_lt_iff₀ hden']
    calc (num : ℚ) < 2 ^ ((num.log2 : Int) + 1) := hnumHigh
      _ = 2 ^ ((num.log2 : Int) - den.log2 + 1) * 2 ^ (den.log2 : Int) := by
        rw [← zpow_add₀ two_ne_zero]
        congr 1
        ring
      _ ≤ 2 ^ ((num.log2 : Int) - den.log2 + 1) * den := by gcongr
  unfold binaryOrder
  dsimp only
  split
  next h =>
    rw [shiftLeft_lt_shiftLeft_iff hden] at h
    exact ⟨hlow, by rwa [Int.sub_add_cancel]⟩
  next h =>
    rw [shiftLeft_lt_shiftLeft_iff hden, not_lt] at h
    exact ⟨h, hhigh⟩

end Binary64

/-! ## Magnitudes and what rounds to them -/

namespace Magnitude

/-- The magnitudes that finite bits stand for: a full significand, or the least exponent. -/
structure Canonical (x : Magnitude) : Prop where
  significand_lt : x.significand < 2 * Binary64.hiddenBit
  exponent_ge : -1074 ≤ x.exponent
  normal : Binary64.hiddenBit ≤ x.significand ∨ x.exponent = -1074

/-- The numbers that round to a magnitude: up to halfway to its neighbours, and halfway itself if
the significand is even. -/
structure Covers (x : Magnitude) (v : ℚ) : Prop where
  lower : (Decimal.lowerEnd x).value ≤ v
  upper : v ≤ (Decimal.upperEnd x).value
  tie : v = (Decimal.lowerEnd x).value ∨ v = (Decimal.upperEnd x).value → x.significand % 2 = 0

variable {x : Magnitude}

/-- The upper end of what rounds to a magnitude is half a unit above it. -/
theorem value_upperEnd (x : Magnitude) :
    (Decimal.upperEnd x).value = (x.significand + 1 / 2) * 2 ^ x.exponent := by
  rw [Decimal.upperEnd, value, zpow_sub_one₀ two_ne_zero]
  push_cast
  ring

/-- Just above a power of two, the lower end is a quarter of a unit below the magnitude. -/
theorem value_lowerEnd_hiddenBit (h : x.significand = Binary64.hiddenBit ∧ -1074 < x.exponent) :
    (Decimal.lowerEnd x).value = (x.significand - 1 / 4) * 2 ^ x.exponent := by
  have hpos : 1 ≤ 4 * x.significand := by
    rw [h.1]
    decide
  rw [Decimal.lowerEnd, if_pos h, value, zpow_sub₀ two_ne_zero, Nat.cast_sub hpos]
  push_cast
  ring

/-- Elsewhere the lower end is half a unit below the magnitude. -/
theorem value_lowerEnd (hpos : 0 < x.significand)
    (h : ¬(x.significand = Binary64.hiddenBit ∧ -1074 < x.exponent)) :
    (Decimal.lowerEnd x).value = (x.significand - 1 / 2) * 2 ^ x.exponent := by
  rw [Decimal.lowerEnd, if_neg h, value, zpow_sub_one₀ two_ne_zero, Nat.cast_sub (by omega)]
  push_cast
  ring

/-- In units of a magnitude, what it `Covers` is half a unit above it at most. -/
theorem Covers.upper_scaled {v : ℚ} (h : x.Covers v) :
    v / 2 ^ x.exponent ≤ x.significand + 1 / 2 := by
  rw [div_le_iff₀ (by positivity), ← value_upperEnd]
  exact h.upper

/-- It is half a unit below it at most. -/
theorem Covers.lower_scaled (hpos : 0 < x.significand) {v : ℚ} (h : x.Covers v) :
    (x.significand : ℚ) - 1 / 2 ≤ v / 2 ^ x.exponent := by
  have hunit : (0 : ℚ) < 2 ^ x.exponent := by positivity
  rw [le_div_iff₀ hunit]
  have hlower := h.lower
  by_cases hpower : x.significand = Binary64.hiddenBit ∧ -1074 < x.exponent
  · rw [value_lowerEnd_hiddenBit hpower] at hlower
    refine le_trans ?_ hlower
    gcongr
    norm_num
  · rwa [value_lowerEnd hpos hpower] at hlower

theorem Covers.tie_scaled (hpos : 0 < x.significand) {v : ℚ} (h : x.Covers v)
    (hv : v / 2 ^ x.exponent = x.significand - 1 / 2 ∨
      v / 2 ^ x.exponent = x.significand + 1 / 2) : x.significand % 2 = 0 := by
  have hunit : (0 : ℚ) < 2 ^ x.exponent := by positivity
  rw [div_eq_iff hunit.ne', div_eq_iff hunit.ne'] at hv
  by_cases hpower : x.significand = Binary64.hiddenBit ∧ -1074 < x.exponent
  · rw [hpower.1]
    decide
  · rw [← value_upperEnd, ← value_lowerEnd hpos hpower] at hv
    exact h.tie hv

end Magnitude

namespace Binary64

/-- `magnitudeOfBits` of finite bits is `Canonical`. -/
theorem canonical_magnitudeOfBits {b : Nat} (h : b < infinityBits) :
    (magnitudeOfBits b).Canonical := by
  unfold magnitudeOfBits infinityBits hiddenBit at *
  split
  · exact ⟨by simp only [hiddenBit]; omega, by simp only; omega, .inr rfl⟩
  · exact ⟨by simp only [hiddenBit]; omega, by simp only; omega,
      .inl (by simp only [hiddenBit]; omega)⟩

/-- A fraction shifted to the grid of the exponent `q`. -/
theorem shiftLeft_div_shiftLeft (num den : Nat) (q : Int) :
    ((num <<< (-q).toNat : Nat) : ℚ) / (den <<< q.toNat : Nat) = num / den / 2 ^ q := by
  rw [Nat.shiftLeft_eq, Nat.shiftLeft_eq, zpow_eq_pow_div_pow two_ne_zero]
  push_cast
  field_simp

/-- Rounding to the grid of the exponent `q`, in its units. -/
theorem roundDiv_shiftLeft {num den s : Nat} {q : Int} (hden : 0 < den)
    (hlow : (s : ℚ) - 1 / 2 ≤ num / den / 2 ^ q) (hhigh : (num : ℚ) / den / 2 ^ q ≤ s + 1 / 2)
    (htie : (num : ℚ) / den / 2 ^ q = s - 1 / 2 ∨ (num : ℚ) / den / 2 ^ q = s + 1 / 2 →
      s % 2 = 0) :
    roundDiv .toEven (num <<< (-q).toNat) (den <<< q.toNat) = s := by
  have hpos : 0 < den <<< q.toNat := by
    rw [Nat.shiftLeft_eq]
    positivity
  rw [← shiftLeft_div_shiftLeft] at hlow hhigh htie
  exact roundDiv_eq_of_near hpos hlow hhigh htie

/-- The float `nearest` to a number is the one that covers it. -/
theorem bitsOfMagnitude_nearest {x : Magnitude} (hx : x.Canonical) (hpos : 0 < x.significand)
    {num den : Nat} (hden : 0 < den) (h : x.Covers (num / den)) :
    bitsOfMagnitude (nearest num den) = bitsOfMagnitude x := by
  obtain ⟨s, e⟩ := x
  have hlow := h.lower_scaled hpos
  have hhigh := h.upper_scaled
  have htie := h.tie_scaled hpos
  simp only at hpos hlow hhigh htie
  have hunit : (0 : ℚ) < 2 ^ e := by positivity
  have hs : (1 : ℚ) ≤ s := by exact_mod_cast hpos
  have hs' : (s : ℚ) + 1 ≤ 2 ^ (53 : Int) := by exact_mod_cast hx.significand_lt
  have hvalue : (0 : ℚ) < num / den := by
    have hscaled : (0 : ℚ) < num / den / 2 ^ e := by linarith
    exact (div_pos_iff_of_pos_right hunit).1 hscaled
  have hnum : 0 < num := by
    refine Nat.pos_of_ne_zero fun hzero => ?_
    rw [hzero, Nat.cast_zero, zero_div] at hvalue
    exact lt_irrefl _ hvalue
  obtain ⟨horder, horder'⟩ := binaryOrder_spec hnum hden
  -- The grid is that of the magnitude or a finer one.
  have hfine : binaryOrder num den - 52 ≤ e := by
    have hlt : (2 : ℚ) ^ binaryOrder num den < 2 ^ (e + 53) := by
      refine lt_of_le_of_lt horder ?_
      rw [zpow_add₀ two_ne_zero, mul_comm, ← div_lt_iff₀ hunit]
      linarith
    have hexponent := (zpow_lt_zpow_iff_right₀ one_lt_two).1 hlt
    omega
  have hmax : max (binaryOrder num den - 52) (-1074) ≤ e := max_le hfine hx.exponent_ge
  rw [nearest, if_neg hnum.ne']
  dsimp only
  rcases hmax.eq_or_lt with hgrid | hgrid
  -- On its own grid the magnitude is what rounding gives; a finer one is left to compare.
  · rw [hgrid, roundDiv_shiftLeft hden hlow hhigh htie]
  · have hexponent : -1074 < e := lt_of_le_of_lt (le_max_right _ _) hgrid
    have hbelow : (num : ℚ) / den / 2 ^ e < 2 ^ (52 : Int) := by
      rw [div_lt_iff₀ hunit, ← zpow_add₀ two_ne_zero]
      have horder'' := lt_of_le_of_lt (le_max_left _ _) hgrid
      exact lt_of_lt_of_le horder' (zpow_le_zpow_right₀ one_le_two (by omega))
    -- Below the least full significand there is only the space next to a power of two.
    obtain rfl : s = hiddenBit := by
      have hfull : hiddenBit ≤ s := hx.normal.resolve_right (by simp only; omega)
      have hs'' : (s : ℚ) < 2 ^ (52 : Int) + 1 := by linarith
      have hle : s < 2 ^ 52 + 1 := by exact_mod_cast hs''
      exact Nat.le_antisymm (Nat.le_of_lt_succ hle) hfull
    have hcast : ((hiddenBit : Nat) : ℚ) = 2 ^ (52 : Int) := by norm_num [hiddenBit]
    have hquarter : (2 : ℚ) ^ (52 : Int) - 1 / 4 ≤ num / den / 2 ^ e := by
      have hlower := h.lower
      rw [Magnitude.value_lowerEnd_hiddenBit ⟨rfl, hexponent⟩] at hlower
      rwa [le_div_iff₀ hunit, ← hcast]
    have hgrid' : max (binaryOrder num den - 52) (-1074) = e - 1 := by
      have hlt : (2 : ℚ) ^ (e + 51) < 2 ^ (binaryOrder num den + 1) := by
        refine lt_of_le_of_lt ?_ horder'
        rw [zpow_add₀ two_ne_zero, mul_comm, ← le_div_iff₀ hunit]
        refine le_trans ?_ hquarter
        norm_num
      have hexponent' := (zpow_lt_zpow_iff_right₀ one_lt_two).1 hlt
      omega
    have hdouble : (num : ℚ) / den / 2 ^ (e - 1) = 2 * (num / den / 2 ^ e) := by
      rw [zpow_sub_one₀ two_ne_zero]
      field_simp
    have hround : roundDiv .toEven (num <<< (-(e - 1)).toNat) (den <<< (e - 1).toNat) =
        2 * hiddenBit := by
      refine roundDiv_shiftLeft hden ?_ ?_ fun _ => by decide
      · rw [hdouble]
        push_cast [hcast]
        linarith
      · rw [hdouble]
        push_cast [hcast]
        linarith
    rw [hgrid', hround]
    unfold bitsOfMagnitude hiddenBit
    simp only
    omega

end Binary64

end RoadNet
