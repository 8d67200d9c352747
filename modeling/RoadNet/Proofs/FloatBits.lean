import Mathlib
import RoadNet.Decimal.Binary64

/-!
# RoadNet.Proofs.FloatBits

Floats and their bits. A float is made again from all its bits (`Float.ofBits_toBits`), and what
it stands for tells enough of them.

* `Binary64.ofFloat_eq_finite` — the bits of a finite float are a sign and a magnitude;
* `Binary64.toFloat_of_bitsOfMagnitude` — so it is made again from its sign and any magnitude
  that has the bits of its own;
* `Binary64.isNaN_of_finite` — and it is a number;
* `Binary64.toFloat_of_infinite`, `Binary64.toFloat_of_nan` — the other floats have nothing more to
  tell.
-/

namespace RoadNet

namespace Binary64

open Float.Model

variable {x : Float} {negative : Bool} {m : Magnitude}

/-- The bits of a float are its `signBit` and the bits below it. -/
theorem toNat_toBits (x : Float) :
    x.toBits.toNat = (if signBit ≤ x.toBits.toNat then signBit else 0) +
      x.toBits.toNat % signBit := by
  have hlt : x.toBits.toNat < 2 * signBit := x.toBits.toNat_lt
  have hdiv := Nat.div_add_mod x.toBits.toNat signBit
  split
  next hsign =>
    have hone : x.toBits.toNat / signBit = 1 := Nat.div_eq_of_lt_le (by omega) (by omega)
    rw [hone] at hdiv
    omega
  next hsign => rw [Nat.mod_eq_of_lt (by omega), Nat.zero_add]

/-- The bits of a float that `ofFloat` finds finite: its sign, and those of its magnitude, which lie
below `infinityBits`. -/
theorem ofFloat_eq_finite (h : ofFloat x = .finite negative m) :
    ∃ below < infinityBits, m = magnitudeOfBits below ∧
      x.toBits.toNat = (if negative then signBit else 0) + below := by
  have hbits := toNat_toBits x
  unfold ofFloat at h
  dsimp only at h
  split at h
  next hbelow =>
    obtain ⟨hnegative, hm⟩ := Binary64.finite.inj h
    refine ⟨_, hbelow, hm.symm, ?_⟩
    simpa only [← hnegative, decide_eq_true_eq] using hbits
  next =>
    split at h <;> cases h

/-- `toFloat` makes a finite float again from its sign and any magnitude that has the bits of its
own. -/
theorem toFloat_of_bitsOfMagnitude (h : ofFloat x = .finite negative m) {m' : Magnitude}
    (hm : bitsOfMagnitude m' = bitsOfMagnitude m) : (finite negative m').toFloat = x := by
  obtain ⟨below, hbelow, rfl, hbits⟩ := ofFloat_eq_finite h
  rw [bitsOfMagnitude_magnitudeOfBits hbelow] at hm
  rw [toFloat, hm, ← hbits]
  exact (congrArg Float.ofBits UInt64.ofNat_toNat).trans (Float.ofBits_toBits x)

/-- A finite float is a number. -/
theorem isNaN_of_finite (h : ofFloat x = .finite negative m) : x.isNaN = false := by
  obtain ⟨below, hbelow, -, hbits⟩ := ofFloat_eq_finite h
  refine Bool.eq_false_iff.2 fun hnan => ?_
  have hpacked : x.toModel.toBits.toBitVec = UnpackedFloat.packedNaN Format.binary64 :=
    (UnpackedFloat.isNaN_unpack_iff_of_valid x.toModel.valid).1 hnan
  have hones : x.toBits.toNat = infinityBits + hiddenBit / 2 := congrArg BitVec.toNat hpacked
  rw [hbits] at hones
  unfold signBit infinityBits hiddenBit at *
  split at hones <;> omega

/-- `toFloat` makes an infinite float again from its sign. -/
theorem toFloat_of_infinite (h : ofFloat x = .infinite negative) :
    (infinite negative).toFloat = x := by
  have hbits := toNat_toBits x
  unfold ofFloat at h
  dsimp only at h
  split at h
  next => cases h
  next =>
    split at h
    next hbelow =>
      have hnegative := Binary64.infinite.inj h
      rw [hbelow] at hbits
      rw [toFloat, ← hnegative]
      simp only [decide_eq_true_eq]
      rw [← hbits]
      exact (congrArg Float.ofBits UInt64.ofNat_toNat).trans (Float.ofBits_toBits x)
    next => cases h

/-- There is one float that is not a number. -/
theorem toFloat_of_nan (h : ofFloat x = .nan) : nan.toFloat = x := by
  have hnan : infinityBits < x.toBits.toNat % signBit := by
    unfold ofFloat at h
    dsimp only at h
    split at h
    next => cases h
    next hlow =>
      split at h
      next => cases h
      next hne => omega
  have hpacked : x.toModel.toBits.toBitVec = UnpackedFloat.packedNaN Format.binary64 := by
    refine x.toModel.valid.eq_packedNaN ?_ ?_
    · refine BitVec.eq_of_toNat_eq ?_
      change x.toBits.toNat >>> 52 % 2048 = 2047
      rw [Nat.shiftRight_eq_div_pow]
      unfold infinityBits signBit hiddenBit at *
      omega
    · intro hzero
      have hmantissa : x.toBits.toNat >>> 0 % 4503599627370496 = 0 := congrArg BitVec.toNat hzero
      rw [Nat.shiftRight_zero] at hmantissa
      unfold infinityBits signBit hiddenBit at *
      omega
  refine Float.toBits_inj.1 ?_
  have hquiet : nan.toFloat.toBits.toBitVec = UnpackedFloat.packedNaN Format.binary64 := by
    decide +kernel
  exact UInt64.toBitVec_inj.1 (hquiet.trans hpacked.symm)

end Binary64

end RoadNet
