import RoadNet.Decimal.Basic

/-!
# RoadNet.Decimal.Binary64

What a 64-bit float stands for, and the float nearest to a fraction. A finite float is a sign
and a magnitude `m · 2 ^ q` with `m < 2 ^ 53` and `q ≥ -1074`; its bits below the sign are
`(q + 1074) · 2 ^ 52 + m`, both for normal and for subnormal values; taking a float apart and
putting it together again keeps them (`bitsOfMagnitude_magnitudeOfBits`).
-/

namespace RoadNet

/-- The value of a 64-bit float. -/
inductive Binary64 where
  | nan
  | infinite (negative : Bool)
  | finite (negative : Bool) (magnitude : Magnitude)
deriving DecidableEq, Repr

namespace Binary64

/-- The leading bit of a normal significand, `2 ^ 52`, which the bits of a float leave out. -/
def hiddenBit : Nat := 0x10000000000000

/-- The bit for the sign, `2 ^ 63`. -/
def signBit : Nat := 0x8000000000000000

/-- The bits below the sign of an infinity. -/
def infinityBits : Nat := 0x7FF * hiddenBit

/-- The magnitude that finite bits below the sign stand for. -/
def magnitudeOfBits (b : Nat) : Magnitude :=
  if b < hiddenBit then ⟨b, -1074⟩
  else ⟨hiddenBit + b % hiddenBit, ((b / hiddenBit : Nat) : Int) - 1075⟩

/-- The bits below the sign of a magnitude; values beyond the largest float become infinite. -/
def bitsOfMagnitude (x : Magnitude) : Nat :=
  min ((x.exponent + 1074).toNat * hiddenBit + x.significand) infinityBits

/-- The bits of a finite float are those of its magnitude. -/
theorem bitsOfMagnitude_magnitudeOfBits {b : Nat} (h : b < infinityBits) :
    bitsOfMagnitude (magnitudeOfBits b) = b := by
  unfold bitsOfMagnitude magnitudeOfBits infinityBits hiddenBit at *
  split <;> simp only <;> omega

/-- What a float stands for. -/
def ofFloat (x : Float) : Binary64 :=
  let bits := x.toBits.toNat
  let negative := signBit ≤ bits
  let below := bits % signBit
  if below < infinityBits then .finite negative (magnitudeOfBits below)
  else if below = infinityBits then .infinite negative
  else .nan

/-- The float that stands for a value. -/
def toFloat : Binary64 → Float
  | .nan => 0.0 / 0.0
  | .infinite negative =>
    Float.ofBits ((if negative then signBit else 0) + infinityBits).toUInt64
  | .finite negative x =>
    Float.ofBits ((if negative then signBit else 0) + bitsOfMagnitude x).toUInt64

/-- The exponent `e` with `2 ^ e ≤ num / den < 2 ^ (e + 1)`. -/
def binaryOrder (num den : Nat) : Int :=
  let e : Int := (num.log2 : Int) - den.log2
  if num <<< (-e).toNat < den <<< e.toNat then e - 1 else e

/-- The magnitude nearest to the fraction `num / den`; a tie goes to the even significand. -/
def nearest (num den : Nat) : Magnitude :=
  if num = 0 then ⟨0, -1074⟩
  else
    let q := max (binaryOrder num den - 52) (-1074)
    ⟨roundDiv .toEven (num <<< (-q).toNat) (den <<< q.toNat), q⟩

/-- The value nearest to a whole number. -/
def ofInt (n : Int) : Binary64 := .finite (n < 0) (nearest n.natAbs 1)

end Binary64

/-- Whether a float is neither infinite nor not-a-number. -/
def isFiniteFloat (x : Float) : Bool :=
  match Binary64.ofFloat x with
  | .finite _ _ => true
  | _ => false

end RoadNet
