/-!
# RoadNet.Decimal.Basic

Non-negative decimals `coefficient · 10 ^ exponent`, the values `significand · 2 ^ exponent`
that a 64-bit float can hold, and exact integer arithmetic that relates the two.
-/

namespace RoadNet

/-- The decimal `coefficient · 10 ^ exponent`. -/
structure Decimal where
  coefficient : Nat
  exponent : Int
deriving DecidableEq, Repr

/-- The magnitude `significand · 2 ^ exponent`. -/
structure Magnitude where
  significand : Nat
  exponent : Int
deriving DecidableEq, Repr

/-- How a quotient that lies halfway between two whole numbers is rounded. -/
inductive Tie where
  /-- To the even neighbour. -/
  | toEven
  /-- To the upper neighbour. -/
  | up
deriving DecidableEq, Repr

/-- The whole number nearest to `num / den`. -/
def roundDiv (tie : Tie) (num den : Nat) : Nat :=
  let floor := num / den
  match compare (2 * (num % den)) den with
  | .lt => floor
  | .gt => floor + 1
  | .eq =>
    match tie with
    | .toEven => if floor % 2 = 0 then floor else floor + 1
    | .up => floor + 1

namespace Magnitude

/-- The numerator of the magnitude as a fraction `num / den` of whole numbers. -/
def num (x : Magnitude) : Nat := x.significand <<< x.exponent.toNat

/-- The denominator of the magnitude as a fraction of whole numbers. -/
def den (x : Magnitude) : Nat := 1 <<< (-x.exponent).toNat

end Magnitude

namespace Decimal

/-- The numerator of the decimal as a fraction `num / den` of whole numbers. -/
def num (d : Decimal) : Nat := d.coefficient * Nat.pow 10 d.exponent.toNat

/-- The denominator of the decimal as a fraction of whole numbers. -/
def den (d : Decimal) : Nat := Nat.pow 10 (-d.exponent).toNat

/-- Compare a decimal with a magnitude, exactly, by cross multiplication of `num` and `den`. -/
def compareMagnitude (d : Decimal) (x : Magnitude) : Ordering :=
  compare (d.num * x.den) (x.num * d.den)

/-- Move trailing zeros of the coefficient into the exponent, at most `fuel` of them. -/
def stripZeros : Nat → Decimal → Decimal
  | 0, d => d
  | fuel + 1, d =>
    if d.coefficient ≠ 0 ∧ d.coefficient % 10 = 0 then
      stripZeros fuel ⟨d.coefficient / 10, d.exponent + 1⟩
    else d

/-- The decimal digits of the `coefficient`, most significant first. -/
def digits (d : Decimal) : List Char := Nat.toDigits 10 d.coefficient

end Decimal

end RoadNet
