import RoadNet.Decimal.Binary64

/-!
# RoadNet.Decimal.Shortest

The shortest decimal that reads back to a given float: of the decimals that round to it, one
with the fewest digits, and of those the nearest to its exact value. An exact tie between two
nearest candidates is left to the caller.
-/

namespace RoadNet.Decimal

/-- The end of the interval of reals that round to `x`, halfway to the float below. -/
def lowerEnd (x : Magnitude) : Magnitude :=
  if x.significand = Binary64.hiddenBit ∧ -1074 < x.exponent then
    ⟨4 * x.significand - 1, x.exponent - 2⟩
  else ⟨2 * x.significand - 1, x.exponent - 1⟩

/-- The end of the interval of reals that round to `x`, halfway to the float above. -/
def upperEnd (x : Magnitude) : Magnitude := ⟨2 * x.significand + 1, x.exponent - 1⟩

/-- Whether a decimal rounds to `x`: it lies between the two ends, and on an end only if the
significand of `x` is even. -/
def readsBack (x : Magnitude) (d : Decimal) : Bool :=
  let even := x.significand % 2 == 0
  let low := d.compareMagnitude (lowerEnd x)
  let high := d.compareMagnitude (upperEnd x)
  (low == .gt || (even && low == .eq)) && (high == .lt || (even && high == .eq))

/-- The least `k` with `x < 10 ^ k`, found from an estimate by the number of binary digits. -/
def decimalOrder (x : Magnitude) : Int :=
  let bits : Int := (x.significand.log2 : Int) + x.exponent
  let k := (bits * 30103) / 100000
  let reaches (j : Int) : Bool := compareMagnitude ⟨1, j⟩ x != .gt
  if reaches (k + 1) then k + 2 else if reaches k then k + 1 else k

/-- The candidate on the grid `10 ^ e` for `x`: of its two neighbours that read back the
nearer one. -/
def onGrid? (tie : Tie) (x : Magnitude) (e : Int) : Option Decimal :=
  let num := x.num * Nat.pow 10 (-e).toNat
  let den := x.den * Nat.pow 10 e.toNat
  let below : Decimal := ⟨num / den, e⟩
  let above : Decimal := ⟨num / den + 1, e⟩
  match readsBack x below, readsBack x above with
  | true, true => some ⟨roundDiv tie num den, e⟩
  | true, false => some below
  | false, true => some above
  | false, false => none

/-- The shortest decimal that reads back to `x`. Seventeen digits always do; were there no
candidate, the exact value would be given. -/
def shortest (tie : Tie) (x : Magnitude) : Decimal :=
  if x.significand = 0 then ⟨0, 0⟩
  else
    let k := decimalOrder x
    let grids := (List.range 17).map fun n : Nat => k - (n : Int) - 1
    match grids.findSome? (onGrid? tie x) with
    | some d => stripZeros 18 d
    | none => ⟨x.num * Nat.pow 5 (-x.exponent).toNat, min x.exponent 0⟩

end RoadNet.Decimal
