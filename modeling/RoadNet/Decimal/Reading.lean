import RoadNet.Decimal.Binary64
import RoadNet.Text.Numeral

/-!
# RoadNet.Decimal.Reading

Reading a float from text: an optional sign, then `inf`, `infinity` or `nan` in any case, or
digits with an optional point and an optional exponent. The result is the float nearest to the
decimal that is written.
-/

namespace RoadNet

open Text

namespace Decimal

/-- Read the exponent part that ends a number: nothing, or `e`, a sign and digits. -/
def readExponent? : List Char → Option Int
  | [] => some 0
  | c :: cs => if c = 'e' ∨ c = 'E' then readInt? cs else none

/-- Read an unsigned decimal: digits on at least one side of an optional point. -/
def read? (cs : List Char) : Option Decimal :=
  let (whole, rest) := spanDigits cs
  let (frac, rest) := match rest with
    | '.' :: r => spanDigits r
    | _ => ([], rest)
  if whole.isEmpty && frac.isEmpty then none
  else (readExponent? rest).map fun e => ⟨ofDigits (whole ++ frac), e - frac.length⟩

/-- The magnitude nearest to a decimal. Exponents far outside the range of floats are answered
without writing the power out: the value is zero or infinite. -/
def toBinary64 (negative : Bool) (d : Decimal) : Binary64 :=
  let order := (d.digits.length : Int) + d.exponent
  if d.coefficient = 0 ∨ order < -400 then .finite negative ⟨0, -1074⟩
  else if 400 < order then .infinite negative
  else
    let x := Binary64.nearest d.num d.den
    if Binary64.bitsOfMagnitude x < Binary64.infinityBits then .finite negative x
    else .infinite negative

end Decimal

/-- Read a float: a sign, then a word for infinity or not-a-number, or what `read?` reads. -/
def readFloat? (cs : List Char) : Option Float :=
  let (negative, body) := splitSign cs
  let word := body.map Char.toLower
  if word = "inf".toList ∨ word = "infinity".toList then
    some (Binary64.infinite negative).toFloat
  else if word = "nan".toList then some Binary64.nan.toFloat
  else (Decimal.read? body).map fun d => (d.toBinary64 negative).toFloat

end RoadNet
