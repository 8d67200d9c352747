import RoadNet.Decimal.Shortest

/-!
# RoadNet.Decimal.Notation

Three ways to write a float: positionally with the fewest digits, with a set number of decimal
places, and with an exponent where the positional form would grow long.
-/

namespace RoadNet

namespace Decimal

/-- Write a decimal without an exponent: zeros are filled in on either side of the digits. -/
def positional (d : Decimal) : List Char :=
  let ds := d.digits
  let point := (ds.length : Int) + d.exponent
  if 0 ≤ d.exponent then ds ++ List.replicate d.exponent.toNat '0'
  else if 0 < point then ds.take point.toNat ++ '.' :: ds.drop point.toNat
  else '0' :: '.' :: List.replicate (-point).toNat '0' ++ ds

/-- Write a decimal with an exponent: a point after the first digit if there is more than one. -/
def exponential (d : Decimal) : List Char :=
  let ds := d.digits
  let order := (ds.length : Int) + d.exponent - 1
  let mantissa := match ds with
    | first :: second :: rest => first :: '.' :: second :: rest
    | _ => ds
  mantissa ++ 'e' :: (toString order).toList

/-- Write a magnitude with exactly `places` decimals, a half going to the even neighbour. -/
def fixed (places : Nat) (x : Magnitude) : List Char :=
  let scaled := roundDiv .toEven (x.num * Nat.pow 10 places) x.den
  let ds := Nat.toDigits 10 scaled
  let padded := List.replicate (places + 1 - ds.length) '0' ++ ds
  let point := padded.length - places
  padded.take point ++ '.' :: padded.drop point

end Decimal

/-- The minus sign of a negative value. -/
def signText (negative : Bool) : List Char := if negative then ['-'] else []

/-- Write a float as the `positional` form of its `shortest` decimal, the fewest digits that read
back. A zero keeps its sign. -/
def floatText (x : Float) : String :=
  match Binary64.ofFloat x with
  | .nan => "NaN"
  | .infinite negative => if negative then "-inf" else "inf"
  | .finite negative m => String.ofList (signText negative ++ (Decimal.shortest .up m).positional)

/-- Write a float with two decimals, `fixed`. -/
def centiText (x : Float) : String :=
  match Binary64.ofFloat x with
  | .nan => "NaN"
  | .infinite negative => if negative then "-inf" else "inf"
  | .finite negative m => String.ofList (signText negative ++ Decimal.fixed 2 m)

end RoadNet
