import RoadNet.Data.SortedMap
import RoadNet.Decimal.Notation
import RoadNet.Decimal.Reading
import RoadNet.Text.Blank

/-!
# RoadNet.Attribute

Attributes of primitives and relations. Every value is text; the readings below interpret it on
demand and give `none` where the text does not fit, so that a malformed value never aborts a
query.
-/

namespace RoadNet

/-- Identifier shared by the primitives and relations of a map, a signed 64-bit number. -/
abbrev Id := Int64

/-- An identifier in decimal. -/
def idText (id : Id) : String := toString id.toInt

/-- Read a whole number that is an identifier: within the range of `Int64`. -/
def readId? (cs : List Char) : Option Id :=
  (Text.readInt? cs).bind fun n =>
    if Int64.minValue.toInt ≤ n ∧ n ≤ Int64.maxValue.toInt then some (Int64.ofInt n) else none

/-- Attributes by key, in key order. -/
abbrev Attributes := SortedMap String String

namespace Attribute

open Text

/-! ## Values as text -/

/-- The text of a whole number. -/
def ofInt (n : Id) : String := idText n

/-- The text of a number. -/
def ofFloat (x : Float) : String := floatText x

/-- The text of a truth value. -/
def ofBool (b : Bool) : String := if b then "true" else "false"

/-! ## Readings -/

/-- Interpret a value by `reader`, without the white space around it. -/
def parse? (reader : List Char → Option α) (value : String) : Option α :=
  reader (trim value.toList)

/-- The words for truth values, in lower case. -/
def truthWords : List (String × Bool) :=
  [("true", true), ("yes", true), ("1", true), ("false", false), ("no", false), ("0", false)]

/-- Interpret as a truth value: one of the `truthWords` in any case. The words are ASCII and no
other character has an ASCII letter of theirs as its lower case. -/
def bool? (value : String) : Option Bool :=
  truthWords.lookup (String.ofList ((trim value.toList).map Char.toLower))

/-- Interpret as a whole number, by `readId?`. -/
def int? (value : String) : Option Id := parse? readId? value

/-- Interpret as a number, by `readFloat?`; not-a-number is refused. -/
def float? (value : String) : Option Float :=
  (parse? readFloat? value).filter fun x => !x.isNaN

/-- The units of speed, each with its factor to kilometres per hour. -/
def speedUnits : List (String × Float) :=
  [("", 1.0), ("km/h", 1.0), ("kmh", 1.0), ("kph", 1.0), ("mph", 1.609344), ("m/s", 3.6),
   ("mps", 3.6)]

/-- The number at the start of a text: digits, and a point only if digits follow it. -/
def spanNumber (cs : List Char) : List Char × List Char :=
  let (whole, rest) := spanDigits cs
  match whole, rest with
  | _ :: _, '.' :: r =>
    let (frac, after) := spanDigits r
    if frac.isEmpty then (whole, rest) else (whole ++ '.' :: frac, after)
  | _, _ => (whole, rest)

/-- Interpret as a speed in kilometres per hour: digits, perhaps a point and digits, and one of the
`speedUnits`, with white space allowed around each part. -/
def velocity? (value : String) : Option Float := do
  let (number, rest) := spanNumber (trimStart value.toList)
  let magnitude ← readFloat? number
  let factor ← speedUnits.lookup (String.ofList (trim rest))
  return magnitude * factor

end Attribute

end RoadNet
