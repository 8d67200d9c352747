import RoadNet.Decimal.Notation
import RoadNet.Decimal.Reading
import RoadNet.Yaml.FlowScalar

/-!
# RoadNet.Yaml.Scalar

What plain text stands for: nothing, a truth value, a whole number, a number, or just text. Reading
and writing share this rule: text that would be taken for something else is written in quotes.
-/

namespace RoadNet.Yaml

open Text

/-- The words for no value. -/
def nullWords : List String := ["null", "Null", "NULL", "~"]

/-- The words for truth values. -/
def boolWords : List (String × Bool) :=
  [("true", true), ("True", true), ("TRUE", true), ("false", false), ("False", false),
   ("FALSE", false)]

/-! ## Whole numbers -/

/-- Whether text looks like a decimal number but has zeros in front, which makes it text. -/
def hasLeadingZero (cs : List Char) : Bool :=
  let digits := (splitSign cs).2
  1 < digits.length && digits.head? = some '0' && digits.all Char.isDigit

/-- The marks in front of digits to another base. -/
def bases : List (List Char × Nat) := [(['0', 'x'], 16), (['0', 'o'], 8), (['0', 'b'], 2)]

/-- Read digits to a `base`; there is at least one. -/
def readDigits? (base : Nat) (cs : List Char) : Option Nat :=
  if cs.isEmpty then none
  else cs.foldlM (fun n c => (hexDigit? c).bind fun d =>
    if d < base then some (base * n + d) else none) 0

/-- Read the magnitude of a whole number, by the mark of its base (`bases`) or as decimal. -/
def readMagnitude? (cs : List Char) : Option Nat :=
  match bases.find? fun b => b.1.isPrefixOf cs with
  | some (mark, base) => readDigits? base (cs.drop mark.length)
  | none => readDigits? 10 cs

/-- Read a whole number: decimal without zeros in front (`hasLeadingZero`), or to one of the other
`bases`. -/
def readWhole? (cs : List Char) : Option Int :=
  if hasLeadingZero cs then none
  else
    let (negative, digits) := splitSign cs
    (readMagnitude? digits).map fun n => if negative then -(n : Int) else n

/-! ## Numbers -/

/-- The words for an infinite value, without its sign. -/
def infinityWords : List String := [".inf", ".Inf", ".INF"]

/-- The words for a value that is not a number. -/
def nanWords : List String := [".nan", ".NaN", ".NAN"]

/-- Read a number: finite, one of the `infinityWords` or one of the `nanWords`. -/
def readReal? (cs : List Char) : Option Float :=
  let (negative, body) := splitSign cs
  if String.ofList body ∈ infinityWords then some (Binary64.infinite negative).toFloat
  else if String.ofList cs ∈ nanWords then some Binary64.nan.toFloat
  else if (splitSign body).2 ≠ body then none
  else (readFloat? cs).filter isFiniteFloat

/-- Write a number with the fewest digits that read back, and always as a number that is not
whole. An exponent is used below `1e-5` and from `1e16` on. -/
def numeral (x : Float) : String :=
  match Binary64.ofFloat x with
  | .nan => ".nan"
  | .infinite negative => if negative then "-.inf" else ".inf"
  | .finite negative m =>
    let d := Decimal.shortest .toEven m
    let point := (d.digits.length : Int) + d.exponent
    let text :=
      if point ≤ -5 || 16 < point then d.exponential
      else if 0 ≤ d.exponent then d.positional ++ ['.', '0']
      else d.positional
    String.ofList (signText negative ++ text)

/-! ## Plain text -/

/-- What plain text stands for. -/
inductive Scalar where
  | null
  | bool (b : Bool)
  | whole (n : Int)
  | real (x : Float)
  | text (s : String)
deriving DecidableEq

/-- Whether a whole number fits a word of so many bits, signed or unsigned. -/
def fitsWord (bits : Nat) (n : Int) : Bool :=
  -((1 <<< (bits - 1) : Nat) : Int) ≤ n && n < ((1 <<< bits : Nat) : Int)

/-- Whether a whole number fits a 64-bit word (`fitsWord`). -/
def isWord (n : Int) : Bool := fitsWord 64 n

/-- Whether a whole number fits a 128-bit word (`fitsWord`). -/
def isLongWord (n : Int) : Bool := fitsWord 128 n

/-- What plain text stands for. A whole number that is no `isLongWord` is read as a number. -/
def Scalar.ofPlain (s : String) : Scalar :=
  if s = "" || s ∈ nullWords then .null
  else
    match boolWords.lookup s, (readWhole? s.toList).filter isLongWord with
    | some b, _ => .bool b
    | none, some n => .whole n
    | none, none =>
      match (readReal? s.toList).filter fun _ => !hasLeadingZero s.toList with
      | some x => .real x
      | none => .text s

end RoadNet.Yaml
