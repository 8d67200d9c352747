import RoadNet.Decimal.Notation
import RoadNet.Text.Quoted

/-!
# RoadNet.Yaml.Mismatch

Why a YAML value does not have the shape that a record asks for, and the wording of it.
-/

namespace RoadNet.Yaml

/-- The part of a value that a message names. -/
inductive Found where
  | text (s : String)
  | integer (n : Int)
  | real (x : Float)
  | bool (b : Bool)
  | null
  | sequence
  | mapping
  | tagged
deriving DecidableEq

/-- A number in a message: a point is always shown. -/
def Found.realText (x : Float) : String :=
  let s := floatText x
  if s.contains '.' || !isFiniteFloat x then s else s ++ ".0"

/-- A found value in words. -/
def Found.describe : Found → String
  | text s => "string " ++ Text.quoted s
  | integer n => "integer \x60" ++ toString n ++ "\x60"
  | real x => "floating point \x60" ++ realText x ++ "\x60"
  | bool b => "boolean \x60" ++ (if b then "true" else "false") ++ "\x60"
  | null => "unit value"
  | sequence => "sequence"
  | mapping => "map"
  | tagged => "enum"

/-- Why a value cannot be decoded. -/
inductive Mismatch where
  /-- A value of another type than expected. -/
  | invalidType (found : Found) (expected : String)
  /-- A value of the right type that is out of range. -/
  | invalidValue (found : Found) (expected : String)
  | missingField (name : String)
  | duplicateField (name : String)
  | unknownField (name : String) (known : List String)
  | unknownVariant (name : String) (known : List String)
deriving DecidableEq

/-- Names in backticks, separated by commas. -/
def nameList (names : List String) : String :=
  ", ".intercalate (names.map fun n => "\x60" ++ n ++ "\x60")

/-- The wording of a mismatch. -/
def Mismatch.message : Mismatch → String
  | invalidType found expected =>
    "invalid type: " ++ found.describe ++ ", expected " ++ expected
  | invalidValue found expected =>
    "invalid value: " ++ found.describe ++ ", expected " ++ expected
  | missingField name => "missing field \x60" ++ name ++ "\x60"
  | duplicateField name => "duplicate field \x60" ++ name ++ "\x60"
  | unknownField name known =>
    "unknown field \x60" ++ name ++ "\x60, expected one of " ++ nameList known
  | unknownVariant name known =>
    "unknown variant \x60" ++ name ++ "\x60, expected one of " ++ nameList known

end RoadNet.Yaml
