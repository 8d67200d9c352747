import RoadNet.Policy

/-!
# RoadNet.Options

Options handed to the map formats. Each format checks the options it knows and ignores the
rest.
-/

namespace RoadNet

/-- The value of an option. -/
inductive OptionValue where
  | text (s : String)
  | int (n : Id)
  | float (x : Float)
  | bool (b : Bool)
deriving DecidableEq

/-- An option value in words. -/
def OptionValue.describe : OptionValue → String
  | text s => s
  | int n => Attribute.ofInt n
  | float x => Attribute.ofFloat x
  | bool b => Attribute.ofBool b

/-- Options by key, in key order. -/
abbrev Options := SortedMap String OptionValue

namespace Options

/-- The value of an option if it is text. -/
def text? (o : Options) (key : String) : Option String :=
  match o.find? key with
  | some (.text s) => some s
  | _ => none

/-- The value of an option if it is a whole number. -/
def int? (o : Options) (key : String) : Option Id :=
  match o.find? key with
  | some (.int n) => some n
  | _ => none

/-- The value of an option if it is a number; an `int` counts as one. -/
def float? (o : Options) (key : String) : Option Float :=
  match o.find? key with
  | some (.float x) => some x
  | some (.int n) => some (Binary64.ofInt n.toInt).toFloat
  | _ => none

/-- The value of an option if it is a truth value. -/
def bool? (o : Options) (key : String) : Option Bool :=
  match o.find? key with
  | some (.bool b) => some b
  | _ => none

/-- The value of an option that must be text among `allowed`; none if it is not set. -/
def choice (o : Options) (key : String) (allowed : List String) :
    Except Failure (Option String) :=
  let refused (value : OptionValue) : Except Failure (Option String) :=
    .error (.invalidConfig key
      ("expected one of " ++ ", ".intercalate allowed ++ ", got '" ++ value.describe ++ "'"))
  match o.find? key with
  | none => .ok none
  | some (.text s) => if s ∈ allowed then .ok (some s) else refused (.text s)
  | some value => refused value

/-- The value of an option that must be a `bool`; none if it is not set. -/
def flag (o : Options) (key : String) : Except Failure (Option Bool) :=
  match o.find? key with
  | none => .ok none
  | some (.bool b) => .ok (some b)
  | some value => .error (.invalidConfig key ("expected a bool, got '" ++ value.describe ++ "'"))

end Options

end RoadNet
