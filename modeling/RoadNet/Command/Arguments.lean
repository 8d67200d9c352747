import RoadNet.Decimal.Reading
import RoadNet.Text.Blank

/-!
# RoadNet.Command.Arguments

The command line: which command is asked for, on which files, with which options. Options and
operands may be mixed; behind two hyphens there are only operands.
-/

namespace RoadNet

/-- Where the local frame of a map has its origin. -/
structure Origin where
  lat : Float
  lon : Float
deriving DecidableEq

/-- What the options of a conversion say. -/
structure ConvertOptions where
  robust : Bool
  origin : Option Origin
  inputFormat : Option String
  outputFormat : Option String
  upload : Option String
  formatElevation : Bool
deriving DecidableEq

/-- A command. -/
inductive Command where
  /-- Load a map and save it in another format. -/
  | convert (input output : String) (options : ConvertOptions)
  /-- Load a map robustly and say what is in it. -/
  | check (input : String) (origin : Option Origin) (inputFormat : Option String)
  /-- List the formats. -/
  | formats
deriving DecidableEq

namespace Command

/-! ## Options and operands -/

/-- The arguments of a command, sorted. -/
structure Arguments where
  operands : List String
  flags : List String
  /-- The options with a value. -/
  settings : List (String × String)
deriving DecidableEq, Repr

namespace Arguments

/-- Which options a command knows. -/
structure Known where
  flags : List String
  settings : List String
  /-- Letters that stand for flags. -/
  letters : List (Char × String)

/-- Add the operand `s` in front; it may not be empty. -/
def withOperand? (a : Arguments) (s : String) : Option Arguments :=
  if s.isEmpty then none else some { a with operands := s :: a.operands }

/-- Add the flag `name`; it may be given once. -/
def withFlag? (a : Arguments) (name : String) : Option Arguments :=
  if name ∈ a.flags then none else some { a with flags := name :: a.flags }

/-- Add an option with its value; it may be given once. -/
def withSetting? (a : Arguments) (name value : String) : Option Arguments :=
  if (a.settings.lookup name).isSome then none
  else some { a with settings := (name, value) :: a.settings }

/-- Whether an argument is an option: a hyphen alone is none. -/
def isOption (s : String) : Bool := s.startsWith "-" && s ≠ "-"

/-- Split a long option at its first equals sign. -/
def splitSetting (s : String) : String × Option String :=
  match s.toList.span (· ≠ '=') with
  | (name, _ :: value) => (String.ofList name, some (String.ofList value))
  | (name, []) => (String.ofList name, none)

/-- Sort arguments by the options that are `known`. The value of an option stands behind an equals
sign or is the next argument, which may then not look like an option. -/
def sort? (known : Known) : List String → Option Arguments
  | [] => some ⟨[], [], []⟩
  | "--" :: rest => if rest.any String.isEmpty then none else some ⟨rest, [], []⟩
  | s :: rest =>
    if !isOption s then (sort? known rest).bind fun a => a.withOperand? s
    else if s.startsWith "--" then
      let (name, value) := splitSetting s
      if name ∈ known.flags then
        if value.isSome then none else (sort? known rest).bind fun a => a.withFlag? name
      else if name ∈ known.settings then
        match value, rest with
        | some v, rest => (sort? known rest).bind fun a => a.withSetting? name v
        | none, v :: rest =>
          if isOption v then none else (sort? known rest).bind fun a => a.withSetting? name v
        | none, [] => none
      else none
    else do
      let names ← (s.toList.drop 1).mapM fun c => known.letters.lookup c
      names.foldrM (fun name a => a.withFlag? name) (← sort? known rest)

end Arguments

/-! ## Values of options -/

/-- Read an origin: two numbers with a comma between them, white space allowed. -/
def readOrigin? (s : String) : Option Origin :=
  match s.toList.span (· ≠ ',') with
  | (lat, _ :: lon) => do
    return ⟨← readFloat? (Text.trim lat), ← readFloat? (Text.trim lon)⟩
  | (_, []) => none

/-- The value of the option `name`, read by `reader`, which may refuse it. -/
def setting? (a : Arguments) (name : String) (reader : String → Option α) :
    Option (Option α) :=
  match a.settings.lookup name with
  | none => some none
  | some value => (reader value).map some

/-! ## Commands -/

/-- The option for the origin. -/
def originOption : String := "--origin"

/-- The option for the input format. -/
def inputFormatOption : String := "--input-format"

/-- The option for the output format. -/
def outputFormatOption : String := "--output-format"

/-- The option for the upload mark. -/
def uploadOption : String := "--josm-upload"

/-- The flag for robust conversion. -/
def robustFlag : String := "--robust"

/-- The flag for elevations with two decimals. -/
def elevationFlag : String := "--format-elevation"

/-- The values of the upload mark. -/
def uploadWords : List String := ["true", "false", "never"]

/-- Read the arguments of a conversion, sorted by `sort?`. -/
def readConvert? (args : List String) : Option Command := do
  let a ← Arguments.sort?
    ⟨[robustFlag, elevationFlag],
      [originOption, inputFormatOption, outputFormatOption, uploadOption],
      [('r', robustFlag)]⟩ args
  let origin ← setting? a originOption readOrigin?
  let inputFormat ← setting? a inputFormatOption some
  let outputFormat ← setting? a outputFormatOption some
  let upload ← setting? a uploadOption fun v => if v ∈ uploadWords then some v else none
  match a.operands with
  | [input, output] =>
    return .convert input output ⟨decide (robustFlag ∈ a.flags), origin, inputFormat,
      outputFormat, upload, decide (elevationFlag ∈ a.flags)⟩
  | _ => none

/-- Read the arguments of a check. -/
def readCheck? (args : List String) : Option Command := do
  let a ← Arguments.sort? ⟨[], [originOption, inputFormatOption], []⟩ args
  let origin ← setting? a originOption readOrigin?
  let inputFormat ← setting? a inputFormatOption some
  match a.operands with
  | [input] => return .check input origin inputFormat
  | _ => none

/-- Read the arguments of a listing: there are none. -/
def readFormats? (args : List String) : Option Command :=
  match Arguments.sort? ⟨[], [], []⟩ args with
  | some ⟨[], [], []⟩ => some .formats
  | _ => none

/-- Read a command line: `convert`, `check` or `formats`, and its arguments. -/
def ofArguments? : List String → Option Command
  | "convert" :: args => readConvert? args
  | "check" :: args => readCheck? args
  | "formats" :: args => readFormats? args
  | _ => none

end Command

end RoadNet
