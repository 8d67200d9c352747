import RoadNet.Command.Arguments
import RoadNet.MapFiles

/-!
# RoadNet.Command.Report

What a command does and what it reports.
-/

namespace RoadNet

/-- What a command leaves behind besides files: the lines it prints, the failure that ended it,
and its exit code. -/
structure Report where
  lines : List String
  failure : Option Failure
  exitCode : UInt32

namespace Command

/-! ## Lines -/

/-- How many regulatory elements follow each rule. -/
def ruleCounts (map : RoadMap) : SortedMap String Nat :=
  map.regulatoryElements.values.foldl (fun counts e =>
    let rule := e.ruleName?.getD "<untyped>"
    counts.insert rule ((counts.find? rule).getD 0 + 1)) SortedMap.empty

/-- What is in a map. -/
def summaryLines (map : RoadMap) : List String :=
  ["  Points: " ++ toString map.points.size,
    "  Linestrings: " ++ toString map.lineStrings.size,
    "  Polygons: " ++ toString map.polygons.size,
    "  Lanelets: " ++ toString map.lanelets.size,
    "  Regulatory elements: " ++ toString map.regulatoryElements.size] ++
  (ruleCounts map).entries.map fun e => "    " ++ e.1 ++ ": " ++ toString e.2

/-- What was skipped, if anything. -/
def skippedLines (messages : List String) : List String :=
  if messages.isEmpty then []
  else ("  Skipped records: " ++ toString messages.length) ::
    messages.map fun message => "    - " ++ message

/-- Fill a text up with spaces to a width. -/
def padTo (width : Nat) (s : String) : String :=
  s ++ String.ofList (List.replicate (width - s.length) ' ')

/-- A format in the list of formats. -/
def formatLine (f : Format) : String :=
  let extension := if f.extension.isEmpty then "-" else f.extension
  "  " ++ padTo 10 f.name ++ " " ++ padTo 8 extension ++ " parse: " ++
    padTo 5 (Attribute.ofBool f.canRead) ++ " write: " ++ Attribute.ofBool f.canWrite

/-! ## Commands -/

/-- The projector with an origin, or the `standard` one. -/
def projectorAt (origin : Option Origin) : Projector :=
  match origin with
  | some o => .sphericalMercator o.lat o.lon
  | none => .standard

/-- The options that a conversion hands to the formats, `Osm.elevationOption` and
`Osm.uploadOption`. -/
def formatOptions (o : ConvertOptions) : Options :=
  let options := SortedMap.empty.insert Osm.elevationOption (.bool o.formatElevation)
  match o.upload with
  | some value => options.insert Osm.uploadOption (.text value)
  | none => options

/-- The exit code of a failure. -/
def failureCode : UInt32 := 1

/-- The exit code of a command line that is not understood. -/
def usageCode : UInt32 := 2

variable {m : Type → Type} [Monad m]

/-- Convert a map, with `load` and `save`. The failure of a strict conversion or of a whole file
ends it. -/
def runConvert (files : FileAccess m) (input output : String) (o : ConvertOptions) : m Report := do
  let projector := projectorAt o.origin
  let policy := if o.robust then Policy.robust else Policy.strict
  let tool := { MapFiles.standard with options := formatOptions o }
  let conversion : FileRun m RoadMap := do
    let map ← tool.load files input o.inputFormat projector policy
    tool.save files output o.outputFormat projector policy map
    return map
  let opening := "Converting " ++ input ++ " to " ++ output
  match ← conversion [] with
  | (.error failure, _) => return ⟨[opening], some failure, failureCode⟩
  | (.ok map, messages) =>
    return ⟨opening :: summaryLines map ++ skippedLines messages ++ ["Done"], none, 0⟩

/-- Check a map, with a robust `load`. It is without errors if no record had to be skipped. -/
def runCheck (files : FileAccess m) (input : String) (origin : Option Origin)
    (inputFormat : Option String) : m Report := do
  match ← MapFiles.standard.load files input inputFormat (projectorAt origin) .robust [] with
  | (.error failure, _) => return ⟨[], some failure, failureCode⟩
  | (.ok map, messages) =>
    let lines := ("Checked " ++ input) :: summaryLines map ++ skippedLines messages
    if messages.isEmpty then return ⟨lines ++ ["No errors"], none, 0⟩
    else return ⟨lines, none, failureCode⟩

/-- Run a command. -/
def run (files : FileAccess m) : Command → m Report
  | convert input output o => runConvert files input output o
  | check input origin inputFormat => runCheck files input origin inputFormat
  | formats =>
    return ⟨"Registered formats" :: MapFiles.standard.formats.formats.map formatLine, none, 0⟩

end Command

end RoadNet
