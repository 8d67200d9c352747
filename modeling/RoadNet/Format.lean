import RoadNet.Options
import RoadNet.Projection
import RoadNet.Record

/-!
# RoadNet.Format

The file formats known by name and extension. A format may read, write or both; its reader and
writer are built for each call from a projector and options.
-/

namespace RoadNet

/-- Reads the text of one file into records, under a `Policy`. -/
abbrev RecordReader := Policy → String → Run RecordSet

/-- Writes records as the text of one file, under a `Policy`. -/
abbrev RecordWriter := Policy → RecordSet → Run String

/-- A file format. -/
structure Format where
  /-- The unique name, for explicit selection. -/
  name : String
  /-- The extension with its leading point; empty if the format is selected by name only. -/
  extension : String
  reader : Option (Projector → Options → Except Failure RecordReader)
  writer : Option (Projector → Options → Except Failure RecordWriter)

namespace Format

/-- Whether the format can be read. -/
def canRead (f : Format) : Bool := f.reader.isSome

/-- Whether the format can be written. -/
def canWrite (f : Format) : Bool := f.writer.isSome

/-- A format in words. -/
def describe (f : Format) : String :=
  "FormatHandler \x7b name: " ++ Text.quoted f.name ++ ", extension: " ++
    Text.quoted f.extension ++ ", can_parse: " ++ Attribute.ofBool f.canRead ++
    ", can_write: " ++ Attribute.ofBool f.canWrite ++ " \x7d"

end Format

/-! ## File extensions -/

/-- The components of a path, without empty ones and single points. -/
def pathParts (path : String) : List String :=
  ((path.toList.splitOn '/').map String.ofList).filter fun part => part ≠ "" && part ≠ "."

/-- The last of the `pathParts`: trailing separators and single points are skipped, and a path that
ends in two points or has no component names no file. -/
def fileName? (path : String) : Option String :=
  match (pathParts path).getLast? with
  | some ".." => none
  | last => last

/-- The trailing extension of the `fileName?` with its point; a point at the very start of the name
does not begin an extension. -/
def extension? (path : String) : Option String :=
  (fileName? path).bind fun name =>
    let (suffix, before) := name.toList.reverse.span (· ≠ '.')
    if before.length ≤ 1 then none else some (String.ofList ('.' :: suffix.reverse))

/-! ## Registry of formats -/

/-- The registered formats, in registration order. -/
structure FormatRegistry where
  formats : List Format

namespace FormatRegistry

/-- No formats. -/
def empty : FormatRegistry := ⟨[]⟩

/-- The format of a name. -/
def get? (g : FormatRegistry) (name : String) : Option Format :=
  g.formats.find? fun f => f.name = name

/-- Register a format; a name can be taken once, else the failure is `duplicateFormat`. -/
def register (g : FormatRegistry) (f : Format) : Except Failure FormatRegistry :=
  if (g.get? f.name).isSome then .error (.duplicateFormat f.name)
  else .ok ⟨g.formats ++ [f]⟩

/-- The registered names, in registration order. -/
def names (g : FormatRegistry) : List String := g.formats.map (·.name)

/-- Select the format called `name` if a name is given, else by the `extension?` of the path; of
several formats with one extension the first that has the `capability` is taken. -/
def select (g : FormatRegistry) (capability : Format → Option α) (path : String)
    (name : Option String) : Except Failure α :=
  match name with
  | some name =>
    match (g.get? name).bind capability with
    | some found => .ok found
    | none => .error (.unsupportedFormat name)
  | none =>
    match extension? path with
    | none => .error (.unsupportedFormat path)
    | some extension =>
      let matching := g.formats.filter fun f => f.extension ≠ "" && f.extension = extension
      match matching.findSome? capability with
      | some found => .ok found
      | none => .error (.unsupportedFormat extension)

/-- Read records in the format that `select` finds. -/
def read (g : FormatRegistry) (path : String) (name : Option String) (projector : Projector)
    (options : Options) (policy : Policy) (text : String) : Run RecordSet := do
  let make ← g.select Format.reader path name
  let reader ← make projector options
  reader policy text

/-- Write records in the format that `select` finds. -/
def write (g : FormatRegistry) (path : String) (name : Option String) (projector : Projector)
    (options : Options) (policy : Policy) (records : RecordSet) : Run String := do
  let make ← g.select Format.writer path name
  let writer ← make projector options
  writer policy records

/-- The registry in words. -/
def describe (g : FormatRegistry) : String :=
  "HandlerRegistry \x7b handlers: [" ++ ", ".intercalate (g.formats.map Format.describe) ++
    "] \x7d"

end FormatRegistry

end RoadNet
