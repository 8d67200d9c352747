import RoadNet.Assembly
import RoadNet.Disassembly
import RoadNet.Osm.Writer
import RoadNet.Yaml.Format

/-!
# RoadNet.MapFiles

Loading and saving maps. A text goes through the reader of its format to records and from there
to a map; a map is taken apart into records, which the writer of a format turns into text.
-/

namespace RoadNet

/-- The formats that come with this library, `Osm.format` and `Yaml.format`. -/
def FormatRegistry.bundled : FormatRegistry := ⟨[Osm.format, Yaml.format]⟩

/-- What it takes to load and save maps. -/
structure MapFiles where
  formats : FormatRegistry
  rules : RuleRegistry
  /-- The options that every format is given. -/
  options : Options

namespace MapFiles

/-- The bundled formats and the built-in rules, without options. -/
def standard : MapFiles := ⟨.bundled, .builtin, SortedMap.empty⟩

/-! ## Texts -/

/-- What a `RecordReader` is made by. -/
abbrev MakeReader := Projector → Options → Except Failure RecordReader

/-- What a `RecordWriter` is made by. -/
abbrev MakeWriter := Projector → Options → Except Failure RecordWriter

/-- Read a map from a text: its records with the reader that `make` gives, then
`RoadMap.ofRecords`. -/
def readMap (x : MapFiles) (make : MakeReader) (projector : Projector) (policy : Policy)
    (text : String) : Run RoadMap := do
  let reader ← make projector x.options
  let records ← reader policy text
  RoadMap.ofRecords x.rules policy records

/-- Write a map as a text: `RoadMap.toRecords`, then the writer that `make` gives. -/
def writeMap (x : MapFiles) (make : MakeWriter) (projector : Projector) (policy : Policy)
    (m : RoadMap) : Run String := do
  let writer ← make projector x.options
  let records ← m.toRecords policy
  writer policy records

/-- Read a map from a text in the format that `select` finds under a name. -/
def parse (x : MapFiles) (format : String) (projector : Projector) (policy : Policy)
    (text : String) : Run RoadMap := do
  let make ← x.formats.select Format.reader "" (some format)
  x.readMap make projector policy text

/-- Write a map as a text in the format that `select` finds under a name. -/
def render (x : MapFiles) (format : String) (projector : Projector) (policy : Policy)
    (m : RoadMap) : Run String := do
  let make ← x.formats.select Format.writer "" (some format)
  x.writeMap make projector policy m

end MapFiles

/-! ## Files -/

/-- How files are reached. -/
structure FileAccess (m : Type → Type) where
  read : String → m (Except FileFault String)
  /-- Write a text to a file, replacing what it held. -/
  write : String → String → m (Except FileFault Unit)

/-- A `Run` that also reaches files. -/
abbrev FileRun (m : Type → Type) := ExceptT Failure (StateT (List String) m)

namespace FileRun

variable {m : Type → Type} [Monad m]

/-- A run that reaches no files. -/
def ofRun (run : Run α) : FileRun m α := fun messages => pure (run messages)

/-- An access to a file, its fault made a failure. -/
def ofAccess (access : m (Except FileFault α)) : FileRun m α := do
  match ← (access : FileRun m (Except FileFault α)) with
  | .ok a => return a
  | .error fault => throw (.file fault)

end FileRun

namespace MapFiles

variable {m : Type → Type} [Monad m]

/-- Load a map from a file by `readMap`, in the named format or else by the extension of the
path. -/
def load (x : MapFiles) (files : FileAccess m) (path : String) (format : Option String)
    (projector : Projector) (policy : Policy) : FileRun m RoadMap := do
  let make ← .ofRun (x.formats.select Format.reader path format)
  let text ← .ofAccess (files.read path)
  .ofRun (x.readMap make projector policy text)

/-- Save a map to a file by `writeMap`, in the named format or else by the extension of the path.
The file is written only when the whole text is known. -/
def save (x : MapFiles) (files : FileAccess m) (path : String) (format : Option String)
    (projector : Projector) (policy : Policy) (map : RoadMap) : FileRun m Unit := do
  let make ← .ofRun (x.formats.select Format.writer path format)
  let text ← .ofRun (x.writeMap make projector policy map)
  .ofAccess (files.write path text)

end MapFiles

end RoadNet
