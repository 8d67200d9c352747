import RoadNet.Attribute
import RoadNet.Yaml.Mismatch
import RoadNet.Yaml.Value

/-!
# RoadNet.Yaml.Decoding

Reading typed data from YAML values. Tags are looked through; where a collection is expected
nothing at all stands for an empty one. A struct is a mapping with known fields only.
-/

namespace RoadNet.Yaml

namespace Value

/-- What a message calls a value. -/
def found : Value → Found
  | null => .null
  | bool b => .bool b
  | int n => .integer n
  | real x => .real x
  | text s => .text s
  | sequence _ => .sequence
  | mapping _ => .mapping
  | tagged _ _ => .tagged

/-- The mismatch of a value of another type, `invalidType`. -/
def otherType (v : Value) (expected : String) : Except Mismatch α :=
  .error (.invalidType v.found expected)

/-! ## Scalars -/

/-- Decode an identifier. -/
def id (v : Value) : Except Mismatch Id :=
  match v.untagged with
  | int n =>
    if Int64.minValue.toInt ≤ n ∧ n ≤ Int64.maxValue.toInt then .ok (Int64.ofInt n)
    else .error (.invalidValue (.integer n) "i64")
  | other => other.otherType "i64"

/-- Decode a number. -/
def number (v : Value) : Except Mismatch Float :=
  match v.untagged with
  | int n => .ok (Binary64.ofInt n).toFloat
  | real x => .ok x
  | other => other.otherType "f64"

/-- Decode text, called by what is expected. -/
def string (expected : String) (v : Value) : Except Mismatch String :=
  match v.untagged with
  | text s => .ok s
  | other => other.otherType expected

/-! ## Collections -/

/-- Decode a sequence. -/
def list (item : Value → Except Mismatch α) (v : Value) : Except Mismatch (List α) :=
  match v.untagged with
  | sequence items => items.mapM item
  | null => .ok []
  | other => other.otherType "a sequence"

/-- The entries of a mapping, called by what is expected. -/
def entries (expected : String) (v : Value) : Except Mismatch (List (Value × Value)) :=
  match v.untagged with
  | mapping entries => .ok entries
  | null => .ok []
  | other => other.otherType expected

/-- Decode a mapping with text keys. Of `entries` with one key the last wins. -/
def dictionary (v : Value) : Except Mismatch (SortedMap String Value) := do
  (← v.entries "a map").foldlM (fun m (e : Value × Value) => do
    return m.insert (← e.1.string "a string") e.2) SortedMap.empty

/-! ## Variants -/

/-- Decode one of the `names` of variants without data: text, or a local tag on nothing. -/
def variant (names : List String) (v : Value) : Except Mismatch String :=
  let known (name : String) : Except Mismatch Unit :=
    if name ∈ names then .ok () else .error (.unknownVariant name names)
  match v with
  | text name => do
    known name
    return name
  | tagged name content => do
    known name
    match content with
    | null => return name
    | other => other.otherType "unit"
  | other => other.otherType "a Value::Tagged enum"

end Value

/-! ## Structs -/

/-- A field of a struct that is decoded into drafts of type `δ`. -/
structure Field (δ : Type) where
  name : String
  isSet : δ → Bool
  /-- Decode the value of the field and put it into the draft. -/
  decode : δ → Value → Except Mismatch δ

namespace Field

/-- Put an entry of a struct into the `draft`: its key names one of the `fields` that did not occur
before. -/
def put (fields : List (Field δ)) (draft : δ) (entry : Value × Value) : Except Mismatch δ := do
  let name ← entry.1.string "field identifier"
  match fields.find? fun f => f.name = name with
  | none => .error (.unknownField name (fields.map (·.name)))
  | some f => if f.isSet draft then .error (.duplicateField name) else f.decode draft entry.2

/-- Decode the fields of a struct with `put`, in the order in which they are written, from the
`blank` draft. -/
def decodeAll (structName : String) (fields : List (Field δ)) (blank : δ) (v : Value) :
    Except Mismatch δ := do
  (← v.entries ("struct " ++ structName)).foldlM (put fields) blank

/-- Demand the value of the field `name`. -/
def require (name : String) (value : Option α) : Except Mismatch α :=
  match value with
  | some a => .ok a
  | none => .error (.missingField name)

end Field

end RoadNet.Yaml
