import RoadNet.Role
import RoadNet.Yaml.Mismatch

/-!
# RoadNet.Failure

What can go wrong when maps are loaded and saved. Failures of a single record can be skipped;
all others end the whole operation.
-/

namespace RoadNet

/-- Why a single record cannot be read or written. -/
inductive RecordFlaw where
  | duplicateId
  | lineStringSharesPolygonId
  | laneletSharesElementId
  | missingAttribute (name : String)
  | invalidAttribute (raw name : String)
  | invalidElevation (value : String)
  | unknownMemberType (name : String)
  | unrepresentableTag (key : String)
  | unrepresentableRole (role : String)
  | notFinite
  | tagNotScalar (key : String)
  | undecodable (reason : Yaml.Mismatch)
  /-- A reason given by a format from outside this library. -/
  | other (reason : String)
deriving DecidableEq

/-- The wording of a flaw. -/
def RecordFlaw.message : RecordFlaw → String
  | duplicateId => "duplicate id"
  | lineStringSharesPolygonId => "id shared by a linestring and a polygon"
  | laneletSharesElementId => "id shared by a lanelet and a regulatory element"
  | missingAttribute name => "missing attribute '" ++ name ++ "'"
  | invalidAttribute raw name => "invalid value '" ++ raw ++ "' for attribute '" ++ name ++ "'"
  | invalidElevation value => "invalid elevation '" ++ value ++ "'"
  | unknownMemberType name => "unknown member type '" ++ name ++ "'"
  | unrepresentableTag key => "tag '" ++ Text.escaped key ++ "' is not representable in XML"
  | unrepresentableRole role =>
    "member role '" ++ Text.escaped role ++ "' is not representable in XML"
  | notFinite => "position does not project to finite coordinates"
  | tagNotScalar key => "tag '" ++ key ++ "' is not a scalar"
  | undecodable reason => reason.message
  | other reason => reason

/-- Why a file cannot be read or written. -/
inductive FileFault where
  | notFound
  /-- The path names a folder. -/
  | isFolder
  /-- The path goes through a file as if it were a folder. -/
  | notFolder
  /-- No path can look like this. -/
  | invalidPath
  /-- The file does not hold text. -/
  | notText
  /-- Any other reason. -/
  | denied
deriving DecidableEq, Repr

/-- What can go wrong when maps are loaded and saved. -/
inductive Failure where
  /-- No format matches the name or the file extension. -/
  | unsupportedFormat (what : String)
  /-- A format name was registered twice. -/
  | duplicateFormat (name : String)
  /-- A format refuses the value of an option. -/
  | invalidConfig (key reason : String)
  /-- The document is well-formed but not a map. -/
  | invalidDocument (what : String)
  /-- A record cannot be read or written. -/
  | malformedRecord (kind : RecordKind) (id : Option Id) (flaw : RecordFlaw)
  /-- A record does not fit together with the others, or an element with the map. -/
  | recordFailed (kind : RecordKind) (id : Id) (source : Fault)
  /-- A fault outside of any record. -/
  | core (source : Fault)
  /-- The text is not a well-formed XML document. -/
  | xml
  /-- The text is not a well-formed YAML document of the right shape. -/
  | yaml
  /-- A file cannot be read or written. -/
  | file (fault : FileFault)
deriving DecidableEq

namespace Failure

/-- The identifier of a record in messages, `<no id>` if it has none. -/
def recordIdText : Option Id → String
  | some id => idText id
  | none => "<no id>"

/-- The wording of a failure. -/
def message : Failure → String
  | unsupportedFormat what => "Unsupported format: " ++ what
  | duplicateFormat name => "Format '" ++ name ++ "' is already registered"
  | invalidConfig key reason => "Invalid value for option '" ++ key ++ "': " ++ reason
  | invalidDocument what => "Invalid document: " ++ what
  | malformedRecord kind id flaw => kind.name ++ " " ++ recordIdText id ++ ": " ++ flaw.message
  | recordFailed kind id source => kind.name ++ " " ++ idText id ++ ": " ++ source.message
  | core source => source.message
  | xml => "XML parsing failed: "
  | yaml => "YAML serialization failed: "
  | file _ => "IO error: "

/-- Whether the failure is about a single record, which a robust run may skip: a `malformedRecord`
or a `recordFailed`. -/
def isRecordLevel : Failure → Bool
  | malformedRecord .. => true
  | recordFailed .. => true
  | _ => false

end Failure

end RoadNet
