import RoadNet.Primitive
import RoadNet.Vocabulary

/-!
# RoadNet.Role

Relations as data: an identifier, attributes, and named roles that hold ordered references to
primitives. An operation on one role leaves the others alone (`get_put`), no role holds a
reference twice, and a role that loses its last reference is gone.
-/

namespace RoadNet

/-! ## References -/

/-- The kinds of elements a map holds. -/
inductive Kind where
  | point
  | lineString
  | polygon
  | lanelet
  | regulatoryElement
deriving DecidableEq, Repr

/-- The kind in words, as used in messages. -/
def Kind.name : Kind → String
  | .point => "point"
  | .lineString => "linestring"
  | .polygon => "polygon"
  | .lanelet => "lanelet"
  | .regulatoryElement => "regulatory element"

/-- The kinds of records in a map file. -/
inductive RecordKind where
  | node
  | way
  | relation
deriving DecidableEq, Repr

namespace RecordKind

/-- The kind as written in map files. -/
def name : RecordKind → String
  | node => "node"
  | way => "way"
  | relation => "relation"

/-- The kinds, in the order files list them. -/
def all : List RecordKind := [node, way, relation]

/-- Read a kind as written in map files. -/
def ofName? (s : String) : Option RecordKind := all.find? fun k => k.name = s

/-- `ofName?` undoes `name`. -/
theorem ofName?_name (kind : RecordKind) : ofName? kind.name = some kind := by
  cases kind <;> decide

end RecordKind

/-- The kind of record that stands for an element in a map file. -/
def Kind.recordKind : Kind → RecordKind
  | .point => .node
  | .lineString => .way
  | .polygon => .way
  | .lanelet => .relation
  | .regulatoryElement => .relation

/-- A reference to an element of a map. -/
structure Reference where
  kind : Kind
  id : Id
deriving DecidableEq, Repr

namespace Reference

/-- Reference to a line string. -/
def lineString (id : Id) : Reference := ⟨.lineString, id⟩

/-- Reference to a lanelet. -/
def lanelet (id : Id) : Reference := ⟨.lanelet, id⟩

/-- Reference to a regulatory element. -/
def regulatoryElement (id : Id) : Reference := ⟨.regulatoryElement, id⟩

/-- The identifier, if the reference is to an element of the given kind. -/
def ofKind? (kind : Kind) (r : Reference) : Option Id :=
  if r.kind = kind then some r.id else none

/-- The identifier of a line string reference. -/
def asLineString? : Reference → Option Id := ofKind? .lineString

/-- The identifier of a lanelet reference. -/
def asLanelet? : Reference → Option Id := ofKind? .lanelet

/-- A reference in words. -/
def text (r : Reference) : String := r.kind.name ++ " " ++ idText r.id

end Reference

/-! ## Faults of relations -/

/-- Why a relation does not fit its rule. -/
inductive Misfit where
  | noTrafficLights
  | noStopLine
  | notOneStopLine (found : Nat)
  | severalStopLines
  | noTrafficSigns
  | unknownSignType
  | signsDisagree (first second : String)
  | wrongKind (role : String) (member : Reference)
  | notOneBound (role : String)
  | boundNotLineString (role : String) (kind : RecordKind) (id : Id)
  | notRegulatoryElement (kind : RecordKind) (id : Id)
  /-- A reason given by a rule from outside this library. -/
  | other (reason : String)
deriving DecidableEq, Repr

/-- The wording of a misfit. -/
def Misfit.message : Misfit → String
  | noTrafficLights => "no traffic lights"
  | noStopLine => "no stop line"
  | notOneStopLine found => "expected exactly one stop line, found " ++ toString found
  | severalStopLines => "more than one stop line"
  | noTrafficSigns => "no traffic signs"
  | unknownSignType => "traffic sign type is unknown"
  | signsDisagree a b => "signs disagree on type: '" ++ a ++ "' and '" ++ b ++ "'"
  | wrongKind role member => "role '" ++ role ++ "' cannot hold " ++ member.text
  | notOneBound role => "needs exactly one " ++ role ++ " bound"
  | boundNotLineString role kind id =>
    role ++ " bound " ++ kind.name ++ " " ++ idText id ++ " is not a linestring"
  | notRegulatoryElement kind id =>
    kind.name ++ " " ++ idText id ++ " is not a regulatory element"
  | other reason => reason

/-- What can go wrong with a relation or with the registry of rules. -/
inductive Fault where
  /-- A relation does not fit the rule it is tagged with. -/
  | invalidRelation (rule : String) (id : Id) (reason : Misfit)
  /-- A lanelet was put into a role that excludes one it already holds. -/
  | conflictingRole (id lanelet : Id) (role existing : String)
  /-- A role already holds the reference. -/
  | duplicateReference (id : Id) (role : String) (member : Reference)
  /-- A rule name was registered twice. -/
  | duplicateTypeName (name : String)
  /-- A reference names an element that is not in the map. -/
  | unresolvedReference (id : Id) (role : String) (member : Reference)
  /-- A mandatory role is empty. -/
  | invariantViolated (what : String)
deriving DecidableEq, Repr

/-- The wording of a fault. -/
def Fault.message : Fault → String
  | invalidRelation rule id reason =>
    "Invalid " ++ rule ++ " relation " ++ idText id ++ ": " ++ reason.message
  | conflictingRole id lanelet role existing =>
    "Lanelet " ++ idText lanelet ++ " cannot be added to role '" ++ role ++ "' of relation " ++
      idText id ++ ": already in role '" ++ existing ++ "'"
  | duplicateReference id role member =>
    "Role '" ++ role ++ "' of relation " ++ idText id ++ " already references " ++ member.text
  | duplicateTypeName name => "Relation type '" ++ name ++ "' is already registered"
  | unresolvedReference id role member =>
    "Role '" ++ role ++ "' of " ++ idText id ++ " references missing " ++ member.text
  | invariantViolated what => "Internal invariant violated: " ++ what

/-! ## Role stores -/

/-- Identifier, attributes and roles of a relation, whatever its rule. Roles are kept in name
order and the references of a role in insertion order. -/
structure RoleStore where
  id : Id
  attributes : Attributes
  roles : SortedMap String (List Reference)
deriving DecidableEq

namespace RoleStore

/-- A store with the given attributes and no roles. -/
def ofAttributes (id : Id) (attributes : Attributes) : RoleStore := ⟨id, attributes, .empty⟩

/-- The references a role holds, in order; none if there is no such role. -/
def get (s : RoleStore) (role : String) : List Reference := (s.roles.find? role).getD []

/-- Whether a role holds a reference. -/
def contains (s : RoleStore) (role : String) (r : Reference) : Bool := r ∈ s.get role

/-- The name of the rule the relation is tagged with, its subtype. -/
def ruleName? (s : RoleStore) : Option String := s.attributes.find? Key.subtype

/-- Set an attribute. -/
def setAttribute (s : RoleStore) (key value : String) : RoleStore :=
  { s with attributes := s.attributes.insert key value }

/-- Tag a store as a regulatory element of a rule. -/
def stampRule (s : RoleStore) (rule : String) : RoleStore :=
  (s.setAttribute Key.type TypeTag.regulatoryElement).setAttribute Key.subtype rule

/-- Give a role exactly these references; a role without references is dropped. -/
def put (s : RoleStore) (role : String) (refs : List Reference) : RoleStore :=
  { s with roles := if refs.isEmpty then s.roles.erase role else s.roles.insert role refs }

/-- Append a reference to a role. -/
def add (s : RoleStore) (role : String) (r : Reference) : Except Fault RoleStore :=
  if s.contains role r then .error (.duplicateReference s.id role r)
  else .ok (s.put role (s.get role ++ [r]))

/-- Append references to a role, one after the other. -/
def addAll (s : RoleStore) (role : String) (refs : List Reference) : Except Fault RoleStore :=
  refs.foldlM (fun s r => s.add role r) s

/-- Take a reference out of a role; the flag says whether it was there. -/
def remove (s : RoleStore) (role : String) (r : Reference) : Bool × RoleStore :=
  if s.contains role r then (true, s.put role ((s.get role).erase r)) else (false, s)

/-- The first reference of a list that repeats an earlier one. -/
def firstRepeated? : List Reference → List Reference → Option Reference
  | _, [] => none
  | seen, r :: rest => if r ∈ seen then some r else firstRepeated? (r :: seen) rest

/-- Replace a whole role. A list that repeats a reference is refused. -/
def set (s : RoleStore) (role : String) (refs : List Reference) : Except Fault RoleStore :=
  match firstRepeated? [] refs with
  | some r => .error (.duplicateReference s.id role r)
  | none => .ok (s.put role refs)

/-- Replace a whole role by a single reference. -/
def setSingle (s : RoleStore) (role : String) (r : Reference) : RoleStore := s.put role [r]

/-- Drop a role. -/
def clear (s : RoleStore) (role : String) : RoleStore :=
  { s with roles := s.roles.erase role }

/-- Every role with each of its references: roles in name order, references in their order. -/
def parameters (s : RoleStore) : List (String × Reference) :=
  s.roles.entries.flatMap fun p => p.2.map fun r => (p.1, r)

/-- Require that a role holds references of one kind only. -/
def checkKind (s : RoleStore) (rule role : String) (kind : Kind) : Except Fault Unit :=
  match (s.get role).find? fun r => r.kind ≠ kind with
  | some bad => .error (.invalidRelation rule s.id (.wrongKind role bad))
  | none => .ok ()

/-- The identifiers of the references of one kind in a role. -/
def ids (s : RoleStore) (role : String) (kind : Kind) : List Id :=
  (s.get role).filterMap (Reference.ofKind? kind)

/-! ## What a role holds -/

@[simp] theorem get_ofAttributes (id : Id) (attributes : Attributes) (role : String) :
    (ofAttributes id attributes).get role = [] := rfl

/-- After `put` a role holds what it was given, and every other role what it held. -/
@[simp] theorem get_put (s : RoleStore) (role other : String) (refs : List Reference) :
    (s.put role refs).get other = if other = role then refs else s.get other := by
  by_cases h : refs.isEmpty <;> by_cases ho : other = role <;> simp_all [put, get]

@[simp] theorem get_clear (s : RoleStore) (role other : String) :
    (s.clear role).get other = if other = role then [] else s.get other := by
  by_cases ho : other = role <;> simp [clear, get, ho]

end RoleStore

end RoadNet
