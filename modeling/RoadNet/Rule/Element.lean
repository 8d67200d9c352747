import RoadNet.Rule.RightOfWay
import RoadNet.Rule.TrafficLight
import RoadNet.Rule.TrafficSign

/-!
# RoadNet.Rule.Element

A regulatory element: a relation read under one of the built-in rules, under a rule from
outside this library, or left as plain data.
-/

namespace RoadNet

/-- A regulatory element as a map holds it. -/
inductive RegulatoryElement where
  | trafficLight (rule : TrafficLight)
  | rightOfWay (rule : RightOfWay)
  | trafficSign (rule : TrafficSign)
  | speedLimit (rule : SpeedLimit)
  /-- A relation under a rule from outside this library. -/
  | custom (ruleName : String) (store : RoleStore)
  /-- A relation without a registered rule. -/
  | generic (store : RoleStore)
deriving DecidableEq

namespace RegulatoryElement

/-- The data of the element; reading it as a typed relation loses nothing of it. -/
def store : RegulatoryElement → RoleStore
  | trafficLight t => t.store
  | rightOfWay t => t.store
  | trafficSign t => t.store
  | speedLimit t => t.sign.store
  | custom _ s => s
  | generic s => s

/-- The same element with the data `s`; no rule is checked. -/
def withStore (s : RoleStore) : RegulatoryElement → RegulatoryElement
  | trafficLight _ => trafficLight ⟨s⟩
  | rightOfWay _ => rightOfWay ⟨s⟩
  | trafficSign _ => trafficSign ⟨s⟩
  | speedLimit _ => speedLimit ⟨⟨s⟩⟩
  | custom name _ => custom name s
  | generic _ => generic s

/-- The identifier of the element. -/
def id (e : RegulatoryElement) : Id := e.store.id

/-- The attributes of the element. -/
def attributes (e : RegulatoryElement) : Attributes := e.store.attributes

/-- The name of the rule the element was read under, if any. -/
def typedRuleName? : RegulatoryElement → Option String
  | trafficLight _ => some TrafficLight.ruleName
  | rightOfWay _ => some RightOfWay.ruleName
  | trafficSign _ => some TrafficSign.ruleName
  | speedLimit _ => some SpeedLimit.ruleName
  | custom name _ => some name
  | generic _ => none

/-- The name of the rule: the `typedRuleName?` it was read under, else the one it is tagged with. -/
def ruleName? (e : RegulatoryElement) : Option String :=
  e.typedRuleName?.or e.store.ruleName?

/-- Whether the element is plain data, without a `typedRuleName?`. -/
def isGeneric (e : RegulatoryElement) : Bool := e.typedRuleName?.isNone

/-- The traffic light view. -/
def asTrafficLight? : RegulatoryElement → Option TrafficLight
  | trafficLight t => some t
  | _ => none

/-- The right of way view. -/
def asRightOfWay? : RegulatoryElement → Option RightOfWay
  | rightOfWay t => some t
  | _ => none

/-- The traffic sign view; a `speedLimit` has one too. -/
def asTrafficSign? : RegulatoryElement → Option TrafficSign
  | trafficSign t => some t
  | speedLimit t => some t.sign
  | _ => none

/-- The speed limit view. -/
def asSpeedLimit? : RegulatoryElement → Option SpeedLimit
  | speedLimit t => some t
  | _ => none

end RegulatoryElement

end RoadNet
