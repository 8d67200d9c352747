import RoadNet.Role

/-!
# RoadNet.Rule.TrafficLight

A set of traffic lights that show the same signal, and the line where to stop. The lights are
the line strings in role `refers`; the one line string in role `ref_line` is the stop line.
-/

namespace RoadNet

/-- A traffic light rule. -/
structure TrafficLight where
  store : RoleStore
deriving DecidableEq

namespace TrafficLight

/-- The name of the rule. -/
def ruleName : String := "traffic_light"

/-- Make a rule from its lights and its stop line, both of which there must be. -/
def make (id : Id) (attributes : Attributes) (lights : List Id) (stopLine : Option Id) :
    Except Fault TrafficLight := do
  if lights.isEmpty then throw (.invalidRelation ruleName id .noTrafficLights)
  match stopLine with
  | none => throw (.invalidRelation ruleName id .noStopLine)
  | some line =>
    let s ← ((RoleStore.ofAttributes id attributes).stampRule ruleName).addAll RoleName.refers
      (lights.map .lineString)
    return ⟨s.setSingle RoleName.refLine (.lineString line)⟩

/-- Read a store as a traffic light: at least one light, exactly one stop line, and line strings
only (`checkKind`). -/
def ofStore (s : RoleStore) : Except Fault TrafficLight := do
  if (s.get RoleName.refers).isEmpty then
    throw (.invalidRelation ruleName s.id .noTrafficLights)
  if (s.get RoleName.refLine).length ≠ 1 then
    throw (.invalidRelation ruleName s.id (.notOneStopLine (s.get RoleName.refLine).length))
  s.checkKind ruleName RoleName.refers .lineString
  s.checkKind ruleName RoleName.refLine .lineString
  return ⟨s⟩

/-- The lights, in order. -/
def lights (t : TrafficLight) : List Id := t.store.ids RoleName.refers .lineString

/-- The stop line. It is missing only from a store that was changed past this interface, which is an
`invariantViolated`. -/
def stopLine (t : TrafficLight) : Except Fault Id :=
  match (t.store.ids RoleName.refLine .lineString).head? with
  | some line => .ok line
  | none =>
    .error (.invariantViolated ("traffic light " ++ idText t.store.id ++ " has no stop line"))

/-- Add a light. -/
def addLight (t : TrafficLight) (light : Id) : Except Fault TrafficLight :=
  (t.store.add RoleName.refers (.lineString light)).map .mk

/-- Remove a light; the flag says whether it was there. -/
def removeLight (t : TrafficLight) (light : Id) : Bool × TrafficLight :=
  let (found, s) := t.store.remove RoleName.refers (.lineString light)
  (found, ⟨s⟩)

/-- Replace the stop line. -/
def setStopLine (t : TrafficLight) (line : Id) : TrafficLight :=
  ⟨t.store.setSingle RoleName.refLine (.lineString line)⟩

end TrafficLight

end RoadNet
