import RoadNet.Role

/-!
# RoadNet.Rule.RightOfWay

Right of way between lanelets, with an optional stop line. A lanelet never both has right of
way and yields.
-/

namespace RoadNet

/-- How a lanelet takes part in a right of way rule. -/
inductive Maneuver where
  | rightOfWay
  | yields
  /-- The lanelet is not part of the rule. -/
  | unknown
deriving DecidableEq, Repr

/-- A right of way rule. -/
structure RightOfWay where
  store : RoleStore
deriving DecidableEq

namespace RightOfWay

/-- The name of the rule. -/
def ruleName : String := "right_of_way"

/-- Add a lanelet to `role` unless the role `opposite` holds it, which is a `conflictingRole`. -/
def addExclusive (t : RightOfWay) (role opposite : String) (lanelet : Id) :
    Except Fault RightOfWay :=
  if t.store.contains opposite (.lanelet lanelet) then
    .error (.conflictingRole t.store.id lanelet role opposite)
  else (t.store.add role (.lanelet lanelet)).map .mk

/-- Give a lanelet right of way. -/
def addRightOfWay (t : RightOfWay) (lanelet : Id) : Except Fault RightOfWay :=
  t.addExclusive RoleName.rightOfWay RoleName.yielding lanelet

/-- Make a lanelet yield. -/
def addYield (t : RightOfWay) (lanelet : Id) : Except Fault RightOfWay :=
  t.addExclusive RoleName.yielding RoleName.rightOfWay lanelet

/-- Take right of way from a lanelet; the flag says whether it had it. -/
def removeRightOfWay (t : RightOfWay) (lanelet : Id) : Bool × RightOfWay :=
  let (found, s) := t.store.remove RoleName.rightOfWay (.lanelet lanelet)
  (found, ⟨s⟩)

/-- Let a lanelet no longer yield; the flag says whether it did. -/
def removeYield (t : RightOfWay) (lanelet : Id) : Bool × RightOfWay :=
  let (found, s) := t.store.remove RoleName.yielding (.lanelet lanelet)
  (found, ⟨s⟩)

/-- Replace the stop line. -/
def setStopLine (t : RightOfWay) (line : Id) : RightOfWay :=
  ⟨t.store.setSingle RoleName.refLine (.lineString line)⟩

/-- Drop the stop line. -/
def removeStopLine (t : RightOfWay) : RightOfWay := ⟨t.store.clear RoleName.refLine⟩

/-- Make a rule from the lanelets that have right of way, those that yield, and the stop line, with
`addExclusive`. Empty lists are accepted. -/
def make (id : Id) (attributes : Attributes) (rightOfWay yielding : List Id)
    (stopLine : Option Id) : Except Fault RightOfWay := do
  let start : RightOfWay := ⟨(RoleStore.ofAttributes id attributes).stampRule ruleName⟩
  let t ← rightOfWay.foldlM addRightOfWay start
  let t ← yielding.foldlM addYield t
  return match stopLine with
    | some line => t.setStopLine line
    | none => t

/-- Read a store as a right of way rule: lanelets and line strings in their roles (`checkKind`), at
most one stop line, and no lanelet in both roles. -/
def ofStore (s : RoleStore) : Except Fault RightOfWay := do
  s.checkKind ruleName RoleName.rightOfWay .lanelet
  s.checkKind ruleName RoleName.yielding .lanelet
  s.checkKind ruleName RoleName.refLine .lineString
  if (s.get RoleName.refLine).length > 1 then
    throw (.invalidRelation ruleName s.id .severalStopLines)
  match (s.get RoleName.yielding).find? (s.contains RoleName.rightOfWay) with
  | some both => throw (.conflictingRole s.id both.id RoleName.yielding RoleName.rightOfWay)
  | none => return ⟨s⟩

/-- How a lanelet takes part in the rule: `rightOfWay` is asked before `yields`. -/
def maneuver (t : RightOfWay) (lanelet : Id) : Maneuver :=
  if t.store.contains RoleName.rightOfWay (.lanelet lanelet) then .rightOfWay
  else if t.store.contains RoleName.yielding (.lanelet lanelet) then .yields
  else .unknown

/-- The lanelets that have right of way. -/
def rightOfWayLanelets (t : RightOfWay) : List Id := t.store.ids RoleName.rightOfWay .lanelet

/-- The lanelets that have to yield. -/
def yieldLanelets (t : RightOfWay) : List Id := t.store.ids RoleName.yielding .lanelet

/-- The stop line, if there is one. -/
def stopLine? (t : RightOfWay) : Option Id := (t.store.ids RoleName.refLine .lineString).head?

end RightOfWay

end RoadNet
