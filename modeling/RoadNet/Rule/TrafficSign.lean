import RoadNet.Role

/-!
# RoadNet.Rule.TrafficSign

Rules that traffic signs announce, and speed limits, which are such rules under a name of their
own. Role `refers` holds the signs, `cancels` the signs that end the rule, `ref_line` the lines
from where it applies and `cancel_line` the lines after which it no longer applies.
-/

namespace RoadNet

/-! ## Types of signs -/

/-- The type of a physical sign. A line string of the type `TypeTag.trafficSign` carries it as its
subtype; otherwise the type tag itself is the type of the sign. -/
def signTypeOf? (sign : LineString) : Option String :=
  match sign.attributes.find? Key.type with
  | some type =>
    if type = TypeTag.trafficSign then sign.attributes.find? Key.subtype else some type
  | none => none

/-- Signs that show one symbol, with the type of that symbol, `signType`, if it is given
explicitly. -/
structure SignGroup where
  signs : List LineString
  signType : Option String
deriving DecidableEq

namespace SignGroup

/-- The type that all tagged signs of a list share; `found` is the one seen so far. -/
def sharedType (rule : String) (id : Id) : Option String → List LineString →
    Except Fault (Option String)
  | found, [] => .ok found
  | found, sign :: rest =>
    match signTypeOf? sign, found with
    | none, _ => sharedType rule id found rest
    | some type, none => sharedType rule id (some type) rest
    | some type, some previous =>
      if previous = type then sharedType rule id (some type) rest
      else .error (.invalidRelation rule id (.signsDisagree previous type))

/-- The explicit type, or the `sharedType` of all tagged signs. -/
def resolve (g : SignGroup) (rule : String) (id : Id) : Except Fault (Option String) :=
  match g.signType with
  | some type => .ok (some type)
  | none => sharedType rule id none g.signs

end SignGroup

/-! ## The store of a sign rule -/

namespace SignRule

/-- Build the store of a sign rule from its sign groups, which `resolve` gives their types, and its
lines. -/
def build (rule : String) (id : Id) (attributes : Attributes) (signs cancelling : SignGroup)
    (refLines cancelLines : List Id) : Except Fault RoleStore := do
  if signs.signs.isEmpty then throw (.invalidRelation rule id .noTrafficSigns)
  match ← signs.resolve rule id with
  | none => throw (.invalidRelation rule id .unknownSignType)
  | some signType =>
    let cancelType ← cancelling.resolve rule id
    let stamped :=
      ((RoleStore.ofAttributes id attributes).stampRule rule).setAttribute Key.signType signType
    let tagged := match cancelType with
      | some type => stamped.setAttribute Key.cancelType type
      | none => stamped
    let s ← tagged.addAll RoleName.refers (signs.signs.map fun sign => .lineString sign.id)
    let s ← s.addAll RoleName.cancels (cancelling.signs.map fun sign => .lineString sign.id)
    let s ← s.addAll RoleName.refLine (refLines.map .lineString)
    s.addAll RoleName.cancelLine (cancelLines.map .lineString)

/-- The roles of a sign rule. -/
def roleNames : List String :=
  [RoleName.refers, RoleName.cancels, RoleName.refLine, RoleName.cancelLine]

/-- Check a store as a sign rule: at least one sign, and line strings only in all `roleNames`. -/
def check (rule : String) (s : RoleStore) : Except Fault Unit := do
  if (s.get RoleName.refers).isEmpty then
    throw (.invalidRelation rule s.id .noTrafficSigns)
  roleNames.forM fun role => s.checkKind rule role .lineString

end SignRule

/-! ## Traffic signs -/

/-- A rule announced by traffic signs. -/
structure TrafficSign where
  store : RoleStore
deriving DecidableEq

namespace TrafficSign

/-- The name of the rule. -/
def ruleName : String := "traffic_sign"

/-- Make a rule with `build`; the resolved types are kept as attributes. -/
def make (id : Id) (attributes : Attributes) (signs cancelling : SignGroup)
    (refLines cancelLines : List Id) : Except Fault TrafficSign :=
  (SignRule.build ruleName id attributes signs cancelling refLines cancelLines).map .mk

/-- Read a store as a traffic sign rule, if it passes `check`. -/
def ofStore (s : RoleStore) : Except Fault TrafficSign :=
  (SignRule.check ruleName s).map fun _ => ⟨s⟩

/-- The line strings in a role. -/
def lines (t : TrafficSign) (role : String) : List Id := t.store.ids role .lineString

/-- The signs. -/
def signs (t : TrafficSign) : List Id := t.lines RoleName.refers

/-- The signs that end the rule. -/
def cancellingSigns (t : TrafficSign) : List Id := t.lines RoleName.cancels

/-- The lines from where the rule applies; none means the whole lanelet. -/
def refLines (t : TrafficSign) : List Id := t.lines RoleName.refLine

/-- The lines after which the rule no longer applies. -/
def cancelLines (t : TrafficSign) : List Id := t.lines RoleName.cancelLine

/-- The stored type of the signs. -/
def signType? (t : TrafficSign) : Option String := t.store.attributes.find? Key.signType

/-- The stored type of the cancelling signs. -/
def cancelType? (t : TrafficSign) : Option String := t.store.attributes.find? Key.cancelType

/-- The type of the signs: the stored `signType?`, or else the `signTypeOf?` of the first sign. -/
def resolveSignType? (t : TrafficSign) (lineStrings : SortedMap Id LineString) :
    Option String :=
  match t.signType? with
  | some type => some type
  | none => (t.signs.head?.bind lineStrings.find?).bind signTypeOf?

/-- Add a line string to a role. -/
def addTo (role : String) (t : TrafficSign) (line : Id) : Except Fault TrafficSign :=
  (t.store.add role (.lineString line)).map .mk

/-- Remove a line string from a role; the flag says whether it was there. -/
def removeFrom (role : String) (t : TrafficSign) (line : Id) : Bool × TrafficSign :=
  let (found, s) := t.store.remove role (.lineString line)
  (found, ⟨s⟩)

/-- Add a sign. -/
def addSign : TrafficSign → Id → Except Fault TrafficSign := addTo RoleName.refers

/-- Remove a sign. -/
def removeSign : TrafficSign → Id → Bool × TrafficSign := removeFrom RoleName.refers

/-- Add a sign that ends the rule. -/
def addCancellingSign : TrafficSign → Id → Except Fault TrafficSign := addTo RoleName.cancels

/-- Remove a sign that ends the rule. -/
def removeCancellingSign : TrafficSign → Id → Bool × TrafficSign := removeFrom RoleName.cancels

/-- Add a line from where the rule applies. -/
def addRefLine : TrafficSign → Id → Except Fault TrafficSign := addTo RoleName.refLine

/-- Remove a line from where the rule applies. -/
def removeRefLine : TrafficSign → Id → Bool × TrafficSign := removeFrom RoleName.refLine

/-- Add a line after which the rule no longer applies. -/
def addCancelLine : TrafficSign → Id → Except Fault TrafficSign := addTo RoleName.cancelLine

/-- Remove a line after which the rule no longer applies. -/
def removeCancelLine : TrafficSign → Id → Bool × TrafficSign := removeFrom RoleName.cancelLine

end TrafficSign

/-! ## Speed limits -/

/-- A speed limit: a traffic sign rule under its own name. -/
structure SpeedLimit where
  sign : TrafficSign
deriving DecidableEq

namespace SpeedLimit

/-- The name of the rule. -/
def ruleName : String := "speed_limit"

/-- Make a speed limit with `build`, under the same conditions as a traffic sign rule. -/
def make (id : Id) (attributes : Attributes) (signs cancelling : SignGroup)
    (refLines cancelLines : List Id) : Except Fault SpeedLimit :=
  (SignRule.build ruleName id attributes signs cancelling refLines cancelLines).map fun s => ⟨⟨s⟩⟩

/-- Read a store as a speed limit, if it passes `check`. -/
def ofStore (s : RoleStore) : Except Fault SpeedLimit :=
  (SignRule.check ruleName s).map fun _ => ⟨⟨s⟩⟩

end SpeedLimit

end RoadNet
