import RoadNet.Rule.Element
import RoadNet.Text.Quoted

/-!
# RoadNet.Rule.Registry

The rules known by name. Resolving a relation reads it under the rule of that name; a relation
whose rule nobody registered stays plain data.
-/

namespace RoadNet

/-- Reads a `RoleStore` under a rule. -/
abbrev RuleFactory := RoleStore → Except Fault RegulatoryElement

/-- The registered rules by name. -/
structure RuleRegistry where
  factories : SortedMap String RuleFactory

namespace RuleRegistry

/-- No rules. -/
def empty : RuleRegistry := ⟨.empty⟩

/-- Whether a rule of that name is registered. -/
def isRegistered (g : RuleRegistry) (name : String) : Bool := g.factories.contains name

/-- Register a rule; a name can be taken once, else the fault is `duplicateTypeName`. -/
def register (g : RuleRegistry) (name : String) (factory : RuleFactory) :
    Except Fault RuleRegistry :=
  if g.isRegistered name then .error (.duplicateTypeName name)
  else .ok ⟨g.factories.insert name factory⟩

/-- Read a relation under the rule called `name`, or as `generic` if there is none. -/
def resolve (g : RuleRegistry) (name : String) (s : RoleStore) :
    Except Fault RegulatoryElement :=
  match g.factories.find? name with
  | some factory => factory s
  | none => .ok (.generic s)

/-- Read a relation under the rule it is tagged with, by `resolve`. -/
def upgrade (g : RuleRegistry) (s : RoleStore) : Except Fault RegulatoryElement :=
  match s.ruleName? with
  | some name => g.resolve name s
  | none => .ok (.generic s)

/-- The registered names, in order. -/
def names (g : RuleRegistry) : List String := g.factories.keys

/-- The registry in words. -/
def describe (g : RuleRegistry) : String :=
  "RelationTypeRegistry \x7b types: " ++ Text.quotedList g.names ++ " \x7d"

/-- The built-in rules: each name with `ofStore` of its rule. -/
def builtinRules : List (String × RuleFactory) :=
  [(TrafficLight.ruleName, fun s => (TrafficLight.ofStore s).map .trafficLight),
   (RightOfWay.ruleName, fun s => (RightOfWay.ofStore s).map .rightOfWay),
   (TrafficSign.ruleName, fun s => (TrafficSign.ofStore s).map .trafficSign),
   (SpeedLimit.ruleName, fun s => (SpeedLimit.ofStore s).map .speedLimit)]

/-- The registry of the built-in rules. -/
def builtin : RuleRegistry := ⟨.ofList builtinRules⟩

end RuleRegistry

end RoadNet
