/-!
# RoadNet.Vocabulary

The attribute keys, role names and values that map files agree on.
-/

namespace RoadNet

/-! ## Attribute keys -/

namespace Key

/-- The type of a primitive or relation. -/
def type : String := "type"

/-- The subtype; on a regulatory element, the name of its rule. -/
def subtype : String := "subtype"

/-- The type of the signs that a sign rule refers to. -/
def signType : String := "sign_type"

/-- The type of the signs that cancel a sign rule. -/
def cancelType : String := "cancel_type"

/-- Marks a closed way as an area. -/
def area : String := "area"

/-- The elevation of a node. -/
def elevation : String := "ele"

end Key

/-! ## Values of the type key -/

namespace TypeTag

/-- The type of every regulatory element. -/
def regulatoryElement : String := "regulatory_element"

/-- The type of line strings that are physical traffic signs. -/
def trafficSign : String := "traffic_sign"

/-- The type of relations that are lanelets. -/
def lanelet : String := "lanelet"

end TypeTag

/-! ## Role names -/

namespace RoleName

/-- The primitives a rule refers to: lights or signs. -/
def refers : String := "refers"

/-- Stop lines, or the lines from where a rule applies. -/
def refLine : String := "ref_line"

/-- Lanelets that have right of way. -/
def rightOfWay : String := "right_of_way"

/-- Lanelets that have to yield. -/
def yielding : String := "yield"

/-- Signs that cancel a sign rule. -/
def cancels : String := "cancels"

/-- Lines after which a sign rule no longer applies. -/
def cancelLine : String := "cancel_line"

/-- The left bound of a lanelet. -/
def left : String := "left"

/-- The right bound of a lanelet. -/
def right : String := "right"

/-- The rules that apply to a lanelet. -/
def regulatoryElement : String := "regulatory_element"

end RoleName

end RoadNet
