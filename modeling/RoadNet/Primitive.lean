import RoadNet.Attribute

/-!
# RoadNet.Primitive

The primitives of a road map. They refer to each other by identifier only; the map owns them.
-/

namespace RoadNet

/-- A point in the local metric frame. -/
structure Position where
  x : Float
  y : Float
  z : Float
deriving DecidableEq

/-- A tagged point. -/
structure Point where
  id : Id
  position : Position
  attributes : Attributes
deriving DecidableEq

/-- An ordered sequence of points. Traffic lights and signs are line strings that run from
their left to their right edge. -/
structure LineString where
  id : Id
  points : List Id
  attributes : Attributes
deriving DecidableEq

/-- A closed ring of points; the last point connects back to the first. -/
structure Polygon where
  id : Id
  points : List Id
  attributes : Attributes
deriving DecidableEq

/-- A lane section between a left and a right line string. -/
structure Lanelet where
  id : Id
  left : Id
  right : Id
  /-- The regulatory elements that apply to the lanelet. -/
  regulatoryElements : List Id
  attributes : Attributes
deriving DecidableEq

end RoadNet
