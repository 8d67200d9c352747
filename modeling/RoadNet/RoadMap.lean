import RoadNet.Rule.Element

/-!
# RoadNet.RoadMap

A road network: one layer per kind of element, each in identifier order. Elements refer to each
other by identifier only, and inserting an element checks no reference.
-/

namespace RoadNet

/-- The elements of one kind, a `SortedMap` by identifier. -/
abbrev Layer (α : Type) := SortedMap Id α

/-- A road network. -/
structure RoadMap where
  points : Layer Point
  lineStrings : Layer LineString
  polygons : Layer Polygon
  lanelets : Layer Lanelet
  regulatoryElements : Layer RegulatoryElement
deriving DecidableEq

namespace RoadMap

/-- The map without elements. -/
def empty : RoadMap := ⟨.empty, .empty, .empty, .empty, .empty⟩

/-- Add a point under its identifier, replacing one that is there. -/
def addPoint (m : RoadMap) (p : Point) : RoadMap :=
  { m with points := m.points.insert p.id p }

/-- Add a line string, replacing one with the same identifier. -/
def addLineString (m : RoadMap) (l : LineString) : RoadMap :=
  { m with lineStrings := m.lineStrings.insert l.id l }

/-- Add a polygon, replacing one with the same identifier. -/
def addPolygon (m : RoadMap) (p : Polygon) : RoadMap :=
  { m with polygons := m.polygons.insert p.id p }

/-- Add a lanelet, replacing one with the same identifier. -/
def addLanelet (m : RoadMap) (l : Lanelet) : RoadMap :=
  { m with lanelets := m.lanelets.insert l.id l }

/-- Add a regulatory element, replacing one with the same identifier. -/
def addElement (m : RoadMap) (e : RegulatoryElement) : RoadMap :=
  { m with regulatoryElements := m.regulatoryElements.insert e.id e }

/-- Remove the element that the reference `r` names. -/
def remove (m : RoadMap) (r : Reference) : RoadMap :=
  match r.kind with
  | .point => { m with points := m.points.erase r.id }
  | .lineString => { m with lineStrings := m.lineStrings.erase r.id }
  | .polygon => { m with polygons := m.polygons.erase r.id }
  | .lanelet => { m with lanelets := m.lanelets.erase r.id }
  | .regulatoryElement => { m with regulatoryElements := m.regulatoryElements.erase r.id }

/-- Whether the element that the reference `r` names is in the map, in the layer of its kind. -/
def contains (m : RoadMap) (r : Reference) : Bool :=
  match r.kind with
  | .point => m.points.contains r.id
  | .lineString => m.lineStrings.contains r.id
  | .polygon => m.polygons.contains r.id
  | .lanelet => m.lanelets.contains r.id
  | .regulatoryElement => m.regulatoryElements.contains r.id

/-- Check that all `parameters` of a store resolve in the map, else name the first that does not as
an `unresolvedReference`. -/
def checkReferences (m : RoadMap) (s : RoleStore) : Except Fault Unit :=
  match s.parameters.find? fun p => !m.contains p.2 with
  | some (role, missing) => .error (.unresolvedReference s.id role missing)
  | none => .ok ()

/-- The number of elements. -/
def size (m : RoadMap) : Nat :=
  m.points.size + m.lineStrings.size + m.polygons.size + m.lanelets.size +
    m.regulatoryElements.size

/-- Whether the map has no elements. -/
def isEmpty (m : RoadMap) : Bool := m.size == 0

end RoadMap

end RoadNet
