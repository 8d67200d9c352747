import RoadNet.Primitive

/-!
# RoadNet.Projection

Projection between geodetic positions and the local metric frame. A map format receives a
projector and never looks inside it.
-/

namespace RoadNet

/-- A geodetic position: degrees, and metres above the ellipsoid. -/
structure Geodetic where
  lat : Float
  lon : Float
  ele : Float
deriving DecidableEq

/-- Converts between geodetic and local positions. -/
structure Projector where
  forward : Geodetic → Position
  reverse : Position → Geodetic

namespace Projector

/-- Degrees taken as they are: longitude along `x`, latitude along `y`. -/
def identity : Projector where
  forward g := ⟨g.lon, g.lat, g.ele⟩
  reverse p := ⟨p.y, p.x, p.z⟩

/-- The circle constant. -/
def pi : Float := 3.141592653589793

/-- Mean equatorial radius of the earth in metres. -/
def earthRadius : Float := 6378137.0

/-- The mercator abscissa of a longitude. -/
def mercatorX (lon : Float) : Float := earthRadius * lon * pi / 180.0

/-- The mercator ordinate of a latitude. -/
def mercatorY (lat : Float) : Float := earthRadius * ((90.0 + lat) * pi / 360.0).tan.log

/-- Spherical mercator, scaled at and centred on an origin. -/
def sphericalMercator (lat lon : Float) : Projector :=
  let scale := (lat * pi / 180.0).cos
  let offsetX := scale * mercatorX lon
  let offsetY := scale * mercatorY lat
  { forward g := ⟨scale * mercatorX g.lon - offsetX, scale * mercatorY g.lat - offsetY, g.ele⟩
    reverse p :=
      let x := (p.x + offsetX) / scale
      let y := (p.y + offsetY) / scale
      ⟨360.0 * (y / earthRadius).exp.atan / pi - 90.0, x * 180.0 / (pi * earthRadius), p.z⟩ }

/-- The conventional projector, with its origin where the equator meets the zero meridian. -/
def standard : Projector := sphericalMercator 0.0 0.0

end Projector

end RoadNet
