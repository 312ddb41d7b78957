import FlightBlocks.Value

/-!
Orbits, as a model of the flight computes them. Angles are in radians, times in seconds.
-/

namespace FlightBlocks

/-- A snapshot of an orbit. -/
structure Orbit where
  angularMomentum : Vector3 := .zero
  apoapsis : Vector3 := .zero
  periapsis : Vector3 := .zero
  orbitalPlaneNormal : Vector3 := .zero
  eccentricityVector : Vector3 := .zero
  eccentricAnomaly : Float := 0
  meanAnomaly : Float := 0
  meanMotion : Float := 0
  rightAscension : Float := 0
  inclination : Float := 0
  periapsisAngle : Float := 0
  trueAnomaly : Float := 0
  semiMajorAxis : Float := 0
  eccentricity : Float := 0
  period : Float := 0
  position : Vector3 := .zero
  velocity : Vector3 := .zero
  deriving Repr

/-- A craft or a planet as something that moves on an orbit. -/
structure OrbitNode where
  id : Int
  name : String
  orbit : Orbit
  deriving Repr

end FlightBlocks
