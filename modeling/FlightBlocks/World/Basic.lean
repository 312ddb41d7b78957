import FlightBlocks.World.Orbit

/-!
The world around a running program, as far as a program can look at it.

A world is given by its lookups. Everything that is read about a planet may fail, because its data
need not be loaded.
-/

namespace FlightBlocks

/-- A failed read of the data of a planet. -/
structure ReadFailure where
  cause : String
  deriving DecidableEq, Repr

def ReadFailure.message (f : ReadFailure) : String := "orbit model failure: " ++ f.cause

/-- A named place on the surface of a planet. -/
structure SurfaceSite where
  name : String
  latitude : Float
  longitude : Float
  elevation : Float
  /-- In degrees, where the site has one. -/
  heading : Option Float
  category : String
  deriving Repr

/-- What can be read about a planet. Angles are in degrees, the angular velocity in radians per
    second. -/
structure Planet where
  name : String
  sphereOfInfluence : Except ReadFailure Float
  sphereOfInfluenceExit : Except ReadFailure Float
  rotationAngle : Except ReadFailure Float
  angularVelocity : Except ReadFailure Float
  terrainLoaded : Except ReadFailure Bool
  hasWater : Except ReadFailure Bool
  seaLevel : Except ReadFailure Float
  structures : Except ReadFailure (List SurfaceSite)
  launchSites : Except ReadFailure (List SurfaceSite)

/-- The lookups of a world. -/
structure World where
  /-- The craft that runs the program. -/
  executing : Option OrbitNode
  craft? : Int → Option OrbitNode
  craftNamed? : String → Option OrbitNode
  /-- A planet as something on an orbit. -/
  planetNode? : String → Option OrbitNode
  planet? : String → Option Planet
  /-- The craft that is selected as the target. -/
  target : Option Int
  /-- The craft that the player controls. -/
  active : Option Int

/-- A world with nothing in it. -/
def World.empty : World :=
  { executing := none
    craft? := fun _ => none
    craftNamed? := fun _ => none
    planetNode? := fun _ => none
    planet? := fun _ => none
    target := none
    active := none }

end FlightBlocks
