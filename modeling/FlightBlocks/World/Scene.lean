import FlightBlocks.World.Basic

/-!
Worlds listed in full: their crafts, their planets, and which crafts are selected.

Lookups take the first entry that fits. The executing craft is looked up by its id among the
crafts, while the ids of the target and of the controlled craft need not belong to one.
-/

namespace FlightBlocks

/-- A planet with its data; with a failure, every read of them fails. -/
structure ScenePlanet where
  node : OrbitNode
  sphereOfInfluence : Float
  sphereOfInfluenceExit : Float
  rotationAngle : Float
  angularVelocity : Float
  terrainLoaded : Bool
  hasWater : Bool
  seaLevel : Float
  structures : List SurfaceSite
  launchSites : List SurfaceSite
  failure : Option ReadFailure

namespace ScenePlanet

/-- A read of the data of a planet. -/
def read {α : Type} (p : ScenePlanet) (value : α) : Except ReadFailure α :=
  match p.failure with
  | some failure => .error failure
  | none => .ok value

/-- The planet as a program sees it. -/
def toPlanet (p : ScenePlanet) : Planet :=
  { name := p.node.name
    sphereOfInfluence := p.read p.sphereOfInfluence
    sphereOfInfluenceExit := p.read p.sphereOfInfluenceExit
    rotationAngle := p.read p.rotationAngle
    angularVelocity := p.read p.angularVelocity
    terrainLoaded := p.read p.terrainLoaded
    hasWater := p.read p.hasWater
    seaLevel := p.read p.seaLevel
    structures := p.read p.structures
    launchSites := p.read p.launchSites }

end ScenePlanet

/-- Crafts, planets, and the ids of the crafts that are selected. -/
structure Scene where
  crafts : List OrbitNode
  planets : List ScenePlanet
  executing : Option Int
  target : Option Int
  active : Option Int

namespace Scene

def craft? (s : Scene) (id : Int) : Option OrbitNode := s.crafts.find? fun c => c.id = id

def planetNamed? (s : Scene) (name : String) : Option ScenePlanet :=
  s.planets.find? fun p => p.node.name = name

/-- The lookups of a listed world. -/
def world (s : Scene) : World :=
  { executing := s.executing.bind s.craft?
    craft? := s.craft?
    craftNamed? := fun name => s.crafts.find? fun c => c.name = name
    planetNode? := fun name => (s.planetNamed? name).map (·.node)
    planet? := fun name => (s.planetNamed? name).map ScenePlanet.toPlanet
    target := s.target
    active := s.active }

end Scene

end FlightBlocks
