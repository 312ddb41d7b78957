import FlightBlocks.Node.Arithmetic
import FlightBlocks.World.Basic

/-!
Information about a planet. A failed read gives zero, whatever was asked for.
-/

namespace FlightBlocks

inductive PlanetInformation where
  | sphereOfInfluence
  | sphereOfInfluenceExit
  | rotationAngle
  | angularVelocity
  | isTerrainLoaded
  | hasWater
  | seaLevel
  | structureNames
  | structureLocations
  | structureHeadings
  | launchSiteNames
  | launchSites
  | launchSiteHeadings
  deriving DecidableEq, Repr

instance : Selectable PlanetInformation where
  options :=
    [(.sphereOfInfluence, ⟨"soi-distance", "Sphere of Influence Distance",
      "The radius at which a body will enter this planet's sphere of influence.", .number⟩),
     (.sphereOfInfluenceExit, ⟨"soi-exit-distance", "Sphere of Influence Exit Distance",
      "The radius at which a body will exit this planet's sphere of influence.", .number⟩),
     (.rotationAngle, ⟨"rotation-angle", "Rotation Angle",
      "Gets the rotation of the planet in degrees.", .degrees⟩),
     (.angularVelocity, ⟨"angular-velocity", "Angular Velocity",
      "Gets the angular velocity (rotation rate) of the planet in degrees per second.",
      .degrees⟩),
     (.isTerrainLoaded, ⟨"is-terrain-data-loaded", "Is Terrain Data Loaded",
      "Whether or not terrain data has been loaded for the planet.", .plain⟩),
     (.hasWater, ⟨"has-water", "Has Water", "Whether or not the planet has water.", .plain⟩),
     (.seaLevel, ⟨"sea-level", "Sea Level",
      "Gets the mean sea level radius of the planet.", .number⟩),
     (.structureNames, ⟨"structure-names", "Structure Names",
      "Gets a list of structure names.", .list⟩),
     (.structureLocations, ⟨"structure-locations", "Structure Locations",
      "Gets a list of structure locations (lat/long/elevation).", .list⟩),
     (.structureHeadings, ⟨"structure-headings", "Structure Headings",
      "Gets a list of structure headings (degrees).", .list⟩),
     (.launchSiteNames, ⟨"launch-location-names", "Launch Location Names",
      "Gets a list of names of the default launch locations.", .list⟩),
     (.launchSites, ⟨"launch-locations", "Launch Locations",
      "Gets a list of locations (lat/long/type) for the default launch locations.", .list⟩),
     (.launchSiteHeadings, ⟨"launch-location-headings", "Launch Location Headings",
      "Gets a list of headings (degrees) for the default launch locations.", .list⟩)]

namespace SurfaceSite

/-- Latitude, longitude and a third part in parentheses. -/
def triple (s : SurfaceSite) (third : String) : String :=
  "(" ++ Decimal.write s.latitude ++ ", " ++ Decimal.write s.longitude ++ ", " ++ third ++ ")"

/-- The heading, or nothing for a site without one. -/
def headingText (s : SurfaceSite) : String := (s.heading.map Decimal.write).getD ""

end SurfaceSite

namespace PlanetInformation

/-- Whether the information is a truth value. -/
def isBoolean : PlanetInformation → Bool
  | .isTerrainLoaded | .hasWater => true
  | _ => false

/-- Reads the information from a planet. -/
def read (info : PlanetInformation) (p : Planet) : Except ReadFailure Value :=
  let list (sites : Except ReadFailure (List SurfaceSite)) (f : SurfaceSite → String) :=
    sites.map fun sites => Value.list (sites.map f)
  match info with
  | .sphereOfInfluence => p.sphereOfInfluence.map .number
  | .sphereOfInfluenceExit => p.sphereOfInfluenceExit.map .number
  | .rotationAngle => p.rotationAngle.map .number
  | .angularVelocity => p.angularVelocity.map fun v => .number (toDegrees v)
  | .isTerrainLoaded => p.terrainLoaded.map .bool
  | .hasWater => p.hasWater.map .bool
  | .seaLevel => p.seaLevel.map .number
  | .structureNames => list p.structures (·.name)
  | .structureLocations => list p.structures fun s => s.triple (Decimal.write s.elevation)
  | .structureHeadings => list p.structures (·.headingText)
  | .launchSiteNames => list p.launchSites (·.name)
  | .launchSites => list p.launchSites fun s => s.triple s.category
  | .launchSiteHeadings => list p.launchSites (·.headingText)

end PlanetInformation

/-- The information that a choice selects, of the planet of a name. -/
def readPlanet (c : Choice PlanetInformation) (w : World) (name : String) : Value :=
  match if name.isEmpty then none else w.planet? name, c.selected with
  | some planet, some info => (info.read planet).toOption.getD .zero
  | _, _ => .zero

end FlightBlocks
