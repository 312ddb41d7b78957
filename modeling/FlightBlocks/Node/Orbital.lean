import FlightBlocks.Node.Arithmetic
import FlightBlocks.World.Basic

/-!
Readings of an orbit, and how a program selects the craft or planet that it reads.

A number selects the craft with that id, a negative one the executing craft; what is behind the
point does not count, and a number out of range is the nearest 32-bit integer. A text selects the
planet of that name, else the craft of that name, else the craft whose id it writes; the empty text
selects the executing craft.
-/

namespace FlightBlocks

/-! ## Selection -/

namespace World

/-- The craft of an id; a negative id stands for the executing craft. -/
def craftById? (w : World) (id : Int) : Option OrbitNode :=
  if 0 ≤ id then w.craft? id else w.executing

/-- The craft or planet that a value selects. -/
def select? (w : World) (selector : Value) : Option OrbitNode :=
  match selector with
  | .number n => w.craftById? n.toModel.toInt32.toInt
  | other =>
    let name := other.toText
    if name.isEmpty then w.executing
    else w.planetNode? name <|> w.craftNamed? name <|>
      (Text.readInt32? (Text.trim name)).bind w.craftById?

end World

/-! ## Readings -/

/-- A list of readings of an orbit, with the attribute it is saved under and the value that stands
    in when there is nothing to read. -/
class OrbitReading (α : Type) extends Selectable α where
  slot : String
  neutral : Value
  read : α → Orbit → Value

inductive OrbitalElement where
  | rightAscension
  | inclination
  | argumentOfPeriapsis
  | trueAnomaly
  | semiMajorAxis
  | eccentricity
  | period
  deriving DecidableEq, Repr

instance : OrbitReading OrbitalElement where
  options :=
    [(.rightAscension, ⟨"right-ascension", "Right Ascension",
      "The angle between the reference direction and the ascending node.", .degrees⟩),
     (.inclination, ⟨"inclination", "Inclination", "The degree of tilt.", .degrees⟩),
     (.argumentOfPeriapsis, ⟨"argument-of-periapsis", "Argument of Periapsis",
      "The angle between the ascending node and the direction of periapse.", .degrees⟩),
     (.trueAnomaly, ⟨"true-anomaly", "True Anomaly",
      "The angle between the direction of the periapse and the current position from the main " ++
      "focus of the orbital ellipse.", .degrees⟩),
     (.semiMajorAxis, ⟨"semi-major-axis", "Semi-Major Axis",
      "Half of the sum of the apoapse and periapse distances.", .number⟩),
     (.eccentricity, ⟨"eccentricity", "Eccentricity",
      "The shape of the orbit, from circular (0), to parabolic (1), to hyperbolic (>1).",
      .number⟩),
     (.period, ⟨"period", "Period", "The period of the orbit in seconds.", .number⟩)]
  slot := "element"
  neutral := .zero
  read
    | .rightAscension, o => .number (toDegrees o.rightAscension)
    | .inclination, o => .number (toDegrees o.inclination)
    | .argumentOfPeriapsis, o => .number (toDegrees o.periapsisAngle)
    | .trueAnomaly, o => .number (toDegrees o.trueAnomaly)
    | .semiMajorAxis, o => .number o.semiMajorAxis
    | .eccentricity, o => .number o.eccentricity
    | .period, o => .number o.period

inductive AdvancedOrbitalElement where
  | angularMomentum
  | apoapse
  | periapse
  | orbitalPlaneNormal
  | eccentricityVector
  | eccentricAnomaly
  | meanAnomaly
  | meanMotion
  deriving DecidableEq, Repr

instance : OrbitReading AdvancedOrbitalElement where
  options :=
    [(.angularMomentum, ⟨"angular-momentum", "Angular Momentum",
      "A vector representing the body's rate of rotation around its parent.", .vector⟩),
     (.apoapse, ⟨"apoapse", "Apoapse",
      "A vector representing the apoapse of the orbit.", .vector⟩),
     (.periapse, ⟨"periapse", "Periapse",
      "A vector representing the periapse of the orbit.", .vector⟩),
     (.orbitalPlaneNormal, ⟨"orbital-plane-normal", "Orbital Plane Normal",
      "A unit vector perpendicular to the orbital plane.", .vector⟩),
     (.eccentricityVector, ⟨"eccentricity-vector", "Eccentricity Vector",
      "A vector pointing toward the periapsis of the orbit with a magnitude equal to the " ++
      "eccentricity.", .vector⟩),
     (.eccentricAnomaly, ⟨"eccentric-anomaly", "Eccentric Anomaly",
      "The current eccentric anomaly.", .degrees⟩),
     (.meanAnomaly, ⟨"mean-anomaly", "Mean Anomaly",
      "The fraction of the orbital period elapsed since periapsis, in degrees from 0 to 360.",
      .degrees⟩),
     (.meanMotion, ⟨"mean-motion", "Mean Motion",
      "The average angular speed of the orbit in degrees.", .degrees⟩)]
  slot := "element"
  neutral := .zero
  read
    | .angularMomentum, o => .vector o.angularMomentum
    | .apoapse, o => .vector o.apoapsis
    | .periapse, o => .vector o.periapsis
    | .orbitalPlaneNormal, o => .vector o.orbitalPlaneNormal
    | .eccentricityVector, o => .vector o.eccentricityVector
    | .eccentricAnomaly, o => .number (toDegrees o.eccentricAnomaly)
    | .meanAnomaly, o => .number (toDegrees o.meanAnomaly)
    | .meanMotion, o => .number (toDegrees o.meanMotion)

inductive StateVector where
  | position
  | velocity
  deriving DecidableEq, Repr

instance : OrbitReading StateVector where
  options :=
    [(.position, ⟨"position", "Position", "The body's current position vector.", .vector⟩),
     (.velocity, ⟨"velocity", "Velocity", "The body's current velocity vector.", .vector⟩)]
  slot := "vector"
  neutral := .vector .zero
  read
    | .position, o => .vector o.position
    | .velocity, o => .vector o.velocity

/-- The reading that a choice selects, of the craft or planet that a value selects. -/
def readOrbit {α : Type} [OrbitReading α] (c : Choice α) (w : World) (selector : Value) : Value :=
  match w.select? selector, c.selected with
  | some node, some reading => OrbitReading.read reading node.orbit
  | _, _ => OrbitReading.neutral α

/-! ## Craft ids -/

inductive CraftKind where
  | current
  | target
  | active
  deriving DecidableEq, Repr

instance : Selectable CraftKind where
  options :=
    [(.current, ⟨"current", "Current",
      "Gets the ID of the craft that is currently running this program.", .plain⟩),
     (.target, ⟨"target", "Target",
      "Gets the target craft ID if a craft is currently targeted (returns -1 if no craft is " ++
      "targeted).", .plain⟩),
     (.active, ⟨"active", "Active",
      "Gets the ID of the craft that is currently controlled by the player.", .plain⟩)]

/-- The id of the craft of a kind, if there is one. -/
def World.craftId? (w : World) : CraftKind → Option Int
  | .current => w.executing.map (·.id)
  | .target => w.target
  | .active => w.active

/-- The id that a choice of a craft gives; minus one stands for no craft. -/
def readCraftId (c : Choice CraftKind) (w : World) : Value :=
  .number (Float.ofInt ((c.selected.bind w.craftId?).getD (-1)))

end FlightBlocks
