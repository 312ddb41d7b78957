import FlightBlocks.Node.Orbital
import FlightBlocks.Node.Planetary
import FlightBlocks.Node.Text
import FlightBlocks.Node.Type
import FlightBlocks.Variables

/-!
Expression nodes: their configuration, how it is saved, and what they evaluate to.

A node holds its configuration only. How it is connected to other nodes belongs to the program, and
`evaluate` takes the values of the children as a function of their position.
-/

namespace FlightBlocks

inductive ExpressionNode where
  | constant (value : Value)
  | variable (name : String)
  | operation (op : Choice BinaryOperator)
  | numericConstant (constant : Choice NumericConstant)
  | orbitalElement (reading : Choice OrbitalElement)
  | advancedOrbitalElement (reading : Choice AdvancedOrbitalElement)
  | stateVector (reading : Choice StateVector)
  | craftId (kind : Choice CraftKind)
  | planetInformation (info : Choice PlanetInformation)
  | comparison (op : Choice Comparison)
  | transform (op : Choice Transform)
  | split
  | unaryMath (f : Choice UnaryMath)
  deriving Repr

/-- The attribute that holds the name of a variable. -/
def variableSlot : String := "variableName"

namespace ExpressionNode

def type : ExpressionNode → NodeType
  | .constant _ => .constant
  | .variable _ => .variable
  | .operation _ => .operation
  | .numericConstant _ => .numericConstant
  | .orbitalElement _ => .orbitalElement
  | .advancedOrbitalElement _ => .advancedOrbitalElement
  | .stateVector _ => .stateVector
  | .craftId _ => .craftId
  | .planetInformation _ => .planetInformation
  | .comparison _ => .comparison
  | .transform _ => .transform
  | .split => .split
  | .unaryMath _ => .unaryMath

/-! ## Configuration -/

/-- The list that a node chooses from, if it does. -/
def items : ExpressionNode → List ListItem
  | .operation _ => Selectable.list BinaryOperator
  | .numericConstant _ => Selectable.list NumericConstant
  | .orbitalElement _ => Selectable.list OrbitalElement
  | .advancedOrbitalElement _ => Selectable.list AdvancedOrbitalElement
  | .stateVector _ => Selectable.list StateVector
  | .craftId _ => Selectable.list CraftKind
  | .planetInformation _ => Selectable.list PlanetInformation
  | .comparison _ => Selectable.list Comparison
  | .transform _ => Selectable.list Transform
  | .unaryMath _ => Selectable.list UnaryMath
  | .constant _ | .variable _ | .split => []

/-- The key of the choice that was made. -/
def key? : ExpressionNode → Option String
  | .operation c => c.key
  | .numericConstant c => c.key
  | .orbitalElement c => c.key
  | .advancedOrbitalElement c => c.key
  | .stateVector c => c.key
  | .craftId c => c.key
  | .planetInformation c => c.key
  | .comparison c => c.key
  | .transform c => c.key
  | .unaryMath c => c.key
  | .constant _ | .variable _ | .split => none

/-- Makes a choice. Nodes without a list stay as they are. -/
def choose (key : String) : ExpressionNode → ExpressionNode
  | .operation _ => .operation (.ofKey key)
  | .numericConstant _ => .numericConstant (.ofKey key)
  | .orbitalElement _ => .orbitalElement (.ofKey key)
  | .advancedOrbitalElement _ => .advancedOrbitalElement (.ofKey key)
  | .stateVector _ => .stateVector (.ofKey key)
  | .craftId _ => .craftId (.ofKey key)
  | .planetInformation _ => .planetInformation (.ofKey key)
  | .comparison _ => .comparison (.ofKey key)
  | .transform _ => .transform (.ofKey key)
  | .unaryMath _ => .unaryMath (.ofKey key)
  | .constant v => .constant v
  | .variable name => .variable name
  | .split => .split

/-! ## Saving and loading -/

/-- The value that an element holds: a number, else a truth value, else a text. -/
def loadConstant (e : Markup.Element) : Value :=
  match e.attribute? "number", e.attribute? "bool" with
  | some n, _ => .number ((Decimal.read? (Text.trim n)).getD 0)
  | none, some b => .bool (Text.sameIgnoringCase (Text.trim b) "true")
  | none, none => .text ((e.attribute? "text").getD "")

/-- Saves a value; vectors and lists are saved as their text. -/
def saveConstant (e : Markup.Element) : Value → Markup.Element
  | .number n => e.set "number" (Decimal.write n)
  | .bool b => e.set "bool" (if b then "true" else "false")
  | other => e.set "text" other.toText

/-- A craft id without a kind is that of the target, as long as no kind was chosen. -/
def loadCraftKind (c : Choice CraftKind) (e : Markup.Element) : Choice CraftKind :=
  let loaded := c.load e "type"
  if loaded.key.isNone then .ofKey (Selectable.keyOf CraftKind.target) else loaded

/-- The node configured by an element. -/
def load (e : Markup.Element) : ExpressionNode → ExpressionNode
  | .constant _ => .constant (loadConstant e)
  | .variable _ => .variable ((e.attribute? variableSlot).getD "")
  | .operation c => .operation (c.load e "op")
  | .numericConstant c => .numericConstant (c.load e "type")
  | .orbitalElement c => .orbitalElement (c.load e (OrbitReading.slot OrbitalElement))
  | .advancedOrbitalElement c =>
    .advancedOrbitalElement (c.load e (OrbitReading.slot AdvancedOrbitalElement))
  | .stateVector c => .stateVector (c.load e (OrbitReading.slot StateVector))
  | .craftId c => .craftId (loadCraftKind c e)
  | .planetInformation c => .planetInformation (c.load e "info")
  | .comparison c => .comparison (c.load e "op")
  | .transform c => .transform (c.load e "op")
  | .split => .split
  | .unaryMath c => .unaryMath (c.load e "op")

/-- The element with the configuration of the node. A craft id is always saved under its own name,
    whatever tag it was given. -/
def save (e : Markup.Element) : ExpressionNode → Markup.Element
  | .constant v => saveConstant e v
  | .variable name => e.set variableSlot name
  | .operation c => c.store e "op"
  | .numericConstant c => c.store e "type"
  | .orbitalElement c => c.store e (OrbitReading.slot OrbitalElement)
  | .advancedOrbitalElement c => c.store e (OrbitReading.slot AdvancedOrbitalElement)
  | .stateVector c => c.store e (OrbitReading.slot StateVector)
  | .craftId c => (c.store e "type").rename NodeType.craftId.name
  | .planetInformation c => c.store e "info"
  | .comparison c => c.store e "op"
  | .transform c => c.store e "op"
  | .split => e
  | .unaryMath c => c.store e "op"

/-! ## Evaluation -/

/-- Whether an editor treats the node as one that gives a truth value. -/
def isBoolean : ExpressionNode → Bool
  | .constant v => v.isBool
  | .operation c => c.selected.any BinaryOperator.isBoolean
  | .planetInformation c => c.selected.any PlanetInformation.isBoolean
  | .comparison _ => true
  | .transform c => c.selected = some .isBlank
  | _ => false

/-- The value of an operator that was chosen; without one it is zero. -/
def applyOperator (c : Choice BinaryOperator) (left right : Value) : Value :=
  (c.selected.map fun op => op.apply left right).getD .zero

/-- The list of texts between the separators; blanks separate when no separator is given. -/
def splitText (text separators : String) : Value :=
  if separators.isEmpty then .list (Text.split Text.isBlank text)
  else .list (Text.split separators.toList.contains text)

/-- The value of a node, from the values of its children by position. Children are evaluated from
    left to right, and only those that the node uses. -/
def evaluate {m : Type → Type} [Monad m] (node : ExpressionNode) (world : World)
    (vars : Variables) (child : Nat → m Value) : m Value :=
  match node with
  | .constant v => pure v
  | .variable name => pure (vars.read name)
  | .operation c => do
    let left ← child 0
    let right ← child 1
    return applyOperator c left right
  | .numericConstant c => pure ((c.selected.map fun k => Value.number k.value).getD .zero)
  | .orbitalElement c => do return readOrbit c world (← child 0)
  | .advancedOrbitalElement c => do return readOrbit c world (← child 0)
  | .stateVector c => do return readOrbit c world (← child 0)
  | .craftId c => pure (readCraftId c world)
  | .planetInformation c => do return readPlanet c world (← child 0).toText
  | .comparison c => do
    let left ← child 0
    let right ← child 1
    return .bool (c.selected.any fun op => op.holds left.toText right.toText)
  | .transform c => do
    let input ← child 0
    return (c.selected.map fun t => t.apply input.toText).getD (.text "")
  | .split => do
    let text ← child 0
    let separators ← child 1
    return splitText text.toText separators.toText
  | .unaryMath c => do
    let input ← child 0
    return (c.selected.map fun f => Value.number (f.apply input.toNumber)).getD .zero

end ExpressionNode

end FlightBlocks
