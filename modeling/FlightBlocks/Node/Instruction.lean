import FlightBlocks.Node.Expression

/-!
Instruction nodes: their configuration and how it is saved. What they do is said with the thread
that runs them.
-/

namespace FlightBlocks

inductive InstructionNode where
  | setVariable (name : String)
  | log
  | branch
  | loop
  | breakLoop
  | continueLoop
  deriving DecidableEq, Repr

namespace InstructionNode

def type : InstructionNode → NodeType
  | .setVariable _ => .setVariable
  | .log => .log
  | .branch => .branch
  | .loop => .loop
  | .breakLoop => .breakLoop
  | .continueLoop => .continueLoop

/-- Whether a body may be nested in the instruction. -/
def hasBody : InstructionNode → Bool
  | .branch | .loop => true
  | _ => false

/-- Whether a jump out of a body or back to its beginning stops here. -/
def stopsBreak : InstructionNode → Bool
  | .loop => true
  | _ => false

def load (e : Markup.Element) : InstructionNode → InstructionNode
  | .setVariable _ => .setVariable ((e.attribute? variableSlot).getD "")
  | node => node

def save (e : Markup.Element) : InstructionNode → Markup.Element
  | .setVariable name => e.set variableSlot name
  | _ => e

end InstructionNode

/-! ## Nodes of either kind -/

inductive Node where
  | expression (node : ExpressionNode)
  | instruction (node : InstructionNode)
  deriving Repr

namespace Node

def type : Node → NodeType
  | .expression node => node.type
  | .instruction node => node.type

def kind : Node → NodeKind
  | .expression _ => .expression
  | .instruction _ => .instruction

def load (e : Markup.Element) : Node → Node
  | .expression node => .expression (node.load e)
  | .instruction node => .instruction (node.load e)

def save (e : Markup.Element) : Node → Markup.Element
  | .expression node => node.save e
  | .instruction node => node.save e

end Node

namespace NodeType

/-- A fresh node. Comparisons and transforms begin with a choice, all others without one. -/
def fresh : NodeType → Node
  | .constant => .expression (.constant .zero)
  | .variable => .expression (.variable "")
  | .operation => .expression (.operation .unset)
  | .numericConstant => .expression (.numericConstant .unset)
  | .orbitalElement => .expression (.orbitalElement .unset)
  | .advancedOrbitalElement => .expression (.advancedOrbitalElement .unset)
  | .stateVector => .expression (.stateVector .unset)
  | .craftId => .expression (.craftId .unset)
  | .planetInformation => .expression (.planetInformation .unset)
  | .comparison => .expression (.comparison (.ofKey (Selectable.keyOf Comparison.equals)))
  | .transform => .expression (.transform (.ofKey (Selectable.keyOf Transform.toLower)))
  | .split => .expression .split
  | .unaryMath => .expression (.unaryMath .unset)
  | .setVariable => .instruction (.setVariable "")
  | .log => .instruction .log
  | .branch => .instruction .branch
  | .loop => .instruction .loop
  | .breakLoop => .instruction .breakLoop
  | .continueLoop => .instruction .continueLoop

/-- A node with a key: the choice of a node with a list, or the name of a variable. Other nodes have
    no use for it. -/
def withKey (type : NodeType) (key : String) : Node :=
  match type.fresh with
  | .expression (.variable _) => .expression (.variable key)
  | .expression node => .expression (node.choose key)
  | .instruction (.setVariable _) => .instruction (.setVariable key)
  | .instruction node => .instruction node

theorem type_fresh (type : NodeType) : type.fresh.type = type := by
  cases type <;> rfl

theorem kind_fresh (type : NodeType) : type.fresh.kind = type.kind := by
  cases type <;> rfl

end NodeType

end FlightBlocks
