/-!
The types of program nodes.
-/

namespace FlightBlocks

/-- Where in a program a node may stand. -/
inductive NodeKind where
  | expression
  | instruction
  deriving DecidableEq, Repr

/-- Who supplies a type of nodes. -/
inductive Origin where
  /-- The language itself. -/
  | host
  /-- The extension to it. -/
  | extension
  deriving DecidableEq, Repr

inductive NodeType where
  | constant
  | variable
  | operation
  | setVariable
  | log
  | branch
  | loop
  | breakLoop
  | numericConstant
  | orbitalElement
  | advancedOrbitalElement
  | stateVector
  | craftId
  | planetInformation
  | comparison
  | transform
  | split
  | unaryMath
  | continueLoop
  deriving DecidableEq, Repr

namespace NodeType

/-- The types that the language itself supplies. -/
def hostTypes : List NodeType :=
  [.constant, .variable, .operation, .setVariable, .log, .branch, .loop, .breakLoop]

/-- The types that the extension supplies. -/
def extensionTypes : List NodeType :=
  [.numericConstant, .orbitalElement, .advancedOrbitalElement, .stateVector, .craftId,
   .planetInformation, .comparison, .transform, .split, .unaryMath, .continueLoop]

def all : List NodeType := hostTypes ++ extensionTypes

theorem mem_all (type : NodeType) : type ∈ all := by
  cases type <;> decide

/-- The name of a type, which is also the tag that its nodes are saved under by default. -/
def name : NodeType → String
  | .constant => "Constant"
  | .variable => "Variable"
  | .operation => "BinaryOp"
  | .setVariable => "SetVariable"
  | .log => "Log"
  | .branch => "If"
  | .loop => "While"
  | .breakLoop => "Break"
  | .numericConstant => "NumericConstant"
  | .orbitalElement => "OrbitalElement"
  | .advancedOrbitalElement => "AdvancedOrbitalElement"
  | .stateVector => "CartesianStateVector"
  | .craftId => "GetCraftId"
  | .planetInformation => "AdvancedPlanetInformation"
  | .comparison => "StringComparison"
  | .transform => "UnaryStringTransform"
  | .split => "Split"
  | .unaryMath => "AdvancedUnaryMath"
  | .continueLoop => "Continue"

def ofName? (name : String) : Option NodeType := all.find? fun t => t.name = name

def kind : NodeType → NodeKind
  | .setVariable | .log | .branch | .loop | .breakLoop | .continueLoop => .instruction
  | _ => .expression

def origin (type : NodeType) : Origin :=
  if type ∈ hostTypes then .host else .extension

end NodeType

end FlightBlocks
