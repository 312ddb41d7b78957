import FlightBlocks.Node.Instruction

/-!
Programs: expressions and instructions in two tables, connected by their positions.

Nothing keeps a link from naming a position that the table does not have. Such a link does no harm
until it is followed.

Positions are natural numbers without a bound, and the position of a new node is the number of those
before it. Where positions are kept in 32 bits, that number is cut once a table has 2 ^ 32 entries;
programs of such a size are left out here.
-/

namespace FlightBlocks

/-- The position of an expression in its program. -/
abbrev ExpressionId := Nat

/-- The position of an instruction in its program. -/
abbrev InstructionId := Nat

/-- Why a link cannot be followed. -/
inductive BrokenLink where
  | noExpression (id : ExpressionId)
  | noInstruction (id : InstructionId)
  /-- The links run in a circle. -/
  | endless
  deriving DecidableEq, Repr

/-- An expression with its children, in order. -/
structure ExpressionSlot where
  node : ExpressionNode
  children : List ExpressionId
  deriving Repr

/-- An instruction with the expressions it uses, the instruction that follows it, and the first one
    of its body. -/
structure InstructionSlot where
  node : InstructionNode
  expressions : List ExpressionId
  next : Option InstructionId
  body : Option InstructionId
  deriving DecidableEq, Repr

/-- A program. The roots are the first instructions of its threads, free expressions, and the bodies
    of custom instructions and custom expressions. -/
structure Program where
  name : String
  expressions : Array ExpressionSlot := #[]
  instructions : Array InstructionSlot := #[]
  rootInstructions : List InstructionId := []
  rootExpressions : List ExpressionId := []
  customInstructions : List InstructionId := []
  customExpressions : List ExpressionId := []
  deriving Repr

namespace Program

/-- A program without nodes. -/
def empty (name : String) : Program := { name }

/-! ## Following links -/

def expression (p : Program) (id : ExpressionId) : Except BrokenLink ExpressionSlot :=
  match p.expressions[id]? with
  | some slot => .ok slot
  | none => .error (.noExpression id)

def instruction (p : Program) (id : InstructionId) : Except BrokenLink InstructionSlot :=
  match p.instructions[id]? with
  | some slot => .ok slot
  | none => .error (.noInstruction id)

/-! ## Building -/

/-- Adds an expression and gives its position. -/
def addExpression (p : Program) (node : ExpressionNode) (children : List ExpressionId) :
    ExpressionId × Program :=
  (p.expressions.size, { p with expressions := p.expressions.push ⟨node, children⟩ })

/-- Adds an instruction that nothing follows yet and gives its position. -/
def addInstruction (p : Program) (node : InstructionNode) (expressions : List ExpressionId)
    (body : Option InstructionId) : InstructionId × Program :=
  (p.instructions.size,
    { p with instructions := p.instructions.push ⟨node, expressions, none, body⟩ })

/-- Says which instruction follows another. A position without an instruction is left alone. -/
def withNext (p : Program) (id : InstructionId) (next : Option InstructionId) : Program :=
  { p with instructions := p.instructions.modify id fun slot => { slot with next } }

/-- Lets every instruction of a list be followed by the one after it. -/
def withChain (p : Program) : List InstructionId → Program
  | first :: second :: rest => (p.withNext first (some second)).withChain (second :: rest)
  | _ => p

/-- Says which instruction follows another, which has to be there. -/
def setNext (p : Program) (id : InstructionId) (next : Option InstructionId) :
    Except BrokenLink Program := do
  let _ ← p.instruction id
  return p.withNext id next

/-- Says where the body of an instruction begins, which has to be there. -/
def setBody (p : Program) (id : InstructionId) (body : Option InstructionId) :
    Except BrokenLink Program := do
  let _ ← p.instruction id
  return { p with instructions := p.instructions.modify id fun slot => { slot with body } }

/-- Links a list of instructions, all of which but the last have to be there. -/
def chain (p : Program) (ids : List InstructionId) : Except BrokenLink Program := do
  let _ ← ids.dropLast.mapM p.instruction
  return p.withChain ids

def addRootInstruction (p : Program) (id : InstructionId) : Program :=
  { p with rootInstructions := p.rootInstructions ++ [id] }

def addRootExpression (p : Program) (id : ExpressionId) : Program :=
  { p with rootExpressions := p.rootExpressions ++ [id] }

def addCustomInstruction (p : Program) (id : InstructionId) : Program :=
  { p with customInstructions := p.customInstructions ++ [id] }

def addCustomExpression (p : Program) (id : ExpressionId) : Program :=
  { p with customExpressions := p.customExpressions ++ [id] }

/-! ## Evaluation -/

/-- The value of an expression whose children are at most `depth` links deep. -/
def evaluateWithin (p : Program) (world : World) (vars : Variables) :
    (depth : Nat) → ExpressionId → Except BrokenLink Value
  | 0, _ => .error .endless
  | depth + 1, id => do
    let slot ← p.expression id
    slot.node.evaluate world vars fun i =>
      match slot.children[i]? with
      | some child => p.evaluateWithin world vars depth child
      | none => .ok .zero

/-- How many links a path may follow. A longer path meets a position twice. -/
def maxPath (p : Program) : Nat := p.expressions.size + 1

/-- The value of an expression. -/
def evaluate (p : Program) (world : World) (vars : Variables) (id : ExpressionId) :
    Except BrokenLink Value :=
  p.evaluateWithin world vars p.maxPath id

/-- The value of a child by its position in a list; a missing child counts as zero. -/
def evaluateChild (p : Program) (world : World) (vars : Variables)
    (children : List ExpressionId) (i : Nat) : Except BrokenLink Value :=
  match children[i]? with
  | some child => p.evaluate world vars child
  | none => .ok .zero

end Program

end FlightBlocks
