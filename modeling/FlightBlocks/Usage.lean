import FlightBlocks.Program

/-!
Whether a program uses nodes of the extension.

The search goes through threads, then free expressions, then the bodies of custom expressions, then
those of custom instructions. It meets an instruction before its expressions, these before its
body, and the body before the instruction that follows.
-/

namespace FlightBlocks

/-- A node of the extension by its position. -/
inductive ExtensionUse where
  | expression (id : ExpressionId)
  | instruction (id : InstructionId)
  deriving DecidableEq, Repr

namespace Program

/-- The first node of the extension among an expression and those below it, at most `depth` links
    deep. -/
def findInExpression (p : Program) :
    (depth : Nat) → ExpressionId → Except BrokenLink (Option ExtensionUse)
  | 0, _ => .error .endless
  | depth + 1, id => do
    let slot ← p.expression id
    if slot.node.type.origin = .extension then return some (.expression id)
    else slot.children.findSomeM? (p.findInExpression depth)

/-- The first node of the extension among some expressions. -/
def findInExpressions (p : Program) (ids : List ExpressionId) :
    Except BrokenLink (Option ExtensionUse) :=
  ids.findSomeM? (p.findInExpression (p.expressions.size + 1))

/-- The first node of the extension among an instruction, what it holds and what follows it, at most
    `depth` links away. -/
def findInInstruction (p : Program) :
    (depth : Nat) → InstructionId → Except BrokenLink (Option ExtensionUse)
  | 0, _ => .error .endless
  | depth + 1, id => do
    let slot ← p.instruction id
    if slot.node.type.origin = .extension then return some (.instruction id)
    else match ← p.findInExpressions slot.expressions with
      | some found => return some found
      | none =>
        let body := if slot.node.hasBody then slot.body else none
        (body.toList ++ slot.next.toList).findSomeM? (p.findInInstruction depth)

/-- The first node of the extension among some instructions. -/
def findInInstructions (p : Program) (ids : List InstructionId) :
    Except BrokenLink (Option ExtensionUse) :=
  ids.findSomeM? (p.findInInstruction (p.instructions.size + 1))

/-- The first node of the extension below some roots. -/
def findExtensionFrom (p : Program) (threads : List InstructionId)
    (expressions customExpressions : List ExpressionId)
    (customInstructions : List InstructionId) : Except BrokenLink (Option ExtensionUse) := do
  match ← p.findInInstructions threads with
  | some found => return some found
  | none => match ← p.findInExpressions expressions with
    | some found => return some found
    | none => match ← p.findInExpressions customExpressions with
      | some found => return some found
      | none => p.findInInstructions customInstructions

/-- The first node of the extension in a program. -/
def findExtension (p : Program) : Except BrokenLink (Option ExtensionUse) :=
  p.findExtensionFrom p.rootInstructions p.rootExpressions p.customExpressions
    p.customInstructions

/-- Whether a program uses the extension. -/
def usesExtension (p : Program) : Except BrokenLink Bool :=
  p.findExtension.map Option.isSome

end Program

end FlightBlocks
