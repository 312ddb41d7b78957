import FlightBlocks.Usage
import Mathlib.Data.PFun

/-!
Searching for nodes of the extension with stacks.

A search need not call itself. A scanner keeps the positions that it still has to look at on two stacks, one of
instructions and one of expressions, and takes one position after another off them. The expressions of each
instruction are searched on the same stack as those of any other, which is emptied first. Such a search has no value
where it never ends.
-/

namespace FlightBlocks

/-- The positions to look at, the next one first. -/
structure Scanner where
  instructionStack : List InstructionId := []
  expressionStack : List ExpressionId := []

/-- What a scanner does. -/
abbrev Scan (α : Type) := StateT Scanner (ExceptT BrokenLink Part) α

/-- What comes of a turn: the loop ends with a result or an error, or it goes on from another state. -/
def Scan.outcome {α : Type} :
    Except BrokenLink (Option α × Scanner) → Except BrokenLink (α × Scanner) ⊕ Scanner
  | .error e => .inl (.error e)
  | .ok (some a, s) => .inl (.ok (a, s))
  | .ok (none, s) => .inr s

/-- Takes turns until one of them has a result. -/
def Scan.loop {α : Type} (turn : Scan (Option α)) : Scan α :=
  fun s => PFun.fix (fun s => (turn.run s).run.map outcome) s

namespace Scanner

def pushInstruction (s : Scanner) (id : InstructionId) : Scanner :=
  { s with instructionStack := id :: s.instructionStack }

def pushExpression (s : Scanner) (id : ExpressionId) : Scanner := { s with expressionStack := id :: s.expressionStack }

/-- Pushes the last one first, so that the first one comes next. -/
def pushInstructions (s : Scanner) (ids : List InstructionId) : Scanner := ids.reverse.foldl pushInstruction s

/-- Pushes the last one first, so that the first one comes next. -/
def pushExpressions (s : Scanner) (ids : List ExpressionId) : Scanner := ids.reverse.foldl pushExpression s

end Scanner

namespace Program

/-- Looks at the next expression. The search ends with a node of the extension, or with nothing when the stack is
    empty. -/
def scanExpression (p : Program) : Scan (Option (Option ExtensionUse)) := do
  match (← get).expressionStack with
  | [] => return some none
  | id :: rest =>
    modify fun s => { s with expressionStack := rest }
    let slot ← p.expression id
    if slot.node.type.origin = .extension then return some (some (.expression id))
    else
      modify fun s => s.pushExpressions slot.children
      return none

/-- The first node of the extension among some expressions and those below them. -/
def scanExpressions (p : Program) (roots : List ExpressionId) : Scan (Option ExtensionUse) := do
  modify fun s => { s with expressionStack := [] }.pushExpressions roots
  p.scanExpression.loop

/-- Looks at the next instruction and at all its expressions. -/
def scanInstruction (p : Program) : Scan (Option (Option ExtensionUse)) := do
  match (← get).instructionStack with
  | [] => return some none
  | id :: rest =>
    modify fun s => { s with instructionStack := rest }
    let slot ← p.instruction id
    if slot.node.type.origin = .extension then return some (some (.instruction id))
    else match ← p.scanExpressions slot.expressions with
      | some found => return some (some found)
      | none =>
        -- What follows is pushed first, so that the body comes before it.
        modify fun s : Scanner => slot.next.elim s s.pushInstruction
        if slot.node.hasBody then modify fun s : Scanner => slot.body.elim s s.pushInstruction
        return none

/-- The first node of the extension among some instructions, what they hold and what follows them. -/
def scanInstructions (p : Program) (roots : List InstructionId) : Scan (Option ExtensionUse) := do
  modify fun s => { s with instructionStack := [] }.pushInstructions roots
  p.scanInstruction.loop

/-- The first node of the extension below some roots. -/
def scanFrom (p : Program) (threads : List InstructionId) (expressions customExpressions : List ExpressionId)
    (customInstructions : List InstructionId) : Scan (Option ExtensionUse) := do
  match ← p.scanInstructions threads with
  | some found => return some found
  | none => match ← p.scanExpressions expressions with
    | some found => return some found
    | none => match ← p.scanExpressions customExpressions with
      | some found => return some found
      | none => p.scanInstructions customInstructions

/-- The first node of the extension in a program. -/
def scanExtension (p : Program) : ExceptT BrokenLink Part (Option ExtensionUse) :=
  (p.scanFrom p.rootInstructions p.rootExpressions p.customExpressions p.customInstructions).run' {}

/-- Whether the extension is used below some roots. -/
def scanUsage (p : Program) (threads : List InstructionId) (expressions customExpressions : List ExpressionId)
    (customInstructions : List InstructionId) : ExceptT BrokenLink Part Bool :=
  Option.isSome <$> (p.scanFrom threads expressions customExpressions customInstructions).run' {}

end Program

end FlightBlocks
