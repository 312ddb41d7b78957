import FlightBlocks.Document.Load
import FlightBlocks.Markup.Render

/-!
Saving a program as an element.

Every thread is a section of its own, and the other three sections are always there, in a fixed
order. A body is written behind the expressions of its instruction.
-/

namespace FlightBlocks.Document

open Markup (Element)

/-- Follows a link, so that a broken one is a reason not to save. -/
def follow {α : Type} : Except BrokenLink α → Except SaveError α
  | .ok a => .ok a
  | .error link => .error (.broken link)

/-- An element under the tag of a type. -/
def tagged (r : Registry) (type : NodeType) : Except SaveError Element :=
  match r.tag? type with
  | some tag => .ok (.named tag)
  | none => .error (.unregistered type)

/-- The element of an expression whose children are at most `depth` links deep. -/
def saveExpression (r : Registry) (p : Program) :
    (depth : Nat) → ExpressionId → Except SaveError Element
  | 0, _ => .error (.broken .endless)
  | depth + 1, id => do
    let slot ← follow (p.expression id)
    let e ← tagged r slot.node.type
    let children ← slot.children.mapM (saveExpression r p depth)
    let e := slot.node.save e
    return { e with children }

/-- The element of an expression of the program. -/
def saveRoot (r : Registry) (p : Program) (id : ExpressionId) : Except SaveError Element :=
  saveExpression r p (p.expressions.size + 1) id

/-- The elements of an instruction and of those that follow it, where bodies and followers are at
    most `depth` links away. -/
def saveFrom (r : Registry) (p : Program) :
    (depth : Nat) → InstructionId → Except SaveError (List Element)
  | 0, _ => .error (.broken .endless)
  | depth + 1, id => do
    let slot ← follow (p.instruction id)
    let e ← tagged r slot.node.type
    let expressions ← slot.expressions.mapM (saveRoot r p)
    let body ← match slot.node.hasBody, slot.body with
      | true, some first => do
        let elements ← saveFrom r p depth first
        pure [Element.mk instructionsTag [] elements]
      | _, _ => pure []
    let rest ← match slot.next with
      | some next => saveFrom r p depth next
      | none => pure []
    let e := slot.node.save e
    return { e with children := expressions ++ body } :: rest

/-- The chain of instructions that begins at one. -/
def saveChain (r : Registry) (p : Program) (head : InstructionId) : Except SaveError Element := do
  return ⟨instructionsTag, [], ← saveFrom r p (p.instructions.size + 1) head⟩

/-- The element of a program. -/
def save (r : Registry) (p : Program) : Except SaveError Element := do
  let threads ← p.rootInstructions.mapM (saveChain r p)
  let expressions ← p.rootExpressions.mapM (saveRoot r p)
  let customInstructions ← p.customInstructions.mapM (saveChain r p)
  let customExpressions ← p.customExpressions.mapM (saveRoot r p)
  let sections :=
    [⟨expressionsTag, [], expressions⟩, ⟨customInstructionsTag, [], customInstructions⟩,
     ⟨customExpressionsTag, [], customExpressions⟩]
  return ⟨programTag, [("name", p.name)], threads ++ sections⟩

/-- The text of a program. -/
def render (r : Registry) (p : Program) : Except SaveError String :=
  (save r p).map Element.toXml

end FlightBlocks.Document
