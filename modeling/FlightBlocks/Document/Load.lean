import FlightBlocks.Document.Error
import FlightBlocks.Markup.Document
import FlightBlocks.Registry

/-!
Loading a program from an element.

The root is a `Program` with four kinds of sections; all other sections are passed over. An
instruction holds its expressions and at most one body, a chain of instructions named
`Instructions`; of several bodies the last one counts. Nodes are added in the order in which their
elements end, so that children come before their parents.
-/

namespace FlightBlocks.Document

open Markup (Element)

def programTag : String := "Program"
def instructionsTag : String := "Instructions"
def expressionsTag : String := "Expressions"
def customInstructionsTag : String := "CustomInstructions"
def customExpressionsTag : String := "CustomExpressions"

/-- The expression node that an element stands for. -/
def expressionNode (r : Registry) (e : Element) : Except LoadError ExpressionNode :=
  match r.create? e.name with
  | none => .error (.unknownNode e.name)
  | some (.instruction _) => .error (.wrongKind e.name .expression .instruction)
  | some (.expression node) => .ok (node.load e)

/-- The instruction node that an element stands for. -/
def instructionNode (r : Registry) (e : Element) : Except LoadError InstructionNode :=
  match r.create? e.name with
  | none => .error (.unknownNode e.name)
  | some (.expression _) => .error (.wrongKind e.name .instruction .expression)
  | some (.instruction node) => .ok (node.load e)

mutual

/-- Adds the expression of an element, its children before it. -/
def loadExpression (r : Registry) (p : Program) :
    Element → Except LoadError (ExpressionId × Program)
  | ⟨tag, attributes, children⟩ => do
    let node ← expressionNode r ⟨tag, attributes, children⟩
    let (ids, p) ← loadExpressions r p children
    return p.addExpression node ids

/-- Adds the expressions of some elements in order. -/
def loadExpressions (r : Registry) (p : Program) :
    List Element → Except LoadError (List ExpressionId × Program)
  | [] => .ok ([], p)
  | e :: rest => do
    let (id, p) ← loadExpression r p e
    let (ids, p) ← loadExpressions r p rest
    return (id :: ids, p)

end

/-- What an instruction holds: its expressions, and the beginning of its body. -/
structure Parts where
  expressions : List ExpressionId
  body : Option InstructionId

mutual

/-- Adds the instruction of an element, what it holds before it. -/
def loadInstruction (r : Registry) (p : Program) :
    Element → Except LoadError (InstructionId × Program)
  | ⟨tag, attributes, children⟩ => do
    let node ← instructionNode r ⟨tag, attributes, children⟩
    let (parts, p) ← loadParts r tag node.hasBody ⟨[], none⟩ p children
    return p.addInstruction node parts.expressions parts.body

/-- Adds what an instruction holds, from its remaining children. -/
def loadParts (r : Registry) (tag : String) (hasBody : Bool) (parts : Parts) (p : Program) :
    List Element → Except LoadError (Parts × Program)
  | [] => .ok (parts, p)
  | ⟨name, attributes, children⟩ :: rest =>
    if name = instructionsTag then
      if hasBody then do
        let (ids, p) ← loadInstructions r p children
        loadParts r tag hasBody { parts with body := ids.head? } (p.withChain ids) rest
      else .error (.unexpectedBody tag)
    else do
      let (id, p) ← loadExpression r p ⟨name, attributes, children⟩
      loadParts r tag hasBody { parts with expressions := parts.expressions ++ [id] } p rest

/-- Adds the instructions of some elements in order, not yet linked. -/
def loadInstructions (r : Registry) (p : Program) :
    List Element → Except LoadError (List InstructionId × Program)
  | [] => .ok ([], p)
  | e :: rest => do
    let (id, p) ← loadInstruction r p e
    let (ids, p) ← loadInstructions r p rest
    return (id :: ids, p)

end

/-- Adds a chain of instructions and gives the first one, if there is any. -/
def loadChain (r : Registry) (p : Program) (elements : List Element) :
    Except LoadError (Option InstructionId × Program) := do
  let (ids, p) ← loadInstructions r p elements
  return (ids.head?, p.withChain ids)

def expectName (e : Element) (expected : String) : Except LoadError Unit :=
  if e.name = expected then .ok () else .error (.unexpectedElement expected e.name)

/-- Adds the bodies of custom instructions. An empty one is left out. -/
def loadCustomInstructions (r : Registry) (p : Program) :
    List Element → Except LoadError Program
  | [] => .ok p
  | e :: rest => do
    expectName e instructionsTag
    let (head, p) ← loadChain r p e.children
    loadCustomInstructions r ((head.map p.addCustomInstruction).getD p) rest

/-- Adds a section of a program. -/
def loadSection (r : Registry) (p : Program) (e : Element) : Except LoadError Program :=
  if e.name = instructionsTag then do
    let (head, p) ← loadChain r p e.children
    return (head.map p.addRootInstruction).getD p
  else if e.name = expressionsTag then do
    let (ids, p) ← loadExpressions r p e.children
    return ids.foldl addRootExpression p
  else if e.name = customInstructionsTag then loadCustomInstructions r p e.children
  else if e.name = customExpressionsTag then do
    let (ids, p) ← loadExpressions r p e.children
    return ids.foldl addCustomExpression p
  else .ok p
where
  addRootExpression := Program.addRootExpression
  addCustomExpression := Program.addCustomExpression

/-- The program of an element. -/
def load (r : Registry) (root : Element) : Except LoadError Program := do
  expectName root programTag
  root.children.foldlM (loadSection r) (.empty ((root.attribute? "name").getD ""))

/-- The program of a text. -/
def parse (r : Registry) (text : String) : Except LoadError Program :=
  match Element.parse text with
  | .ok root => load r root
  | .error e => .error (.markup e)

end FlightBlocks.Document
