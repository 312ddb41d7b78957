import FlightBlocks.Document.Load
import Mathlib.Data.List.Forall2

/-!
# Programs as trees

A program keeps its nodes in tables and connects them by positions. Here the same program is a tree:
every node holds what it is connected to. `Document.read` takes the tree straight from an element,
and `Program.Holds` says that the tables of a program, read along the links, show a tree.

Positions are bounded by intervals: what an instruction holds lies below it, what follows it above.
So a tree that a program holds is finite, and a change above an interval leaves it alone.
-/

namespace FlightBlocks

open Markup (Element)

/-- An expression with its children. -/
structure ExpressionTree where
  node : ExpressionNode
  children : List ExpressionTree

/-- An instruction with its expressions and its body. -/
structure InstructionTree where
  node : InstructionNode
  expressions : List ExpressionTree
  body : List InstructionTree

/-- A program with everything below its roots. No chain in it is empty. -/
structure ProgramTree where
  name : String
  threads : List (List InstructionTree) := []
  expressions : List ExpressionTree := []
  customInstructions : List (List InstructionTree) := []
  customExpressions : List ExpressionTree := []

/-! ## Values -/

mutual

/-- The value of an expression; a missing child counts as zero. -/
def ExpressionTree.evaluate (world : World) (vars : Variables) : ExpressionTree → Value
  | ⟨node, children⟩ =>
    let values := evaluateAll world vars children
    Id.run (node.evaluate world vars fun i => pure (values[i]?.getD .zero))

def evaluateAll (world : World) (vars : Variables) : List ExpressionTree → List Value
  | [] => []
  | tree :: rest => tree.evaluate world vars :: evaluateAll world vars rest

end

/-- The value that an instruction works on. -/
def InstructionTree.argument (world : World) (vars : Variables) (tree : InstructionTree) : Value :=
  (tree.expressions.head?.map (·.evaluate world vars)).getD .zero

/-- A node whose children all have values has the value that it computes from these. -/
theorem ExpressionNode.evaluate_ok {ε : Type} (node : ExpressionNode) (world : World) (vars : Variables)
    {child : Nat → Except ε Value} {value : Nat → Value} (same : ∀ i, child i = .ok (value i)) :
    node.evaluate world vars child = .ok (Id.run (node.evaluate world vars fun i => pure (value i))) := by
  obtain rfl : child = fun i => .ok (value i) := funext same
  cases node <;> rfl

/-! ## Trees of elements -/

namespace Document

mutual

/-- The tree of an expression element. -/
def readExpression (r : Registry) : Element → Except LoadError ExpressionTree
  | ⟨tag, attributes, children⟩ => do
    let node ← expressionNode r ⟨tag, attributes, children⟩
    return ⟨node, ← readExpressions r children⟩

def readExpressions (r : Registry) : List Element → Except LoadError (List ExpressionTree)
  | [] => .ok []
  | e :: rest => do
    let tree ← readExpression r e
    return tree :: (← readExpressions r rest)

end

/-- What an instruction holds, as trees. -/
structure Held where
  expressions : List ExpressionTree
  body : List InstructionTree

mutual

/-- The tree of an instruction element. -/
def readInstruction (r : Registry) : Element → Except LoadError InstructionTree
  | ⟨tag, attributes, children⟩ => do
    let node ← instructionNode r ⟨tag, attributes, children⟩
    let held ← readHeld r tag node.hasBody ⟨[], []⟩ children
    return ⟨node, held.expressions, held.body⟩

/-- What an instruction holds, from its remaining children. A later body takes the place of an
    earlier one. -/
def readHeld (r : Registry) (tag : String) (hasBody : Bool) (held : Held) :
    List Element → Except LoadError Held
  | [] => .ok held
  | ⟨name, attributes, children⟩ :: rest =>
    if name = instructionsTag then
      if hasBody then do
        let body ← readInstructions r children
        readHeld r tag hasBody { held with body } rest
      else .error (.unexpectedBody tag)
    else do
      let tree ← readExpression r ⟨name, attributes, children⟩
      readHeld r tag hasBody { held with expressions := held.expressions ++ [tree] } rest

def readInstructions (r : Registry) : List Element → Except LoadError (List InstructionTree)
  | [] => .ok []
  | e :: rest => do
    let tree ← readInstruction r e
    return tree :: (← readInstructions r rest)

end

/-- Chains without the empty ones. -/
def nonempty (chain : List InstructionTree) : List (List InstructionTree) :=
  if chain.isEmpty then [] else [chain]

/-- The chains of the elements of custom instructions. -/
def readCustomInstructions (r : Registry) : List Element → Except LoadError (List (List InstructionTree))
  | [] => .ok []
  | e :: rest => do
    expectName e instructionsTag
    let chain ← readInstructions r e.children
    return nonempty chain ++ (← readCustomInstructions r rest)

/-- The four kinds of sections have four names. -/
theorem sectionTags_ne :
    (instructionsTag ≠ expressionsTag ∧ instructionsTag ≠ customInstructionsTag ∧
      instructionsTag ≠ customExpressionsTag) ∧
    (expressionsTag ≠ instructionsTag ∧ expressionsTag ≠ customInstructionsTag ∧
      expressionsTag ≠ customExpressionsTag) ∧
    (customInstructionsTag ≠ instructionsTag ∧ customInstructionsTag ≠ expressionsTag ∧
      customInstructionsTag ≠ customExpressionsTag) ∧
    (customExpressionsTag ≠ instructionsTag ∧ customExpressionsTag ≠ expressionsTag ∧
      customExpressionsTag ≠ customInstructionsTag) := by
  decide

/-- Adds the trees of a section. -/
def readSection (r : Registry) (t : ProgramTree) (e : Element) : Except LoadError ProgramTree :=
  if e.name = instructionsTag then do
    return { t with threads := t.threads ++ nonempty (← readInstructions r e.children) }
  else if e.name = expressionsTag then do
    return { t with expressions := t.expressions ++ (← readExpressions r e.children) }
  else if e.name = customInstructionsTag then do
    return { t with customInstructions := t.customInstructions ++ (← readCustomInstructions r e.children) }
  else if e.name = customExpressionsTag then do
    return { t with customExpressions := t.customExpressions ++ (← readExpressions r e.children) }
  else .ok t

/-- The tree of a program element. -/
def read (r : Registry) (root : Element) : Except LoadError ProgramTree := do
  expectName root programTag
  root.children.foldlM (readSection r) { name := (root.attribute? "name").getD "" }

end Document

/-! ## Trees in the tables of a program -/

namespace Program

mutual

/-- The expression at a position, with everything below it, is a tree. -/
def HoldsExpression (p : Program) (id : ExpressionId) : ExpressionTree → Prop
  | ⟨node, children⟩ => ∃ ids, p.expressions[id]? = some ⟨node, ids⟩ ∧ (∀ child ∈ ids, child < id) ∧
      p.HoldsExpressions ids children

def HoldsExpressions (p : Program) (ids : List ExpressionId) : List ExpressionTree → Prop
  | [] => ids = []
  | tree :: rest => ∃ id others, ids = id :: others ∧ p.HoldsExpression id tree ∧ p.HoldsExpressions others rest

end

mutual

/-- The instruction at a position is a tree, what it holds lies at positions from `low` on and below
    it, and `next` follows it. -/
def HoldsInstruction (p : Program) (low id : Nat) (next : Option InstructionId) : InstructionTree → Prop
  | ⟨node, expressions, body⟩ => ∃ ids first, p.instructions[id]? = some ⟨node, ids, next, first⟩ ∧
      p.HoldsExpressions ids expressions ∧ p.HoldsChain low id first body

/-- The chain from `head` on is a list of trees, at positions from `low` on and below `high`. -/
def HoldsChain (p : Program) (low high : Nat) (head : Option InstructionId) : List InstructionTree → Prop
  | [] => head = none
  | tree :: rest => ∃ (id : Nat) (next : Option InstructionId), head = some id ∧ low ≤ id ∧ id < high ∧
      p.HoldsInstruction low id next tree ∧ p.HoldsChain (id + 1) high next rest

end

/-- The chain from `head` on is a list of trees. -/
def Holds (p : Program) (head : Option InstructionId) (chain : List InstructionTree) : Prop :=
  p.HoldsChain 0 p.instructions.size head chain

/-- A program shows a tree: each list of roots that of the tree, and no root is without a tree. -/
structure Shows (p : Program) (t : ProgramTree) : Prop where
  name : p.name = t.name
  threads : List.Forall₂ (fun id chain => p.Holds (some id) chain) p.rootInstructions t.threads
  expressions : List.Forall₂ p.HoldsExpression p.rootExpressions t.expressions
  customInstructions :
    List.Forall₂ (fun id chain => p.Holds (some id) chain) p.customInstructions t.customInstructions
  customExpressions : List.Forall₂ p.HoldsExpression p.customExpressions t.customExpressions

end Program

end FlightBlocks
