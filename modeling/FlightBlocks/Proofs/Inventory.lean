import FlightBlocks.Proofs.Occurrences
import FlightBlocks.Proofs.Settled
import Mathlib.Algebra.Order.Group.Multiset
import Mathlib.Tactic.Abel

/-!
# The nodes that are kept

The nodes of a tree that was read are those of the elements that are kept, each as often as it occurs
(`Document.read_nodes`).
-/

namespace FlightBlocks

open Markup (Element)

namespace Document.Occurrences

/-! ## The nodes that are kept -/

/-- The elements of a list that are kept. -/
def keptIn (xs : List Occurrence) : List Element := (xs.filter (·.kept)).map (·.element)

/-- What the elements that are kept are made to, each as often as it occurs. -/
def nodes (r : Registry) (o : Occurrences) : Multiset (Except LoadError Node) :=
  ↑((keptIn o.expressions).map fun e => (expressionNode r e).map Node.expression) +
    ↑((keptIn o.instructions).map fun e => (instructionNode r e).map Node.instruction)

@[simp] theorem nodes_none (r : Registry) : none.nodes r = 0 := rfl

@[simp] theorem nodes_append (r : Registry) (o more : Occurrences) :
    (o ++ more).nodes r = o.nodes r + more.nodes r := by
  simp only [nodes, keptIn, expressions_append, instructions_append, List.filter_append, List.map_append,
    ← Multiset.coe_add]
  exact add_add_add_comm _ _ _ _

@[simp] theorem nodes_discard (r : Registry) (o : Occurrences) : o.discard.nodes r = 0 := by
  have dropped : ∀ xs : List Occurrence, keptIn (xs.map fun x => { x with kept := false }) = [] := by
    intro xs
    simp [keptIn, List.filter_map, Function.comp_def]
  simp [nodes, discard, dropped]

theorem nodes_expression {r : Registry} {e : Element} {node : ExpressionNode} (made : expressionNode r e = .ok node) :
    (expression e).nodes r = {.ok (.expression node)} := by
  simp [nodes, keptIn, expression, made, Except.map]

theorem nodes_instruction {r : Registry} {e : Element} {node : InstructionNode}
    (made : instructionNode r e = .ok node) : (instruction e).nodes r = {.ok (.instruction node)} := by
  simp [nodes, keptIn, instruction, made, Except.map]

end Document.Occurrences

/-! ## The nodes of a tree -/

mutual

def ExpressionTree.nodes : ExpressionTree → Multiset Node
  | ⟨node, children⟩ => expressionNodes children + {.expression node}

def expressionNodes : List ExpressionTree → Multiset Node
  | [] => 0
  | tree :: rest => tree.nodes + expressionNodes rest

end

mutual

def InstructionTree.nodes : InstructionTree → Multiset Node
  | ⟨node, expressions, body⟩ => expressionNodes expressions + instructionNodes body + {.instruction node}

def instructionNodes : List InstructionTree → Multiset Node
  | [] => 0
  | tree :: rest => tree.nodes + instructionNodes rest

end

/-- The nodes of a program, each as often as it occurs. -/
def ProgramTree.nodes (t : ProgramTree) : Multiset Node :=
  (t.threads.map instructionNodes).sum + expressionNodes t.expressions +
    (t.customInstructions.map instructionNodes).sum + expressionNodes t.customExpressions

theorem expressionNodes_append (trees more : List ExpressionTree) :
    expressionNodes (trees ++ more) = expressionNodes trees + expressionNodes more := by
  induction trees with
  | nil => simp [expressionNodes]
  | cons tree rest ih => simp [expressionNodes, ih, add_assoc]

theorem instructionNodes_nonempty (chain : List InstructionTree) :
    ((Document.nonempty chain).map instructionNodes).sum = instructionNodes chain := by
  cases chain <;> simp [Document.nonempty, instructionNodes]

/-! ### Good nodes -/

@[simp] theorem Node.type_expression (node : ExpressionNode) : (Node.expression node).type = node.type := rfl

@[simp] theorem Node.type_instruction (node : InstructionNode) : (Node.instruction node).type = node.type := rfl

section Good

variable {good : NodeType → Prop}

mutual

theorem ExpressionTree.every_iff : ∀ (tree : ExpressionTree),
    tree.Every (good ·.type) ↔ ∀ node ∈ tree.nodes, good node.type
  | ⟨node, children⟩ => by
    rw [ExpressionTree.Every, ExpressionTree.nodes, everyExpression_iff children]
    simp [or_imp, forall_and, and_comm]

theorem everyExpression_iff : ∀ (trees : List ExpressionTree),
    EveryExpression (good ·.type) trees ↔ ∀ node ∈ expressionNodes trees, good node.type
  | [] => by simp [EveryExpression, expressionNodes]
  | tree :: rest => by
    rw [EveryExpression, expressionNodes, ExpressionTree.every_iff tree, everyExpression_iff rest]
    simp [or_imp, forall_and]

end

mutual

theorem InstructionTree.every_iff : ∀ (tree : InstructionTree),
    tree.Every (good ·.node.type) (good ·.type) ↔ ∀ node ∈ tree.nodes, good node.type
  | ⟨node, expressions, body⟩ => by
    rw [InstructionTree.Every, InstructionTree.nodes, everyExpression_iff expressions, everyInstruction_iff body]
    simp only [Multiset.mem_add, or_imp, forall_and, Multiset.mem_singleton, forall_eq, Node.type_instruction]
    rw [and_comm]

theorem everyInstruction_iff : ∀ (trees : List InstructionTree),
    EveryInstruction (good ·.node.type) (good ·.type) trees ↔ ∀ node ∈ instructionNodes trees, good node.type
  | [] => by simp [EveryInstruction, instructionNodes]
  | tree :: rest => by
    rw [EveryInstruction, instructionNodes, InstructionTree.every_iff tree, everyInstruction_iff rest]
    simp [or_imp, forall_and]

end

theorem everyChain_iff (chains : List (List InstructionTree)) :
    (∀ chain ∈ chains, EveryInstruction (good ·.node.type) (good ·.type) chain) ↔
      ∀ node ∈ (chains.map instructionNodes).sum, good node.type := by
  induction chains with
  | nil => simp
  | cons chain rest ih =>
    rw [List.forall_mem_cons, ih, everyInstruction_iff]
    simp [or_imp, forall_and]

/-- All nodes in a tree are good when those are that it consists of. -/
theorem ProgramTree.every_iff {t : ProgramTree} :
    t.Every (good ·.node.type) (good ·.type) ↔ ∀ node ∈ t.nodes, good node.type := by
  simp only [ProgramTree.nodes, Multiset.mem_add, or_imp, forall_and, ← everyChain_iff, ← everyExpression_iff]
  constructor
  · rintro ⟨threads, expressions, customInstructions, customExpressions⟩
    exact ⟨⟨⟨threads, expressions⟩, customInstructions⟩, customExpressions⟩
  · rintro ⟨⟨⟨threads, expressions⟩, customInstructions⟩, customExpressions⟩
    exact ⟨threads, expressions, customInstructions, customExpressions⟩

end Good

namespace Document

variable {r : Registry}

/-! ## The nodes that are read -/

mutual

theorem readExpression_nodes : ∀ (e : Element) {tree : ExpressionTree}, readExpression r e = .ok tree →
    (Occurrences.ofExpression e).nodes r = tree.nodes.map .ok
  | ⟨tag, attributes, children⟩, tree, reads => by
    unfold readExpression at reads
    obtain ⟨node, made, reads⟩ := bind_ok_iff.mp reads
    obtain ⟨trees, below, reads⟩ := bind_ok_iff.mp reads
    cases reads
    rw [Occurrences.ofExpression, Occurrences.nodes_append, readExpressions_nodes children below,
      Occurrences.nodes_expression made, ExpressionTree.nodes, Multiset.map_add, Multiset.map_singleton]

theorem readExpressions_nodes : ∀ (es : List Element) {trees : List ExpressionTree}, readExpressions r es = .ok trees →
    (Occurrences.ofExpressions es).nodes r = (expressionNodes trees).map .ok
  | [], _, reads => by
    cases reads
    rfl
  | e :: rest, trees, reads => by
    unfold readExpressions at reads
    obtain ⟨tree, first, reads⟩ := bind_ok_iff.mp reads
    obtain ⟨others, more, reads⟩ := bind_ok_iff.mp reads
    cases reads
    rw [Occurrences.ofExpressions, Occurrences.nodes_append, readExpression_nodes e first,
      readExpressions_nodes rest more, expressionNodes, Multiset.map_add]

end

mutual

theorem readInstruction_nodes : ∀ (e : Element) {tree : InstructionTree}, readInstruction r e = .ok tree →
    (Occurrences.ofInstruction e).nodes r = tree.nodes.map .ok
  | ⟨tag, attributes, children⟩, tree, reads => by
    unfold readInstruction at reads
    obtain ⟨node, made, reads⟩ := bind_ok_iff.mp reads
    obtain ⟨held, below, reads⟩ := bind_ok_iff.mp reads
    cases reads
    have parts := readHeld_nodes tag node.hasBody children below
    simp only [expressionNodes, instructionNodes, Multiset.map_zero, ite_self, zero_add] at parts
    rw [Occurrences.ofInstruction, Occurrences.nodes_append, parts, Occurrences.nodes_instruction made,
      InstructionTree.nodes, Multiset.map_add, Multiset.map_add, Multiset.map_add, Multiset.map_singleton]

/-- Of the body that was read so far nothing is left when another one comes. -/
theorem readHeld_nodes (tag : String) (hasBody : Bool) : ∀ (es : List Element) {held after : Held},
    readHeld r tag hasBody held es = .ok after →
    (expressionNodes held.expressions).map .ok +
        (if es.any isBody then 0 else (instructionNodes held.body).map .ok) + (Occurrences.ofParts es).nodes r =
      (expressionNodes after.expressions + instructionNodes after.body).map .ok
  | [], held, _, reads => by
    cases reads
    simp [Occurrences.ofParts]
  | ⟨name, attributes, children⟩ :: rest, held, after, reads => by
    unfold readHeld at reads
    unfold Occurrences.ofParts
    by_cases body : name = instructionsTag
    · rw [if_pos body] at reads
      cases hasBody with
      | false => cases reads
      | true =>
        obtain ⟨trees, inside, reads⟩ := bind_ok_iff.mp reads
        have more := readHeld_nodes tag true rest reads
        have replaced : List.any (⟨name, attributes, children⟩ :: rest) isBody = true := by simp [isBody, body]
        rw [if_pos replaced, if_pos body, Occurrences.nodes_append, ← more]
        split
        · rw [Occurrences.nodes_discard]
          abel
        · rw [readInstructions_nodes children inside]
          abel
    · rw [if_neg body] at reads
      obtain ⟨tree, first, reads⟩ := bind_ok_iff.mp reads
      have more := readHeld_nodes tag hasBody rest reads
      have no_body : isBody ⟨name, attributes, children⟩ = false := by simpa [isBody] using body
      rw [expressionNodes_append, Multiset.map_add] at more
      rw [if_neg body, List.any_cons, no_body, Bool.false_or, Occurrences.nodes_append, readExpression_nodes _ first,
        ← more]
      simp only [expressionNodes, add_zero]
      abel

theorem readInstructions_nodes : ∀ (es : List Element) {trees : List InstructionTree},
    readInstructions r es = .ok trees → (Occurrences.ofInstructions es).nodes r = (instructionNodes trees).map .ok
  | [], _, reads => by
    unfold readInstructions at reads
    cases reads
    rfl
  | e :: rest, trees, reads => by
    unfold readInstructions at reads
    obtain ⟨tree, first, reads⟩ := bind_ok_iff.mp reads
    obtain ⟨others, more, reads⟩ := bind_ok_iff.mp reads
    cases reads
    rw [Occurrences.ofInstructions, Occurrences.nodes_append, readInstruction_nodes e first,
      readInstructions_nodes rest more, instructionNodes, Multiset.map_add]

end

theorem readCustomInstructions_nodes (es : List Element) {chains : List (List InstructionTree)}
    (reads : readCustomInstructions r es = .ok chains) :
    (Occurrences.ofCustomInstructions es).nodes r = (chains.map instructionNodes).sum.map .ok := by
  induction es generalizing chains with
  | nil =>
    cases reads
    rfl
  | cons e rest ih =>
    unfold readCustomInstructions at reads
    obtain ⟨-, -, reads⟩ := bind_ok_iff.mp reads
    obtain ⟨trees, below, reads⟩ := bind_ok_iff.mp reads
    obtain ⟨others, more, reads⟩ := bind_ok_iff.mp reads
    cases reads
    rw [Occurrences.ofCustomInstructions, Occurrences.nodes_append, readInstructions_nodes _ below, ih more,
      List.map_append, List.sum_append, instructionNodes_nonempty, Multiset.map_add]

theorem readSection_nodes (e : Element) {t after : ProgramTree} (reads : readSection r t e = .ok after) :
    t.nodes.map .ok + (Occurrences.ofSection e).nodes r = after.nodes.map .ok := by
  unfold readSection at reads
  unfold Occurrences.ofSection
  by_cases thread : e.name = instructionsTag
  · rw [if_pos thread] at reads
    obtain ⟨trees, below, reads⟩ := bind_ok_iff.mp reads
    cases reads
    rw [if_pos thread, readInstructions_nodes _ below, ← Multiset.map_add]
    simp only [ProgramTree.nodes, List.map_append, List.sum_append, instructionNodes_nonempty]
    congr 1
    abel
  rw [if_neg thread] at reads ⊢
  by_cases free : e.name = expressionsTag
  · rw [if_pos free] at reads
    obtain ⟨trees, below, reads⟩ := bind_ok_iff.mp reads
    cases reads
    rw [if_pos free, readExpressions_nodes _ below, ← Multiset.map_add]
    simp only [ProgramTree.nodes, expressionNodes_append]
    congr 1
    abel
  rw [if_neg free] at reads ⊢
  by_cases custom : e.name = customInstructionsTag
  · rw [if_pos custom] at reads
    obtain ⟨chains, below, reads⟩ := bind_ok_iff.mp reads
    cases reads
    rw [if_pos custom, readCustomInstructions_nodes _ below, ← Multiset.map_add]
    simp only [ProgramTree.nodes, List.map_append, List.sum_append]
    congr 1
    abel
  rw [if_neg custom] at reads ⊢
  by_cases customExpression : e.name = customExpressionsTag
  · rw [if_pos customExpression] at reads
    obtain ⟨trees, below, reads⟩ := bind_ok_iff.mp reads
    cases reads
    rw [if_pos customExpression, readExpressions_nodes _ below, ← Multiset.map_add]
    simp only [ProgramTree.nodes, expressionNodes_append]
    congr 1
    abel
  · rw [if_neg customExpression] at reads
    cases reads
    simp [customExpression]

/-- The nodes of the tree that was read are those of the elements that are kept. -/
theorem read_nodes {root : Element} {t : ProgramTree} (reads : read r root = .ok t) :
    (Occurrences.ofProgram root).nodes r = t.nodes.map .ok := by
  obtain ⟨-, -, reads⟩ := bind_ok_iff.mp reads
  have all := foldlM_invariant (fun es t => t.nodes.map .ok + (Occurrences.ofSections es).nodes r =
    (Occurrences.ofProgram root).nodes r) ?_ ?_ reads
  · simpa [Occurrences.ofSections] using all.symm
  · intro e rest t after sum first
    rw [← sum, Occurrences.ofSections, Occurrences.nodes_append, ← add_assoc, readSection_nodes e first]
  · exact zero_add _

theorem Occurrences.mem_nodes {o : Occurrences} {made : Except LoadError Node} : made ∈ o.nodes r ↔
    (∃ x ∈ o.expressions, x.kept = true ∧ (expressionNode r x.element).map .expression = made) ∨
      ∃ x ∈ o.instructions, x.kept = true ∧ (instructionNode r x.element).map .instruction = made := by
  simp only [nodes, keptIn, Multiset.mem_add, Multiset.mem_coe, List.mem_map, List.mem_filter]
  constructor
  · rintro (⟨_, ⟨x, ⟨member, kept⟩, rfl⟩, same⟩ | ⟨_, ⟨x, ⟨member, kept⟩, rfl⟩, same⟩)
    · exact .inl ⟨x, member, kept, same⟩
    · exact .inr ⟨x, member, kept, same⟩
  · rintro (⟨x, member, kept, same⟩ | ⟨x, member, kept, same⟩)
    · exact .inl ⟨_, ⟨x, ⟨member, kept⟩, rfl⟩, same⟩
    · exact .inr ⟨_, ⟨x, ⟨member, kept⟩, rfl⟩, same⟩

/-- The types of the nodes that are kept are good when those are that the tags of their elements stand for. -/
theorem Occurrences.nodes_good_iff {good : NodeType → Prop} {o : Occurrences} {nodes : Multiset Node}
    (same : o.nodes r = nodes.map .ok) : (∀ node ∈ nodes, good node.type) ↔
      ∀ x ∈ o.all, x.kept = true → ∃ type, r.type? x.element.name = some type ∧ good type := by
  have made_ok : ∀ made ∈ o.nodes r, ∃ node ∈ nodes, .ok node = made := by
    rw [same]
    exact fun _ => Multiset.mem_map.mp
  constructor
  · intro all_good x member kept
    rcases List.mem_append.mp member with expression | instruction
    · obtain ⟨node, inside, made⟩ := made_ok _ (mem_nodes.mpr (.inl ⟨x, expression, kept, rfl⟩))
      obtain ⟨found, loads, rfl⟩ := map_ok_iff.mp made.symm
      exact ⟨_, expressionNode_type loads, all_good _ inside⟩
    · obtain ⟨node, inside, made⟩ := made_ok _ (mem_nodes.mpr (.inr ⟨x, instruction, kept, rfl⟩))
      obtain ⟨found, loads, rfl⟩ := map_ok_iff.mp made.symm
      exact ⟨_, instructionNode_type loads, all_good _ inside⟩
  · intro stands node member
    have made : .ok node ∈ o.nodes r := by
      rw [same]
      exact Multiset.mem_map_of_mem _ member
    rcases mem_nodes.mp made with ⟨x, expression, kept, made⟩ | ⟨x, instruction, kept, made⟩
    · obtain ⟨type, found, is_good⟩ := stands x (List.mem_append_left _ expression) kept
      obtain ⟨_, loads, rfl⟩ := map_ok_iff.mp made
      rw [expressionNode_type loads] at found
      cases found
      exact is_good
    · obtain ⟨type, found, is_good⟩ := stands x (List.mem_append_right _ instruction) kept
      obtain ⟨_, loads, rfl⟩ := map_ok_iff.mp made
      rw [instructionNode_type loads] at found
      cases found
      exact is_good

end Document

end FlightBlocks
