import FlightBlocks.Document.Load
import Mathlib.Tactic.SplitIfs
import Mathlib.Tactic.Tauto

/-!
# Elements that stand for nodes

`Occurrences.ofProgram` lists the elements of a program that stand for nodes, in the order in which they
end, and says of each whether it is kept: what stands in a body is not, when another body of the same
instruction comes behind it. Where each instruction has one body at most, everything is kept
(`Occurrences.kept_of_single`).
-/

namespace FlightBlocks

open Markup (Element)

namespace Document

/-- An element that stands for a node, and whether the program keeps what leads to the node. -/
structure Occurrence where
  element : Element
  kept : Bool

/-- The elements that stand for expressions and those that stand for instructions, in the order in which
    they end. -/
structure Occurrences where
  expressions : List Occurrence
  instructions : List Occurrence

/-- Whether an element inside of an instruction is its body. -/
def isBody (e : Element) : Bool := e.name = instructionsTag

/-- How many bodies an instruction has. -/
def bodies (e : Element) : Nat := e.children.countP isBody

namespace Occurrences

def none : Occurrences := ⟨[], []⟩

instance : Append Occurrences :=
  ⟨fun first more => ⟨first.expressions ++ more.expressions, first.instructions ++ more.instructions⟩⟩

def expression (e : Element) : Occurrences := ⟨[⟨e, true⟩], []⟩

def instruction (e : Element) : Occurrences := ⟨[], [⟨e, true⟩]⟩

/-- The same elements, none of which is kept. -/
def discard (o : Occurrences) : Occurrences :=
  ⟨o.expressions.map fun x => { x with kept := false }, o.instructions.map fun x => { x with kept := false }⟩

mutual

/-- An expression comes behind its children. -/
def ofExpression : Element → Occurrences
  | ⟨tag, attributes, children⟩ => ofExpressions children ++ expression ⟨tag, attributes, children⟩

def ofExpressions : List Element → Occurrences
  | [] => none
  | e :: rest => ofExpression e ++ ofExpressions rest

end

mutual

/-- An instruction comes behind what it holds. -/
def ofInstruction : Element → Occurrences
  | ⟨tag, attributes, children⟩ => ofParts children ++ instruction ⟨tag, attributes, children⟩

/-- What an instruction holds. A body is not kept when another one comes behind it. -/
def ofParts : List Element → Occurrences
  | [] => none
  | ⟨name, attributes, children⟩ :: rest =>
    if name = instructionsTag then
      (if rest.any isBody then (ofInstructions children).discard else ofInstructions children) ++ ofParts rest
    else ofExpression ⟨name, attributes, children⟩ ++ ofParts rest

def ofInstructions : List Element → Occurrences
  | [] => none
  | e :: rest => ofInstruction e ++ ofInstructions rest

end

def ofCustomInstructions : List Element → Occurrences
  | [] => none
  | e :: rest => ofInstructions e.children ++ ofCustomInstructions rest

/-- A section that no program has holds no nodes. -/
def ofSection (e : Element) : Occurrences :=
  if e.name = instructionsTag then ofInstructions e.children
  else if e.name = expressionsTag then ofExpressions e.children
  else if e.name = customInstructionsTag then ofCustomInstructions e.children
  else if e.name = customExpressionsTag then ofExpressions e.children
  else none

def ofSections : List Element → Occurrences
  | [] => none
  | e :: rest => ofSection e ++ ofSections rest

/-- The elements of a program that stand for nodes. -/
def ofProgram (root : Element) : Occurrences := ofSections root.children

/-- All of them, whatever they stand for. -/
def all (o : Occurrences) : List Occurrence := o.expressions ++ o.instructions

/-! ## Lists of occurrences -/

variable {o more : Occurrences} {x : Occurrence}

@[simp] theorem expressions_append (o more : Occurrences) :
    (o ++ more).expressions = o.expressions ++ more.expressions := rfl

@[simp] theorem instructions_append (o more : Occurrences) :
    (o ++ more).instructions = o.instructions ++ more.instructions := rfl

@[simp] theorem append_none (o : Occurrences) : o ++ none = o := by
  change (⟨o.expressions ++ [], o.instructions ++ []⟩ : Occurrences) = o
  simp

theorem append_assoc (o more rest : Occurrences) : o ++ more ++ rest = o ++ (more ++ rest) := by
  change (⟨_, _⟩ : Occurrences) = ⟨_, _⟩
  simp

@[simp] theorem not_mem_none : x ∉ none.all := List.not_mem_nil

@[simp] theorem mem_append : x ∈ (o ++ more).all ↔ x ∈ o.all ∨ x ∈ more.all := by
  simp only [all, expressions_append, instructions_append, List.mem_append]
  tauto

@[simp] theorem mem_expression {e : Element} : x ∈ (expression e).all ↔ x = ⟨e, true⟩ := by
  simp [all, expression]

@[simp] theorem mem_instruction {e : Element} : x ∈ (instruction e).all ↔ x = ⟨e, true⟩ := by
  simp [all, instruction]

/-! ## Instructions with one body -/

/-- Everything is kept. -/
def AllKept (o : Occurrences) : Prop := ∀ x ∈ o.all, x.kept = true

/-- No instruction has more than one body. -/
def Single (o : Occurrences) : Prop := ∀ x ∈ o.instructions, bodies x.element ≤ 1

theorem AllKept.append (first : o.AllKept) (second : more.AllKept) : (o ++ more).AllKept := by
  intro x member
  rcases mem_append.mp member with left | right
  · exact first x left
  · exact second x right

theorem allKept_none : none.AllKept := by simp [AllKept]

theorem Single.of_append (single : (o ++ more).Single) : o.Single ∧ more.Single :=
  List.forall_mem_append.mp single

mutual

theorem ofExpression_kept : ∀ (e : Element), (ofExpression e).AllKept
  | ⟨tag, attributes, children⟩ => by
    rw [ofExpression]
    exact (ofExpressions_kept children).append (by simp [AllKept])

theorem ofExpressions_kept : ∀ (es : List Element), (ofExpressions es).AllKept
  | [] => allKept_none
  | e :: rest => by
    rw [ofExpressions]
    exact (ofExpression_kept e).append (ofExpressions_kept rest)

end

mutual

theorem ofInstruction_kept : ∀ (e : Element), (ofInstruction e).Single → (ofInstruction e).AllKept
  | ⟨tag, attributes, children⟩, single => by
    rw [ofInstruction] at single ⊢
    obtain ⟨inside, itself⟩ := single.of_append
    have one : children.countP isBody ≤ 1 := itself ⟨⟨tag, attributes, children⟩, true⟩ (by simp [instruction])
    exact (ofParts_kept children one inside).append (by simp [AllKept])

theorem ofParts_kept : ∀ (es : List Element), es.countP isBody ≤ 1 → (ofParts es).Single → (ofParts es).AllKept
  | [], _, _ => by
    rw [ofParts]
    exact allKept_none
  | ⟨name, attributes, children⟩ :: rest, one, single => by
    rw [ofParts] at single ⊢
    rw [List.countP_cons] at one
    by_cases body : name = instructionsTag
    · have last : rest.any isBody = false := by
        have no_more : rest.countP isBody = 0 := by
          rw [if_pos (by simp [isBody, body])] at one
          omega
        simpa [List.countP_eq_zero] using no_more
      rw [if_pos body, last] at single ⊢
      obtain ⟨inside, behind⟩ := single.of_append
      exact (ofInstructions_kept children inside).append (ofParts_kept rest (by omega) behind)
    · rw [if_neg body] at single ⊢
      exact (ofExpression_kept _).append (ofParts_kept rest (by omega) single.of_append.2)

theorem ofInstructions_kept : ∀ (es : List Element), (ofInstructions es).Single → (ofInstructions es).AllKept
  | [], _ => by
    rw [ofInstructions]
    exact allKept_none
  | e :: rest, single => by
    rw [ofInstructions] at single ⊢
    obtain ⟨first, behind⟩ := single.of_append
    exact (ofInstruction_kept e first).append (ofInstructions_kept rest behind)

end

theorem ofCustomInstructions_kept (es : List Element) (single : (ofCustomInstructions es).Single) :
    (ofCustomInstructions es).AllKept := by
  induction es with
  | nil => exact allKept_none
  | cons e rest ih =>
    obtain ⟨first, behind⟩ := single.of_append
    exact (ofInstructions_kept _ first).append (ih behind)

theorem ofSection_kept (e : Element) (single : (ofSection e).Single) : (ofSection e).AllKept := by
  unfold ofSection at single ⊢
  split_ifs at single ⊢
  · exact ofInstructions_kept _ single
  · exact ofExpressions_kept _
  · exact ofCustomInstructions_kept _ single
  · exact ofExpressions_kept _
  · exact allKept_none

/-- Where no instruction has more than one body, everything is kept. -/
theorem kept_of_single {root : Element} (single : (ofProgram root).Single) : (ofProgram root).AllKept := by
  have sections : ∀ es : List Element, (ofSections es).Single → (ofSections es).AllKept := by
    intro es
    induction es with
    | nil => exact fun _ => allKept_none
    | cons e rest ih =>
      intro single
      obtain ⟨first, behind⟩ := single.of_append
      exact (ofSection_kept e first).append (ih behind)
  exact sections root.children single

end Occurrences

end Document

end FlightBlocks
