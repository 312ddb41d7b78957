import FlightBlocks.Program
import Mathlib.Data.List.Nodup
import Mathlib.Data.List.Perm.Subperm

/-!
# Links without sharing

In a program that was loaded no position is named twice, by links or by roots, and links keep an
order: children and bodies come before what holds them, and what follows comes behind. `Linked` says
so of a program under construction, where some positions are still open: nothing names them yet.
Each way of building a program keeps it, given that it names open positions only.
-/

namespace FlightBlocks

/-- The positions that the links of an instruction name. -/
def InstructionSlot.targets (slot : InstructionSlot) : List InstructionId :=
  slot.next.toList ++ slot.body.toList

theorem InstructionSlot.next_mem_targets {slot : InstructionSlot} {next : InstructionId}
    (has_next : slot.next = some next) : next ∈ slot.targets := by
  simp [targets, has_next]

theorem InstructionSlot.body_mem_targets {slot : InstructionSlot} {first : InstructionId}
    (has_body : slot.body = some first) : first ∈ slot.targets := by
  simp [targets, has_body]

namespace Program

/-- The expressions that links and roots name, each as often as it is named. -/
def expressionTargets (p : Program) : List ExpressionId :=
  p.expressions.toList.flatMap (·.children) ++ p.instructions.toList.flatMap (·.expressions) ++
    (p.rootExpressions ++ p.customExpressions)

/-- The instructions that links and roots name, each as often as it is named. -/
def instructionTargets (p : Program) : List InstructionId :=
  p.instructions.toList.flatMap InstructionSlot.targets ++ (p.rootInstructions ++ p.customInstructions)

end Program

/-- Different positions in a table of a size. -/
structure Distinct (ids : List Nat) (size : Nat) : Prop where
  nodup : ids.Nodup
  inside : ∀ id ∈ ids, id < size

namespace Distinct

theorem nil : Distinct [] 0 := ⟨List.nodup_nil, by simp⟩

theorem of_subperm {ids others : List Nat} {size : Nat} (h : Distinct others size) (sub : ids.Subperm others) :
    Distinct ids size := by
  obtain ⟨middle, perm, sublist⟩ := sub
  refine ⟨perm.nodup_iff.mp (sublist.nodup h.nodup), ?_⟩
  intro id member
  exact h.inside id (sublist.subset (perm.mem_iff.mpr member))

theorem of_count {ids others : List Nat} {size : Nat} (h : Distinct others size)
    (count : ∀ id, ids.count id ≤ others.count id) : Distinct ids size :=
  h.of_subperm (List.subperm_ext_iff.mpr fun id _ => count id)

/-- A table that grows by one has a new position at its end. -/
theorem push {ids : List Nat} {size : Nat} (h : Distinct ids size) : Distinct (size :: ids) (size + 1) := by
  refine ⟨List.nodup_cons.mpr ⟨fun member => Nat.lt_irrefl _ (h.inside _ member), h.nodup⟩, ?_⟩
  intro id member
  rcases List.mem_cons.mp member with rfl | old
  · exact Nat.lt_succ_self _
  · exact Nat.lt_succ_of_lt (h.inside id old)

end Distinct

/-- Links and roots name no position twice and none out of range, and they keep an order. Of
    expressions those in `openE`, of instructions those in `openI` are not named yet. -/
structure Program.Linked (p : Program) (openE : List ExpressionId) (openI : List InstructionId) : Prop where
  child_lt : ∀ {id : ExpressionId} {slot : ExpressionSlot} {child}, p.expressions[id]? = some slot → child ∈ slot.children → child < id
  body_lt : ∀ {id : InstructionId} {slot : InstructionSlot} {first}, p.instructions[id]? = some slot → slot.body = some first → first < id
  next_gt : ∀ {id : InstructionId} {slot : InstructionSlot} {next}, p.instructions[id]? = some slot → slot.next = some next → id < next
  expressions : Distinct (openE ++ p.expressionTargets) p.expressions.size
  instructions : Distinct (openI ++ p.instructionTargets) p.instructions.size

namespace Program

variable {p : Program} {openE : List ExpressionId} {openI : List InstructionId}

theorem linked_empty (name : String) : (empty name).Linked [] [] where
  child_lt := by simp [empty]
  body_lt := by simp [empty]
  next_gt := by simp [empty]
  expressions := .nil
  instructions := .nil

namespace Linked

/-! ## What is open -/

theorem of_subperm {otherE : List ExpressionId} {otherI : List InstructionId} (h : p.Linked openE openI)
    (subE : otherE.Subperm openE) (subI : otherI.Subperm openI) : p.Linked otherE otherI :=
  { h with
    expressions := h.expressions.of_subperm (List.subperm_append_right _ |>.mpr subE)
    instructions := h.instructions.of_subperm (List.subperm_append_right _ |>.mpr subI) }

/-! ## Ways of building -/

theorem addExpression {ids : List ExpressionId} (h : p.Linked (ids ++ openE) openI) (node : ExpressionNode) :
    (p.addExpression node ids).2.Linked ((p.addExpression node ids).1 :: openE) openI where
  child_lt := by
    intro id slot child at_id member
    simp only [Program.addExpression, Array.getElem?_push] at at_id
    split at at_id
    · rename_i last
      cases at_id
      rw [last]
      exact h.expressions.inside child (by simp [member])
    · exact h.child_lt at_id member
  body_lt := h.body_lt
  next_gt := h.next_gt
  expressions := by
    have grown := h.expressions.push
    simp only [Program.addExpression, Array.size_push]
    refine grown.of_count fun id => ?_
    simp only [expressionTargets, Array.toList_push, List.flatMap_append, List.flatMap_cons, List.flatMap_nil,
      List.count_append, List.count_cons, List.count_nil]
    omega
  instructions := h.instructions

theorem addInstruction {ids : List ExpressionId} {body : Option InstructionId}
    (h : p.Linked (ids ++ openE) (body.toList ++ openI)) (node : InstructionNode) :
    (p.addInstruction node ids body).2.Linked openE ((p.addInstruction node ids body).1 :: openI) where
  child_lt := h.child_lt
  body_lt := by
    intro id slot first at_id has_body
    simp only [Program.addInstruction, Array.getElem?_push] at at_id
    split at at_id
    · rename_i last
      cases at_id
      rw [last]
      exact h.instructions.inside first (by simp_all)
    · exact h.body_lt at_id has_body
  next_gt := by
    intro id slot next at_id has_next
    simp only [Program.addInstruction, Array.getElem?_push] at at_id
    split at at_id
    · cases at_id
      cases has_next
    · exact h.next_gt at_id has_next
  expressions := by
    refine h.expressions.of_count fun id => ?_
    simp only [Program.addInstruction, expressionTargets, Array.toList_push, List.flatMap_append,
      List.flatMap_cons, List.flatMap_nil, List.count_append, List.count_nil]
    omega
  instructions := by
    have grown := h.instructions.push
    simp only [Program.addInstruction, Array.size_push]
    refine grown.of_count fun id => ?_
    simp only [instructionTargets, InstructionSlot.targets, Array.toList_push, List.flatMap_append,
      List.flatMap_cons, List.flatMap_nil, List.count_append, List.count_cons, Option.toList_none,
      List.count_nil]
    omega

/-- Links of one row change no more than one entry in the targets of a whole table. -/
theorem count_flatMap_modify {α : Type} (xs : List α) (i : Nat) (change : α → α) (targets : α → List Nat)
    (id more : Nat) (one : ∀ x, (targets (change x)).count id ≤ (targets x).count id + more) :
    ((xs.modify i change).flatMap targets).count id ≤ (xs.flatMap targets).count id + more := by
  induction xs generalizing i with
  | nil => simp
  | cons x rest ih =>
    cases i with
    | zero =>
      have := one x
      simp only [List.modify_zero_cons, List.flatMap_cons, List.count_append]
      omega
    | succ i =>
      have := ih i
      simp only [List.modify_succ_cons, List.flatMap_cons, List.count_append]
      omega

theorem withNext {id next : InstructionId} (h : p.Linked openE (next :: openI)) (order : id < next) :
    (p.withNext id (some next)).Linked openE openI where
  child_lt := h.child_lt
  body_lt := by
    intro i slot first at_i has_body
    simp only [Program.withNext, Array.getElem?_modify] at at_i
    split at at_i
    · obtain ⟨old, at_old, rfl⟩ := Option.map_eq_some_iff.mp at_i
      exact h.body_lt at_old has_body
    · exact h.body_lt at_i has_body
  next_gt := by
    intro i slot following at_i has_next
    simp only [Program.withNext, Array.getElem?_modify] at at_i
    split at at_i
    · rename_i same
      obtain ⟨old, -, rfl⟩ := Option.map_eq_some_iff.mp at_i
      cases has_next
      rwa [← same]
    · exact h.next_gt at_i has_next
  expressions := by
    refine h.expressions.of_count fun e => ?_
    have := count_flatMap_modify p.instructions.toList id (fun slot => { slot with next := some next })
      (·.expressions) e 0 (by simp)
    simp only [expressionTargets, Program.withNext, Array.toList_modify, List.count_append]
    omega
  instructions := by
    simp only [Program.withNext, Array.size_modify]
    refine h.instructions.of_count fun i => ?_
    have := count_flatMap_modify p.instructions.toList id (fun slot => { slot with next := some next })
      InstructionSlot.targets i ([next].count i) (by
        intro slot
        simp only [InstructionSlot.targets, Option.toList_some, List.count_append]
        omega)
    simp only [instructionTargets, Array.toList_modify, List.count_append, List.count_cons,
      List.count_nil] at this ⊢
    omega

/-- Links a chain of open instructions whose positions ascend; the first one stays as it was. -/
theorem withChain {first : InstructionId} {rest : List InstructionId} (h : p.Linked openE (rest ++ openI))
    (ascending : (first :: rest).Pairwise (· < ·)) : (p.withChain (first :: rest)).Linked openE openI := by
  induction rest generalizing p first with
  | nil => exact h
  | cons second more ih =>
    obtain ⟨below, ascending⟩ := List.pairwise_cons.mp ascending
    have linked : (p.withNext first (some second)).Linked openE (more ++ openI) :=
      h.withNext (below second (by simp))
    exact ih linked ascending

theorem addRootInstruction {id : InstructionId} (h : p.Linked openE (id :: openI)) :
    (p.addRootInstruction id).Linked openE openI :=
  { h with
    instructions := h.instructions.of_count fun i => by
      simp only [Program.addRootInstruction, instructionTargets, List.count_append, List.count_cons,
        List.count_nil]
      omega }

theorem addCustomInstruction {id : InstructionId} (h : p.Linked openE (id :: openI)) :
    (p.addCustomInstruction id).Linked openE openI :=
  { h with
    instructions := h.instructions.of_count fun i => by
      simp only [Program.addCustomInstruction, instructionTargets, List.count_append, List.count_cons,
        List.count_nil]
      omega }

theorem addRootExpressions {ids : List ExpressionId} (h : p.Linked (ids ++ openE) openI) :
    (ids.foldl Program.addRootExpression p).Linked openE openI := by
  induction ids generalizing p with
  | nil => exact h
  | cons id rest ih =>
    refine ih { h with expressions := h.expressions.of_count fun e => ?_ }
    simp only [Program.addRootExpression, expressionTargets, List.count_append, List.count_cons,
      List.count_nil]
    omega

theorem addCustomExpressions {ids : List ExpressionId} (h : p.Linked (ids ++ openE) openI) :
    (ids.foldl Program.addCustomExpression p).Linked openE openI := by
  induction ids generalizing p with
  | nil => exact h
  | cons id rest ih =>
    refine ih { h with expressions := h.expressions.of_count fun e => ?_ }
    simp only [Program.addCustomExpression, expressionTargets, List.count_append, List.count_cons,
      List.count_nil]
    omega

/-! ## What is named once -/

/-- The expressions that an instruction uses are in the table. -/
theorem argument_lt (h : p.Linked openE openI) {id : InstructionId} {slot : InstructionSlot}
    (at_id : p.instructions[id]? = some slot) {e : ExpressionId} (member : e ∈ slot.expressions) :
    e < p.expressions.size := by
  have named : e ∈ p.instructions.toList.flatMap (·.expressions) :=
    List.mem_flatMap.mpr ⟨slot, Array.mem_toList_iff.mpr (Array.mem_of_getElem? at_id), member⟩
  exact h.expressions.inside e (by simp [expressionTargets, named])

theorem slot_of_target {id : InstructionId} {slot : InstructionSlot} {target : InstructionId}
    (h : p.Linked openE openI) (at_id : p.instructions[id]? = some slot) (member : target ∈ slot.targets) :
    ∃ other, p.instructions[target]? = some other := by
  have named : target ∈ p.instructions.toList.flatMap InstructionSlot.targets :=
    List.mem_flatMap.mpr ⟨slot, Array.mem_toList_iff.mpr (Array.mem_of_getElem? at_id), member⟩
  have inside := h.instructions.inside target (by simp [instructionTargets, named])
  exact ⟨_, Array.getElem?_eq_getElem inside⟩

theorem slot_of_root {id : InstructionId} (h : p.Linked openE openI)
    (root : id ∈ p.rootInstructions ++ p.customInstructions) : ∃ slot, p.instructions[id]? = some slot := by
  have inside := h.instructions.inside id (by
    rw [instructionTargets]
    exact List.mem_append_right _ (List.mem_append_right _ root))
  exact ⟨_, Array.getElem?_eq_getElem inside⟩

/-- No two instructions link to one. -/
theorem source_unique {i j : InstructionId} {slot other : InstructionSlot} {target : InstructionId}
    (h : p.Linked openE openI) (at_i : p.instructions[i]? = some slot) (at_j : p.instructions[j]? = some other)
    (left : target ∈ slot.targets) (right : target ∈ other.targets) : i = j := by
  have nodup := (List.nodup_append.mp (List.nodup_append.mp h.instructions.nodup).2.1).1
  have apart := List.pairwise_iff_getElem.mp (List.nodup_flatMap.mp nodup).2
  obtain ⟨inside_i, rfl⟩ := Array.getElem?_eq_some_iff.mp at_i
  obtain ⟨inside_j, rfl⟩ := Array.getElem?_eq_some_iff.mp at_j
  rcases Nat.lt_trichotomy i j with less | same | more
  · exact absurd right (apart i j inside_i inside_j less left)
  · exact same
  · exact absurd left (apart j i inside_j inside_i more right)

/-- What follows an instruction is not the beginning of its body. -/
theorem next_ne_body {id : InstructionId} {slot : InstructionSlot} {target : InstructionId}
    (h : p.Linked openE openI) (at_id : p.instructions[id]? = some slot) (follows : slot.next = some target) :
    slot.body ≠ some target := by
  intro begins
  exact Nat.lt_asymm (h.next_gt at_id follows) (h.body_lt at_id begins)

/-- No link leads to a root. -/
theorem root_not_target {id root : InstructionId} {slot : InstructionSlot} (h : p.Linked openE openI)
    (is_root : root ∈ p.rootInstructions ++ p.customInstructions) (at_id : p.instructions[id]? = some slot) :
    root ∉ slot.targets := by
  intro member
  have apart := (List.nodup_append.mp (List.nodup_append.mp h.instructions.nodup).2.1).2.2
  have named : root ∈ p.instructions.toList.flatMap InstructionSlot.targets :=
    List.mem_flatMap.mpr ⟨slot, Array.mem_toList_iff.mpr (Array.mem_of_getElem? at_id), member⟩
  exact apart root named root is_root rfl

end Linked

end Program

end FlightBlocks
