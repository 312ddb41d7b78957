import FlightBlocks.Proofs.Frames
import FlightBlocks.Proofs.Requirement
import FlightBlocks.Proofs.Saving

/-!
# The order of a program that was loaded

Loading adds nodes in the order in which their elements end and links them afterwards, so that the tables of the
program are in an order (`Program.InOrder`): children and bodies come before what holds them, what follows comes
behind, and nothing is named twice. An instruction is given its id when it is added; in the end this id is its
position in the table (`Document.load_assembled`).

Whatever follows links relies on this order. Expressions have values, a search ends, saving never ends at a
broken link whatever tags there are (`Document.save_unbroken`), and no step of a thread that begins at a root
fails (`loaded_in_order`).
-/

namespace FlightBlocks

open Markup (Element)

/-! ## Building a program -/

namespace Program

/-- How a program is put together, with the ids that its instructions were given when they were added, in the
    order of the table. -/
inductive Assembled : List InstructionId → Program → Prop where
  | empty (name : String) : Assembled [] (.empty name)
  | addExpression {ids : List InstructionId} {p : Program} (before : Assembled ids p) (node : ExpressionNode)
      (children : List ExpressionId) : Assembled ids (p.addExpression node children).2
  | addInstruction {ids : List InstructionId} {p : Program} (before : Assembled ids p) (node : InstructionNode)
      (expressions : List ExpressionId) (body : Option InstructionId) :
      Assembled (ids ++ [(p.addInstruction node expressions body).1]) (p.addInstruction node expressions body).2
  | withNext {ids : List InstructionId} {p : Program} (before : Assembled ids p) (id : InstructionId)
      (next : Option InstructionId) : Assembled ids (p.withNext id next)
  | addRootInstruction {ids : List InstructionId} {p : Program} (before : Assembled ids p) (id : InstructionId) :
      Assembled ids (p.addRootInstruction id)
  | addRootExpression {ids : List InstructionId} {p : Program} (before : Assembled ids p) (id : ExpressionId) :
      Assembled ids (p.addRootExpression id)
  | addCustomInstruction {ids : List InstructionId} {p : Program} (before : Assembled ids p) (id : InstructionId) :
      Assembled ids (p.addCustomInstruction id)
  | addCustomExpression {ids : List InstructionId} {p : Program} (before : Assembled ids p) (id : ExpressionId) :
      Assembled ids (p.addCustomExpression id)

/-- The ids that were given are the positions of the table. -/
theorem Assembled.ids_eq {ids : List InstructionId} {p : Program} (assembled : Assembled ids p) :
    ids = List.range p.instructions.size := by
  induction assembled with
  | empty => rfl
  | addInstruction _ node expressions body ih =>
    simp only [Program.addInstruction, Array.size_push, List.range_succ, ih]
  | withNext _ id next ih => simpa [Program.withNext] using ih
  | addExpression _ _ _ ih => exact ih
  | addRootInstruction _ _ ih => exact ih
  | addRootExpression _ _ ih => exact ih
  | addCustomInstruction _ _ ih => exact ih
  | addCustomExpression _ _ ih => exact ih

/-- The program was put together in some way. -/
def IsAssembled (p : Program) : Prop := ∃ ids, Assembled ids p

namespace IsAssembled

variable {p : Program}

theorem withChain (assembled : p.IsAssembled) (row : List InstructionId) : (p.withChain row).IsAssembled := by
  fun_induction Program.withChain p row with
  | case1 p first second rest ih =>
    obtain ⟨ids, assembled⟩ := assembled
    exact ih ⟨ids, assembled.withNext first (some second)⟩
  | case2 => exact assembled

/-- A root that is added if there is one. -/
theorem root {add : InstructionId → Program} (assembled : p.IsAssembled) (adds : ∀ id, (add id).IsAssembled)
    (head : Option InstructionId) : ((head.map add).getD p).IsAssembled := by
  cases head with
  | none => exact assembled
  | some id => exact adds id

/-- Roots that are added one after the other. -/
theorem roots {add : Program → ExpressionId → Program}
    (adds : ∀ q id, q.IsAssembled → (add q id).IsAssembled) (assembled : p.IsAssembled) (es : List ExpressionId) :
    (es.foldl add p).IsAssembled := by
  induction es generalizing p with
  | nil => exact assembled
  | cons e rest ih => exact ih (adds p e assembled)

theorem addRootInstruction (assembled : p.IsAssembled) (id : InstructionId) :
    (p.addRootInstruction id).IsAssembled := by
  obtain ⟨ids, built⟩ := assembled
  exact ⟨ids, built.addRootInstruction id⟩

theorem addCustomInstruction (assembled : p.IsAssembled) (id : InstructionId) :
    (p.addCustomInstruction id).IsAssembled := by
  obtain ⟨ids, built⟩ := assembled
  exact ⟨ids, built.addCustomInstruction id⟩

theorem addRootExpression (assembled : p.IsAssembled) (id : ExpressionId) : (p.addRootExpression id).IsAssembled := by
  obtain ⟨ids, built⟩ := assembled
  exact ⟨ids, built.addRootExpression id⟩

theorem addCustomExpression (assembled : p.IsAssembled) (id : ExpressionId) :
    (p.addCustomExpression id).IsAssembled := by
  obtain ⟨ids, built⟩ := assembled
  exact ⟨ids, built.addCustomExpression id⟩

end IsAssembled

end Program

/-! ## Loading builds a program -/

namespace Document

variable {r : Registry}

mutual

theorem loadExpression_assembled : ∀ (e : Element) {p q : Program} {id : ExpressionId}, p.IsAssembled →
    loadExpression r p e = .ok (id, q) → q.IsAssembled
  | ⟨tag, attributes, children⟩, p, q, id, assembled, loads => by
    unfold loadExpression at loads
    obtain ⟨node, -, loads⟩ := bind_ok_iff.mp loads
    obtain ⟨⟨below, s⟩, inside, loads⟩ := bind_ok_iff.mp loads
    obtain ⟨ids, built⟩ := loadExpressions_assembled children assembled inside
    cases loads
    exact ⟨ids, built.addExpression node below⟩

theorem loadExpressions_assembled : ∀ (es : List Element) {p q : Program} {ids : List ExpressionId}, p.IsAssembled →
    loadExpressions r p es = .ok (ids, q) → q.IsAssembled
  | [], p, q, ids, assembled, loads => by
    cases loads
    exact assembled
  | e :: rest, p, q, ids, assembled, loads => by
    unfold loadExpressions at loads
    obtain ⟨⟨id, s⟩, first, loads⟩ := bind_ok_iff.mp loads
    obtain ⟨⟨others, s'⟩, more, loads⟩ := bind_ok_iff.mp loads
    cases loads
    exact loadExpressions_assembled rest (loadExpression_assembled e assembled first) more

end

mutual

theorem loadInstruction_assembled : ∀ (e : Element) {p q : Program} {id : InstructionId}, p.IsAssembled →
    loadInstruction r p e = .ok (id, q) → q.IsAssembled
  | ⟨tag, attributes, children⟩, p, q, id, assembled, loads => by
    unfold loadInstruction at loads
    obtain ⟨node, -, loads⟩ := bind_ok_iff.mp loads
    obtain ⟨⟨parts, s⟩, inside, loads⟩ := bind_ok_iff.mp loads
    obtain ⟨ids, built⟩ := loadParts_assembled tag node.hasBody children assembled inside
    cases loads
    exact ⟨_, built.addInstruction node parts.expressions parts.body⟩

theorem loadParts_assembled (tag : String) (hasBody : Bool) : ∀ (es : List Element) {p q : Program}
    {parts parts' : Parts}, p.IsAssembled → loadParts r tag hasBody parts p es = .ok (parts', q) → q.IsAssembled
  | [], p, q, parts, parts', assembled, loads => by
    unfold loadParts at loads
    cases loads
    exact assembled
  | ⟨name, attributes, children⟩ :: rest, p, q, parts, parts', assembled, loads => by
    unfold loadParts at loads
    by_cases body : name = instructionsTag
    · rw [if_pos body] at loads
      cases hasBody with
      | false => cases loads
      | true =>
        obtain ⟨⟨row, s⟩, inside, loads⟩ := bind_ok_iff.mp loads
        have linked := (loadInstructions_assembled children assembled inside).withChain row
        exact loadParts_assembled tag true rest linked loads
    · rw [if_neg body] at loads
      obtain ⟨⟨id, s⟩, first, loads⟩ := bind_ok_iff.mp loads
      exact loadParts_assembled tag hasBody rest (loadExpression_assembled _ assembled first) loads

theorem loadInstructions_assembled : ∀ (es : List Element) {p q : Program} {row : List InstructionId},
    p.IsAssembled → loadInstructions r p es = .ok (row, q) → q.IsAssembled
  | [], p, q, row, assembled, loads => by
    unfold loadInstructions at loads
    cases loads
    exact assembled
  | e :: rest, p, q, row, assembled, loads => by
    unfold loadInstructions at loads
    obtain ⟨⟨id, s⟩, first, loads⟩ := bind_ok_iff.mp loads
    obtain ⟨⟨others, s'⟩, more, loads⟩ := bind_ok_iff.mp loads
    cases loads
    exact loadInstructions_assembled rest (loadInstruction_assembled e assembled first) more

end

variable {p q : Program}

theorem loadChain_assembled (es : List Element) {head : Option InstructionId} (assembled : p.IsAssembled)
    (loads : loadChain r p es = .ok (head, q)) : q.IsAssembled := by
  obtain ⟨⟨row, s⟩, inside, loads⟩ := bind_ok_iff.mp loads
  cases loads
  exact (loadInstructions_assembled es assembled inside).withChain row

theorem loadCustomInstructions_assembled (es : List Element) (assembled : p.IsAssembled)
    (loads : loadCustomInstructions r p es = .ok q) : q.IsAssembled := by
  induction es generalizing p with
  | nil =>
    cases loads
    exact assembled
  | cons e rest ih =>
    unfold loadCustomInstructions at loads
    obtain ⟨_, -, loads⟩ := bind_ok_iff.mp loads
    obtain ⟨⟨head, s⟩, chain, loads⟩ := bind_ok_iff.mp loads
    have first := loadChain_assembled e.children assembled chain
    exact ih (first.root first.addCustomInstruction head) loads

theorem loadSection_assembled {e : Element} (assembled : p.IsAssembled) (loads : loadSection r p e = .ok q) :
    q.IsAssembled := by
  unfold loadSection at loads
  split_ifs at loads
  · obtain ⟨⟨head, s⟩, chain, loads⟩ := bind_ok_iff.mp loads
    cases loads
    have first := loadChain_assembled _ assembled chain
    exact first.root first.addRootInstruction head
  · obtain ⟨⟨ids, s⟩, inside, loads⟩ := bind_ok_iff.mp loads
    cases loads
    have added := loadExpressions_assembled _ assembled inside
    exact .roots (fun _ id before => before.addRootExpression id) added ids
  · exact loadCustomInstructions_assembled _ assembled loads
  · obtain ⟨⟨ids, s⟩, inside, loads⟩ := bind_ok_iff.mp loads
    cases loads
    have added := loadExpressions_assembled _ assembled inside
    exact .roots (fun _ id before => before.addCustomExpression id) added ids
  · cases loads
    exact assembled

/-- In a program that was loaded the instructions were given their positions as ids. -/
theorem load_assembled {root : Element} (loads : load r root = .ok p) :
    Program.Assembled (List.range p.instructions.size) p := by
  unfold load at loads
  obtain ⟨_, -, loads⟩ := bind_ok_iff.mp loads
  have begins : (Program.empty ((root.attribute? "name").getD "")).IsAssembled := ⟨[], .empty _⟩
  obtain ⟨ids, assembled⟩ : p.IsAssembled :=
    foldlM_invariant (fun _ q => q.IsAssembled) (fun before adds => loadSection_assembled before adds) begins loads
  exact assembled.ids_eq ▸ assembled

end Document

/-! ## The order -/

namespace Program

/-- The tables of a program are in order, and nothing is named twice by links and roots. -/
structure InOrder (p : Program) : Prop where
  children : ∀ {id : ExpressionId} {slot : ExpressionSlot}, p.expressions[id]? = some slot →
    ∀ child ∈ slot.children, child < id
  arguments : ∀ {id : InstructionId} {slot : InstructionSlot}, p.instructions[id]? = some slot →
    ∀ e ∈ slot.expressions, e < p.expressions.size
  body : ∀ {id : InstructionId} {slot : InstructionSlot}, p.instructions[id]? = some slot →
    ∀ first ∈ slot.body, first < id
  next : ∀ {id : InstructionId} {slot : InstructionSlot}, p.instructions[id]? = some slot →
    ∀ next ∈ slot.next, id < next ∧ next < p.instructions.size
  roots : ∀ x ∈ p.roots, p.HasPosition x
  expressions_once : p.expressionTargets.Nodup
  instructions_once : p.instructionTargets.Nodup

theorem Linked.inOrder {p : Program} (h : p.Linked [] []) : p.InOrder where
  children at_id child member := h.child_lt at_id member
  arguments at_id e member := h.argument_lt at_id member
  body at_id first begins := h.body_lt at_id begins
  next at_id next follows := by
    obtain ⟨_, at_next⟩ := h.slot_of_target at_id (InstructionSlot.next_mem_targets follows)
    exact ⟨h.next_gt at_id follows, (Array.getElem?_eq_some_iff.mp at_next).1⟩
  roots := by
    intro x member
    cases x with
    | expression id => exact h.expressions.inside id (by simp_all [roots, expressionTargets])
    | instruction id => exact h.instructions.inside id (by simp_all [roots, instructionTargets])
  expressions_once := h.expressions.nodup
  instructions_once := h.instructions.nodup

end Program

/-! ## Saving without broken links -/

namespace Document

/-- A computation does not end at a broken link. -/
def Unbroken {α : Type} (m : Except SaveError α) : Prop := ∀ link, m ≠ .error (.broken link)

theorem unbroken_ok {α : Type} (a : α) : Unbroken (.ok a) := nofun

theorem Unbroken.bind {α β : Type} {m : Except SaveError α} {f : α → Except SaveError β} (first : Unbroken m)
    (next : ∀ a, m = .ok a → Unbroken (f a)) : Unbroken (m >>= f) := by
  cases m with
  | error e =>
    intro link same
    cases same
    exact first link rfl
  | ok a => exact next a rfl

theorem unbroken_mapM {α β : Type} {f : α → Except SaveError β} {xs : List α} (each : ∀ x ∈ xs, Unbroken (f x)) :
    Unbroken (xs.mapM f) := by
  induction xs with
  | nil => exact unbroken_ok []
  | cons x rest ih =>
    obtain ⟨first, more⟩ := List.forall_mem_cons.mp each
    rw [List.mapM_cons]
    refine first.bind fun y _ => ?_
    exact (ih more).bind fun ys _ => unbroken_ok (y :: ys)

theorem tagged_unbroken (r : Registry) (type : NodeType) : Unbroken (tagged r type) := by
  unfold tagged
  cases r.tag? type <;> exact nofun

variable {r : Registry} {p : Program} {openE : List ExpressionId} {openI : List InstructionId}

/-- Children come before their parents, so that no path down is longer than the position it begins at. -/
theorem saveExpression_unbroken (h : p.Linked openE openI) {depth id : Nat} (below : id < depth)
    (inside : id < p.expressions.size) : Unbroken (saveExpression r p depth id) := by
  induction depth generalizing id with
  | zero => exact absurd below (Nat.not_lt_zero _)
  | succ depth ih =>
    have at_id : p.expressions[id]? = some p.expressions[id] := Array.getElem?_eq_getElem inside
    have children : ∀ child ∈ p.expressions[id].children, Unbroken (saveExpression r p depth child) := by
      intro child member
      have less : child < id := h.child_lt at_id member
      exact ih (Nat.lt_of_lt_of_le less (Nat.lt_succ_iff.mp below)) (Nat.lt_trans less inside)
    rw [saveExpression, follow_expression at_id]
    refine (unbroken_ok p.expressions[id]).bind fun slot same => ?_
    cases same
    refine (tagged_unbroken r _).bind fun e _ => ?_
    exact (unbroken_mapM children).bind fun es _ => unbroken_ok _

theorem saveRoot_unbroken (h : p.Linked openE openI) {id : ExpressionId} (inside : id < p.expressions.size) :
    Unbroken (saveRoot r p id) := saveExpression_unbroken h (Nat.lt_succ_of_lt inside) inside

/-- A chain is saved as it is searched: the positions from `low` to `high` bound how far links lead. -/
theorem saveFrom_unbroken (h : p.Linked openE openI) : ∀ {depth low high id : Nat} (trees : List InstructionTree),
    high ≤ low + depth → p.HoldsChain low high (some id) trees → Unbroken (saveFrom r p depth id)
  | _, _, _, _, [], _, holds => by cases holds
  | 0, low, high, id, _ :: _, room, ⟨_, _, _, above, below, _⟩ => by omega
  | depth + 1, low, high, id, ⟨node, expressions, body⟩ :: rest, room, holds => by
    obtain ⟨_, next, same, above, below, ⟨ids, first, at_id, -, inside⟩, more⟩ := holds
    cases same
    have nested : Unbroken (saveBody r p depth ⟨node, ids, next, first⟩) := by
      unfold saveBody
      split
      · rename_i start _ begins
        have begins : first = some start := begins
        subst begins
        have body_unbroken : Unbroken (saveFrom r p depth start) := saveFrom_unbroken h body (by omega) inside
        exact body_unbroken.bind fun es _ => unbroken_ok _
      · exact unbroken_ok []
    have follows : Unbroken (saveNext r p depth ⟨node, ids, next, first⟩) := by
      unfold saveNext
      split
      · rename_i following begins
        have begins : next = some following := begins
        subst begins
        exact saveFrom_unbroken h rest (by omega) more
      · exact unbroken_ok []
    rw [saveFrom_succ at_id]
    refine (tagged_unbroken r _).bind fun e _ => ?_
    refine (unbroken_mapM fun e member => saveRoot_unbroken h (h.argument_lt at_id member)).bind fun values _ => ?_
    refine nested.bind fun body _ => ?_
    exact follows.bind fun rest _ => unbroken_ok _

theorem saveChain_unbroken (h : p.Linked openE openI) {id : InstructionId} {trees : List InstructionTree}
    (holds : p.Holds (some id) trees) : Unbroken (saveChain r p id) := by
  have chain : Unbroken (saveFrom r p (p.instructions.size + 1) id) := saveFrom_unbroken h trees (by omega) holds
  exact chain.bind fun es _ => unbroken_ok _

/-- Whatever tags there are, a program that was built in order is not saved up to a broken link. -/
theorem save_unbroken {t : ProgramTree} (builds : Builds p t) : Unbroken (save r p) := by
  have h := builds.linked
  have chains : ∀ {heads : List InstructionId} {trees : List (List InstructionTree)},
      List.Forall₂ (fun id chain => p.Holds (some id) chain) heads trees → Unbroken (heads.mapM (saveChain r p)) := by
    intro heads trees shown
    refine unbroken_mapM fun id member => ?_
    obtain ⟨chain, holds⟩ := exists_of_forall₂ shown id member
    exact saveChain_unbroken h holds
  have free : ∀ id ∈ p.rootExpressions, Unbroken (saveRoot r p id) := by
    intro id member
    exact saveRoot_unbroken h (h.inOrder.roots (.expression id) (by simp [Program.roots, member]))
  have custom : ∀ id ∈ p.customExpressions, Unbroken (saveRoot r p id) := by
    intro id member
    exact saveRoot_unbroken h (h.inOrder.roots (.expression id) (by simp [Program.roots, member]))
  unfold save
  refine (chains builds.shows.threads).bind fun threads _ => ?_
  refine (unbroken_mapM free).bind fun expressions _ => ?_
  refine (chains builds.shows.customInstructions).bind fun customInstructions _ => ?_
  exact (unbroken_mapM custom).bind fun customExpressions _ => unbroken_ok _

end Document

/-- What was loaded is in order, and so can be used: each expression has a value, saving never ends at a broken
    link, a search ends, and however many steps a thread has made from a root, it can make another one. -/
theorem loaded_in_order {r : Registry} {root : Element} {p : Program} (loads : Document.load r root = .ok p) :
    p.InOrder ∧ Program.Assembled (List.range p.instructions.size) p ∧
      (∀ world vars id, id < p.expressions.size → ∃ value, p.evaluate world vars id = .ok value) ∧
      (∀ (other : Registry) (link : BrokenLink), Document.save other p ≠ .error (.broken link)) ∧
      (∃ found, p.findExtension = .ok found) ∧
      ∀ head ∈ p.rootInstructions ++ p.customInstructions, ∀ world limit vars n, ∃ i progress j,
        (Interpreter.begin limit vars (some head)).after p world n = .ok i ∧ i.step p world = .ok (progress, j) := by
  obtain ⟨t, reads, builds⟩ := Document.read_of_load loads
  have h := builds.linked
  refine ⟨h.inOrder, Document.load_assembled loads, ?_, ?_, ?_, ?_⟩
  · intro world vars id inside
    exact h.evaluateWithin_ok world vars p.maxPath id (Nat.lt_succ_of_lt inside) inside
  · intro other
    exact Document.save_unbroken builds
  · have every : t.Every (Document.LoadedInstruction fun _ => True) (Document.LoadedExpression fun _ => True) :=
      Document.read_every (fun _ _ _ => trivial) reads
    obtain ⟨found, search, -⟩ := Program.findExtension_shows builds.shows every
    exact ⟨found, search⟩
  · intro head is_root world limit vars n
    obtain ⟨i, reached, mirrors⟩ := after_mirrors h world limit vars is_root n
    obtain ⟨progress, j, steps, -⟩ : ∃ progress j, i.step p world = .ok (progress, j) ∧
        Mirrors p limit (fun _ => True) j := mirrors.step h world fun _ _ => trivial
    exact ⟨i, progress, j, reached, steps⟩

/-- The jump in the branch before the inner loop is reached after three steps, and is made. -/
theorem loaded_in_order_of_branchBeforeLoop : branchBeforeLoopProgram.InOrder ∧
    Program.Assembled [0, 1, 2, 3, 4] branchBeforeLoopProgram ∧
    ∃ i progress j, (Interpreter.begin (some 2) .empty (some 4)).after branchBeforeLoopProgram .empty 3 = .ok i ∧
      i.current = some 1 ∧ i.step branchBeforeLoopProgram .empty = .ok (progress, j) := by
  obtain ⟨order, assembled, -, -, -, runs⟩ := loaded_in_order load_branchBeforeLoop
  refine ⟨order, assembled, ?_⟩
  obtain ⟨i, progress, j, reached, steps⟩ := runs 4 (by decide) .empty (some 2) .empty 3
  refine ⟨i, progress, j, reached, ?_, steps⟩
  cases reached
  rfl

end FlightBlocks
