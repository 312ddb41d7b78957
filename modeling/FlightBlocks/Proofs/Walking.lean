import FlightBlocks.Proofs.Growth
import FlightBlocks.Proofs.Stepping

/-!
# Running trees

An interpreter runs the tables of a program by positions. A `Walker` runs trees: where the one has a
position, the other has what can be found from there. An interpreter whose program holds these trees
does what the walker does, step by step (`Represents.step`) and to the same end (`Represents.run`).
So a run depends on the trees alone, and not on where a program keeps them.
-/

namespace FlightBlocks

/-! ## Values -/

namespace Program

variable {p : Program} (world : World) (vars : Variables)

mutual

/-- An expression has the value of its tree, as long as no link is followed too far. -/
theorem evaluateWithin_holds : ∀ {depth id : Nat} (tree : ExpressionTree), id < depth → p.HoldsExpression id tree →
    p.evaluateWithin world vars depth id = .ok (tree.evaluate world vars)
  | 0, _, _, below, _ => absurd below (Nat.not_lt_zero _)
  | depth + 1, id, ⟨node, children⟩, below, ⟨ids, at_id, ordered, holds⟩ => by
    have shallow : ∀ child ∈ ids, child < depth := by
      intro child member
      exact Nat.lt_of_lt_of_le (ordered child member) (Nat.lt_succ_iff.mp below)
    rw [evaluateWithin_succ at_id, ExpressionTree.evaluate]
    exact node.evaluate_ok world vars (evaluateWithin_children children shallow holds)

theorem evaluateWithin_children {depth : Nat} : ∀ {ids : List ExpressionId} (trees : List ExpressionTree),
    (∀ child ∈ ids, child < depth) → p.HoldsExpressions ids trees → ∀ i : Nat,
      p.childWithin world vars depth ids i = .ok ((evaluateAll world vars trees)[i]?.getD .zero)
  | _, [], _, holds, i => by
    cases holds
    rfl
  | _, tree :: rest, shallow, ⟨id, others, same, first, more⟩, i => by
    subst same
    cases i with
    | zero => exact evaluateWithin_holds tree (shallow id (by simp)) first
    | succ i =>
      exact evaluateWithin_children rest (fun child member => shallow child (by simp [member])) more i

end

theorem evaluate_holds {id : ExpressionId} (tree : ExpressionTree) (holds : p.HoldsExpression id tree) :
    p.evaluate world vars id = .ok (tree.evaluate world vars) := by
  refine evaluateWithin_holds world vars tree ?_ holds
  obtain ⟨node, children⟩ := tree
  obtain ⟨ids, at_id, -⟩ := holds
  exact Nat.lt_succ_of_lt (Array.getElem?_eq_some_iff.mp at_id).1

/-- An instruction works on the value of its first expression. -/
theorem argument_holds {t : Thread} {slot : InstructionSlot} {tree : InstructionTree}
    (holds : p.HoldsExpressions slot.expressions tree.expressions) :
    t.argument p world slot = .ok (tree.argument world t.variables) := by
  unfold Thread.argument evaluateChild InstructionTree.argument
  cases shape : tree.expressions with
  | nil =>
    rw [shape] at holds
    rw [show slot.expressions = [] from holds]
    rfl
  | cons first rest =>
    rw [shape] at holds
    obtain ⟨id, others, same, holds, -⟩ := holds
    rw [same]
    exact evaluate_holds world t.variables first holds

/-! ## Chains -/

theorem holds_nil {head : Option InstructionId} : p.Holds head [] ↔ head = none := Iff.rfl

/-- The first instruction of a chain, with what it holds and what follows it. -/
theorem Holds.cons {head : Option InstructionId} {tree : InstructionTree} {rest : List InstructionTree}
    (h : p.Holds head (tree :: rest)) : ∃ id slot, head = some id ∧ p.instructions[id]? = some slot ∧
      slot.node = tree.node ∧ p.HoldsExpressions slot.expressions tree.expressions ∧
      p.Holds slot.body tree.body ∧ p.Holds slot.next rest := by
  obtain ⟨node, expressions, body⟩ := tree
  obtain ⟨id, next, same, above, below, ⟨ids, first, at_id, holds, inside⟩, more⟩ := h
  refine ⟨id, _, same, at_id, rfl, holds, ?_, ?_⟩
  · exact holdsChain_widen body (Nat.zero_le _) (Nat.le_of_lt below) inside
  · exact holdsChain_widen rest (Nat.zero_le _) (Nat.le_refl _) more

end Program

/-! ## Walkers -/

/-- A chain begins with a loop. -/
def beginsWithLoop : List InstructionTree → Bool
  | [] => false
  | tree :: _ => tree.node.stopsBreak

/-- A thread that holds trees where an interpreter holds positions. -/
structure Walker where
  vars : Variables
  output : Array String
  limit : Option Nat
  /-- What is left of the chain; at the end nothing is left. -/
  chain : List InstructionTree
  /-- What the scopes that were entered go on with, the innermost first. -/
  scopes : List (List InstructionTree)

namespace Walker

/-- Goes on with a chain, or behind the scopes that end with it. -/
def goOn (w : Walker) : List InstructionTree → Progress × Walker
  | tree :: rest => (.running, { w with chain := tree :: rest })
  | [] =>
    match w.scopes.dropWhile (·.isEmpty) with
    | [] => (.finished, { w with chain := [], scopes := [] })
    | scope :: scopes => (.running, { w with chain := scope, scopes })

/-- Enters a scope, if there is room for it. -/
def enter (w : Walker) (body scope : List InstructionTree) : Progress × Walker :=
  match w.limit with
  | some limit =>
    if limit ≤ w.scopes.length then (.overflow ⟨limit⟩, { w with chain := [] })
    else (.running, { w with chain := body, scopes := scope :: w.scopes })
  | none => (.running, { w with chain := body, scopes := scope :: w.scopes })

/-- Runs a body when the condition holds and there is one, else goes on behind it. -/
def runBody (w : Walker) (condition : Bool) (body rest scope : List InstructionTree) : Progress × Walker :=
  match body, condition with
  | _ :: _, true => w.enter body scope
  | _, _ => w.goOn rest

/-- The scope that `Continue` goes on with, and those below it. -/
def lastScope : List (List InstructionTree) → List InstructionTree × List (List InstructionTree)
  | [] => ([], [])
  | [scope] => (scope, [])
  | scope :: rest => if beginsWithLoop scope then (scope, rest) else lastScope rest

/-- Executes the first instruction that is left. -/
def step (world : World) (w : Walker) : Progress × Walker :=
  match w.chain with
  | [] => (.finished, w)
  | tree :: rest =>
    let value := tree.argument world w.vars
    match tree.node with
    | .setVariable name => { w with vars := w.vars.set name value }.goOn rest
    | .log => { w with output := w.output.push value.toText }.goOn rest
    | .branch => w.runBody value.toBool tree.body rest rest
    | .loop => w.runBody value.toBool tree.body rest (tree :: rest)
    | .breakLoop =>
      match w.scopes.dropWhile fun scope => !beginsWithLoop scope with
      | [] => { w with scopes := [] }.goOn []
      | scope :: scopes => { w with scopes }.goOn scope.tail
    | .continueLoop => { w with scopes := (lastScope w.scopes).2 }.goOn (lastScope w.scopes).1

def runFrom (world : World) : (budget steps : Nat) → Walker → Outcome × Walker
  | 0, steps, w => (if w.chain.isEmpty then .completed steps else .stepLimit steps, w)
  | budget + 1, steps, w =>
    if w.chain.isEmpty then (.completed steps, w)
    else
      match w.step world with
      | (.overflow o, w) => (.overflow o, w)
      | (_, w) => runFrom world budget (steps + 1) w

def run (world : World) (budget : Nat) (w : Walker) : Outcome × Walker := runFrom world budget 0 w

theorem runBody_skip {condition : Bool} {w : Walker} {body rest scope : List InstructionTree}
    (skips : body = [] ∨ condition = false) : w.runBody condition body rest scope = w.goOn rest := by
  unfold runBody
  rcases skips with none | false
  · rw [none]
  · rw [false]
    split <;> simp_all

theorem runBody_enter {w : Walker} {body rest scope : List InstructionTree} (has_body : body ≠ []) :
    w.runBody true body rest scope = w.enter body scope := by
  cases body with
  | nil => exact absurd rfl has_body
  | cons => rfl

end Walker

/-! ## Interpreters that follow a walker -/

/-- A frame goes on with a chain. -/
structure Program.ReturnsTo (p : Program) (frame : Frame) (scope : List InstructionTree) : Prop where
  holds : p.Holds frame.returnTo scope
  stops : frame.stopsBreak = beginsWithLoop scope

/-- A thread is as far as a walker, except for what is left of the chain. -/
structure Program.Carries (p : Program) (t : Thread) (w : Walker) : Prop where
  vars : t.variables = w.vars
  output : t.output = w.output
  limit : t.stack.limit = w.limit
  fault : t.fault = none
  scopes : List.Forall₂ p.ReturnsTo t.stack.frames w.scopes

/-- An interpreter is as far as a walker. -/
structure Program.Represents (p : Program) (i : Interpreter) (w : Walker) : Prop where
  thread : p.Carries i.thread w
  current : p.Holds i.current w.chain

/-- Rows that are related item by item stay so when equal conditions drop their beginnings. -/
theorem forall₂_dropWhile {α β : Type} {R : α → β → Prop} (first : α → Bool) (second : β → Bool) {xs : List α}
    {ys : List β} (rows : List.Forall₂ R xs ys) (same : ∀ x y, R x y → first x = second y) :
    List.Forall₂ R (xs.dropWhile first) (ys.dropWhile second) := by
  induction rows with
  | nil => exact .nil
  | cons related _ ih =>
    rw [List.dropWhile_cons, List.dropWhile_cons, same _ _ related]
    split
    · exact ih
    · exact .cons related ‹_›

namespace Program

variable {p : Program} {t : Thread} {w : Walker} {world : World}

theorem holds_isNone {head : Option InstructionId} {chain : List InstructionTree} (h : p.Holds head chain) :
    head.isNone = chain.isEmpty := by
  cases chain with
  | nil =>
    rw [holds_nil.mp h]
    rfl
  | cons tree rest =>
    obtain ⟨id, slot, rfl, -⟩ := h.cons
    rfl

theorem ReturnsTo.isLoopBoundary {frame : Frame} {scope : List InstructionTree} (h : p.ReturnsTo frame scope) :
    frame.isLoopBoundary = beginsWithLoop scope := by
  rw [Frame.isLoopBoundary, h.stops, ← Option.not_isNone, holds_isNone h.holds]
  cases scope <;> rfl

theorem returnsTo_frameTo {returnTo : Option InstructionId} {scope : List InstructionTree}
    (h : p.Holds returnTo scope) : Thread.frameFor p returnTo = .ok (p.frameTo returnTo) ∧
      p.ReturnsTo (p.frameTo returnTo) scope := by
  cases scope with
  | nil =>
    obtain rfl := holds_nil.mp h
    exact ⟨rfl, h, rfl⟩
  | cons tree rest =>
    obtain ⟨id, slot, rfl, at_id, node, -⟩ := h.cons
    refine ⟨Thread.frameFor_some at_id, h, ?_⟩
    simp [frameTo, at_id, node, beginsWithLoop]

/-- Going on leads both to the same place. -/
theorem Carries.goOn {next : Option InstructionId} {chain : List InstructionTree} (h : p.Carries t w)
    (holds : p.Holds next chain) :
    ∃ i, Interpreter.proceed next t = ((w.goOn chain).1, i) ∧ p.Represents i (w.goOn chain).2 := by
  unfold Interpreter.proceed
  rw [h.fault]
  cases chain with
  | cons tree rest =>
    obtain ⟨id, slot, rfl, -⟩ := holds.cons
    exact ⟨_, rfl, { h with }, holds⟩
  | nil =>
    obtain rfl := holds_nil.mp holds
    have left := forall₂_dropWhile (·.returnTo.isNone) (·.isEmpty) h.scopes fun _ _ returns => holds_isNone returns.holds
    simp only [Walker.goOn, CallStack.resume]
    generalize t.stack.frames.dropWhile (·.returnTo.isNone) = frames at left ⊢
    generalize shape : w.scopes.dropWhile (·.isEmpty) = scopes at left ⊢
    cases left with
    | nil => exact ⟨_, rfl, { h with fault := rfl, scopes := .nil }, holds_nil.mpr rfl⟩
    | @cons frame scope frames scopes returns more =>
      cases scope with
      | nil =>
        have nonempty := List.head?_dropWhile_not List.isEmpty w.scopes
        rw [shape] at nonempty
        cases nonempty
      | cons tree rest =>
        obtain ⟨id, slot, target, -⟩ := returns.holds.cons
        simp only [target]
        exact ⟨_, rfl, { h with fault := rfl, scopes := more }, target ▸ returns.holds⟩

/-- Both have room for one more scope, or neither has. -/
theorem Carries.push (h : p.Carries t w) (frame : Frame) (body scope : List InstructionTree) :
    (t.stack.push frame = .ok { t.stack with frames := frame :: t.stack.frames } ∧
        w.enter body scope = (.running, { w with chain := body, scopes := scope :: w.scopes })) ∨
      ∃ overflow, t.stack.push frame = .error overflow ∧
        w.enter body scope = (.overflow overflow, { w with chain := [] }) := by
  have depth : t.stack.size = w.scopes.length := h.scopes.length_eq
  cases most : w.limit with
  | none =>
    have limit := h.limit.trans most
    exact .inl ⟨by simp [CallStack.push, limit], by simp [Walker.enter, most]⟩
  | some bound =>
    have limit := h.limit.trans most
    by_cases full : bound ≤ w.scopes.length
    · refine .inr ⟨⟨bound⟩, ?_, ?_⟩
      · simp [CallStack.push, limit, depth, full]
      · simp [Walker.enter, most, full]
    · refine .inl ⟨?_, ?_⟩
      · simp [CallStack.push, limit, depth, full]
      · simp [Walker.enter, most, full]

theorem Carries.enter {id : InstructionId} {returnTo : Option InstructionId} {slot : InstructionSlot}
    {body scope : List InstructionTree} (h : p.Carries t w) (at_body : slot.body = some id)
    (inside : p.Holds slot.body body) (behind : p.Holds returnTo scope) :
    ∃ next t' i, t.runBody p slot true returnTo = .ok (next, t') ∧
      Interpreter.proceed next t' = ((w.enter body scope).1, i) ∧ p.Represents i (w.enter body scope).2 := by
  obtain ⟨frame_ok, returns⟩ := returnsTo_frameTo behind
  rw [Thread.runBody_enter at_body frame_ok]
  rcases h.push (p.frameTo returnTo) body scope with ⟨room, enters⟩ | ⟨overflow, full, refuses⟩
  · rw [room, enters]
    refine ⟨_, _, _, rfl, Interpreter.proceed_some id h.fault, { h with scopes := .cons returns h.scopes }, ?_⟩
    exact at_body ▸ inside
  · rw [full, refuses]
    exact ⟨_, _, _, rfl, rfl, { h with fault := rfl }, holds_nil.mpr rfl⟩

theorem Carries.runBody {returnTo : Option InstructionId} {slot : InstructionSlot}
    {body rest scope : List InstructionTree} (h : p.Carries t w) (condition : Bool) (inside : p.Holds slot.body body)
    (after : p.Holds slot.next rest) (behind : p.Holds returnTo scope) :
    ∃ next t' i, t.runBody p slot condition returnTo = .ok (next, t') ∧
      Interpreter.proceed next t' = ((w.runBody condition body rest scope).1, i) ∧
      p.Represents i (w.runBody condition body rest scope).2 := by
  obtain ⟨i, proceeds, represents⟩ := h.goOn after
  cases body with
  | nil =>
    refine ⟨_, _, i, Thread.runBody_skip (.inl (holds_nil.mp inside)), ?_⟩
    exact ⟨proceeds, represents⟩
  | cons tree body =>
    cases condition with
    | false => exact ⟨_, _, i, Thread.runBody_skip (.inr rfl), proceeds, represents⟩
    | true =>
      obtain ⟨id, -, at_body, -⟩ := inside.cons
      exact h.enter at_body inside behind

theorem lastTaken_lastScope {frames : List Frame} {scopes : List (List InstructionTree)}
    (rows : List.Forall₂ p.ReturnsTo frames scopes) :
    p.Holds ((CallStack.lastTaken frames).1.bind (·.returnTo)) (Walker.lastScope scopes).1 ∧
      List.Forall₂ p.ReturnsTo (CallStack.lastTaken frames).2 (Walker.lastScope scopes).2 := by
  induction rows with
  | nil => exact ⟨holds_nil.mpr rfl, .nil⟩
  | @cons frame scope frames scopes returns more ih =>
    cases more with
    | nil => exact ⟨returns.holds, .nil⟩
    | cons returns' more =>
      simp only [CallStack.lastTaken, Walker.lastScope, returns.isLoopBoundary]
      split
      · exact ⟨returns.holds, .cons returns' more⟩
      · exact ih

/-- At an instruction a thread does what a walker does, which comes to a result. -/
def Tracks (p : Program) (world : World) (t : Thread) (id : InstructionId) (result : Progress × Walker) : Prop :=
  ∃ next t' i, t.execute p world id = .ok (next, t') ∧ Interpreter.proceed next t' = (result.1, i) ∧
    p.Represents i result.2

section Instructions

variable {id : InstructionId} {slot : InstructionSlot} {tree : InstructionTree} {rest : List InstructionTree}

/-- `Break` takes both behind the same loop. -/
theorem Carries.breakLoop (h : p.Carries t w) (chain : w.chain = tree :: rest)
    (at_id : p.instructions[id]? = some slot) (same : slot.node = tree.node) (node : tree.node = .breakLoop) :
    p.Tracks world t id (w.step world) := by
  have left := forall₂_dropWhile (fun f => !f.isLoopBoundary) (fun s => !beginsWithLoop s) h.scopes
    fun _ _ returns => congrArg not returns.isLoopBoundary
  have stops := List.head?_dropWhile_not (fun s => !beginsWithLoop s) w.scopes
  simp only [Tracks, Thread.execute, instruction_eq_ok at_id, same, node, bind, Except.bind, Walker.step, chain,
    CallStack.unwind]
  generalize t.stack.frames.dropWhile (fun f => !f.isLoopBoundary) = frames at left ⊢
  generalize w.scopes.dropWhile (fun s => !beginsWithLoop s) = scopes at left stops ⊢
  cases left with
  | nil =>
    have carries : p.Carries { t with stack := ⟨[], t.stack.limit⟩ } { w with scopes := [] } :=
      { h with scopes := .nil }
    obtain ⟨i, proceeds, represents⟩ := carries.goOn (holds_nil.mpr rfl)
    exact ⟨_, _, i, rfl, proceeds, represents⟩
  | @cons frame scope frames scopes returns more =>
    cases scope with
    | nil => cases stops
    | cons tree following =>
      obtain ⟨loop, slot, target, at_loop, -, -, -, behind⟩ := returns.holds.cons
      have carries : p.Carries { t with stack := ⟨frames, t.stack.limit⟩ } { w with scopes } :=
        { h with scopes := more }
      obtain ⟨i, proceeds, represents⟩ := carries.goOn behind
      obtain ⟨returnTo, stopsBreak⟩ := frame
      obtain rfl : returnTo = some loop := target
      simp only [instruction_eq_ok at_loop]
      exact ⟨_, _, i, rfl, proceeds, represents⟩

theorem Carries.continueLoop (h : p.Carries t w) (chain : w.chain = tree :: rest)
    (at_id : p.instructions[id]? = some slot) (same : slot.node = tree.node) (node : tree.node = .continueLoop) :
    p.Tracks world t id (w.step world) := by
  obtain ⟨target, left⟩ := lastTaken_lastScope h.scopes
  have carries : p.Carries { t with stack := t.stack.unwindOrEmpty.2 }
      { w with scopes := (Walker.lastScope w.scopes).2 } :=
    { h with scopes := left }
  obtain ⟨i, proceeds, represents⟩ := carries.goOn target
  simp only [Tracks, Thread.execute, instruction_eq_ok at_id, same, node, bind, Except.bind, Walker.step, chain]
  exact ⟨_, _, i, rfl, proceeds, represents⟩

theorem Carries.plain (h : p.Carries t w) (chain : w.chain = tree :: rest)
    (at_id : p.instructions[id]? = some slot) (same : slot.node = tree.node) (behind : p.Holds slot.next rest)
    (argument : t.argument p world slot = .ok (tree.argument world w.vars))
    (plain : tree.node = .log ∨ ∃ name, tree.node = .setVariable name) : p.Tracks world t id (w.step world) := by
  rcases plain with node | ⟨name, node⟩
  · have carries : p.Carries (t.log (tree.argument world w.vars).toText)
        { w with output := w.output.push (tree.argument world w.vars).toText } :=
      { h with output := by rw [Thread.log, h.output] }
    obtain ⟨i, proceeds, represents⟩ := carries.goOn behind
    simp only [Tracks, Thread.execute, instruction_eq_ok at_id, same, node, bind, Except.bind, Walker.step, chain,
      argument]
    exact ⟨_, _, i, rfl, proceeds, represents⟩
  · have carries : p.Carries (t.setVariable name (tree.argument world w.vars))
        { w with vars := w.vars.set name (tree.argument world w.vars) } :=
      { h with vars := by rw [Thread.setVariable, h.vars] }
    obtain ⟨i, proceeds, represents⟩ := carries.goOn behind
    simp only [Tracks, Thread.execute, instruction_eq_ok at_id, same, node, bind, Except.bind, Walker.step, chain,
      argument]
    exact ⟨_, _, i, rfl, proceeds, represents⟩

theorem Carries.container (h : p.Carries t w) (chain : w.chain = tree :: rest)
    (holds : p.Holds (some id) (tree :: rest))
    (at_id : p.instructions[id]? = some slot) (same : slot.node = tree.node) (inside : p.Holds slot.body tree.body)
    (behind : p.Holds slot.next rest) (argument : t.argument p world slot = .ok (tree.argument world w.vars))
    (container : tree.node = .branch ∨ tree.node = .loop) : p.Tracks world t id (w.step world) := by
  rcases container with node | node
  · obtain ⟨next, t', i, runs, proceeds, represents⟩ :=
      h.runBody (tree.argument world w.vars).toBool inside behind behind
    simp only [Tracks, Thread.execute, instruction_eq_ok at_id, same, node, bind, Except.bind, Walker.step, chain,
      argument]
    exact ⟨next, t', i, runs, proceeds, represents⟩
  · obtain ⟨next, t', i, runs, proceeds, represents⟩ :=
      h.runBody (tree.argument world w.vars).toBool inside behind holds
    simp only [Tracks, Thread.execute, instruction_eq_ok at_id, same, node, bind, Except.bind, Walker.step, chain,
      argument]
    exact ⟨next, t', i, runs, proceeds, represents⟩

end Instructions

/-- An interpreter that is as far as a walker takes the same step. -/
theorem Represents.step {i : Interpreter} (h : p.Represents i w) (world : World) :
    ∃ j, i.step p world = .ok ((w.step world).1, j) ∧ p.Represents j (w.step world).2 := by
  obtain ⟨t, current⟩ := i
  obtain ⟨carries, holds⟩ := h
  cases chain : w.chain with
  | nil =>
    rw [chain] at holds
    obtain rfl : current = none := holds_nil.mp holds
    have finished : w.step world = (.finished, w) := by simp [Walker.step, chain]
    rw [finished]
    exact ⟨_, rfl, carries, chain ▸ holds_nil.mpr rfl⟩
  | cons tree rest =>
    rw [chain] at holds
    obtain ⟨id, slot, same, at_id, node, expressions, inside, behind⟩ := holds.cons
    obtain rfl : current = some id := same
    have argument : t.argument p world slot = .ok (tree.argument world w.vars) :=
      carries.vars ▸ argument_holds world expressions
    have tracks : p.Tracks world t id (w.step world) := by
      cases kind : tree.node with
      | setVariable name => exact carries.plain chain at_id node behind argument (.inr ⟨name, kind⟩)
      | log => exact carries.plain chain at_id node behind argument (.inl kind)
      | branch => exact carries.container chain holds at_id node inside behind argument (.inl kind)
      | loop => exact carries.container chain holds at_id node inside behind argument (.inr kind)
      | breakLoop => exact carries.breakLoop chain at_id node kind
      | continueLoop => exact carries.continueLoop chain at_id node kind
    obtain ⟨next, t', j, executes, proceeds, represents⟩ := tracks
    exact ⟨j, by rw [Interpreter.step_of_execute executes, proceeds], represents⟩

theorem Represents.isFinished {i : Interpreter} (h : p.Represents i w) : i.isFinished = w.chain.isEmpty :=
  holds_isNone h.current

/-- An interpreter that is as far as a walker runs to the same end in as many steps. -/
theorem Represents.runFrom {i : Interpreter} (h : p.Represents i w) (world : World) (budget steps : Nat) :
    ∃ j, Interpreter.runFrom p world budget steps i = .ok ((w.runFrom world budget steps).1, j) ∧
      p.Represents j (w.runFrom world budget steps).2 := by
  induction budget generalizing i w steps with
  | zero =>
    rw [Interpreter.runFrom, Walker.runFrom, h.isFinished]
    exact ⟨i, rfl, h⟩
  | succ budget ih =>
    rw [Interpreter.runFrom, Walker.runFrom, h.isFinished]
    by_cases finished : w.chain.isEmpty
    · rw [if_pos finished, if_pos finished]
      exact ⟨i, rfl, h⟩
    · rw [if_neg finished, if_neg finished]
      obtain ⟨j, steps_to, represents⟩ := h.step world
      simp only [steps_to, bind, Except.bind]
      generalize w.step world = result at represents ⊢
      obtain ⟨progress, w'⟩ := result
      cases progress with
      | running => exact ih represents (steps + 1)
      | finished => exact ih represents (steps + 1)
      | overflow o => exact ⟨j, rfl, represents⟩

/-- At the beginning an interpreter is as far as a walker with the chain at its head. -/
theorem represents_begin (limit : Option Nat) (vars : Variables) {head : Option InstructionId}
    {chain : List InstructionTree} (holds : p.Holds head chain) :
    p.Represents (.begin limit vars head) ⟨vars, #[], limit, chain, []⟩ :=
  ⟨⟨rfl, rfl, rfl, rfl, .nil⟩, holds⟩

end Program

end FlightBlocks
