import FlightBlocks.Proofs.Scanning
import FlightBlocks.Proofs.Stepping

/-!
# Programs that do not look at the world

No node of the language itself reads the world. A program in which the search for nodes of the extension
finds nothing therefore does the same in every world (`alike_in_all_worlds`): the search has gone through
everything that a thread can execute, however it gets there, and through everything that it can evaluate.
That a thread stays with instructions that were searched is an invariant of its steps (`Interpreter.Clear`),
since it can go on with what an instruction links to or with what a frame has kept, and nowhere else.
-/

namespace FlightBlocks

/-- A node of the language itself has the same value in every world. -/
theorem ExpressionNode.evaluate_host {ε : Type} {node : ExpressionNode} (host : node.type.IsHost)
    (world other : World) (vars : Variables) (child : Nat → Except ε Value) :
    node.evaluate world vars child = node.evaluate other vars child := by
  cases node
  case constant | «variable» | operation => rfl
  all_goals simp [type, NodeType.IsHost, NodeType.origin, NodeType.hostTypes] at host

/-! ## Values -/

namespace Program

variable {p : Program}

/-- An expression below which the search finds nothing has one value for all worlds. -/
theorem evaluateWithin_clear (vars : Variables) {depth : Nat} : ∀ {id : ExpressionId},
    p.findInExpression depth id = .ok none → ∃ value, ∀ world, p.evaluateWithin world vars depth id = .ok value := by
  induction depth with
  | zero =>
    intro id nothing
    cases nothing
  | succ depth ih =>
    intro id nothing
    obtain ⟨slot, at_id, host, below⟩ := findInExpression_none nothing
    have children : ∀ i : Nat, ∃ value, ∀ world, p.childWithin world vars depth slot.children i = .ok value := by
      intro i
      unfold childWithin
      cases found : slot.children[i]? with
      | none => exact ⟨.zero, fun _ => rfl⟩
      | some child => exact ih (below child (List.mem_of_getElem? found))
    choose values same using children
    refine ⟨Id.run (slot.node.evaluate .empty vars fun i => pure (values i)), fun world => ?_⟩
    rw [evaluateWithin_succ at_id, ExpressionNode.evaluate_host host world .empty]
    exact ExpressionNode.evaluate_ok slot.node .empty vars (same · world)

/-- So has the argument of an instruction whose expressions were searched. -/
theorem ClearSlot.argument {slot : InstructionSlot} (clear : p.ClearSlot slot) (t : Thread) :
    ∃ value, ∀ world, t.argument p world slot = .ok value := by
  unfold Thread.argument evaluateChild
  cases used : slot.expressions[0]? with
  | none => exact ⟨.zero, fun _ => rfl⟩
  | some child =>
    have nothing := findSomeM?_eq_none_iff.mp clear.expressions child (List.mem_of_getElem? used)
    exact evaluateWithin_clear t.variables nothing

end Program

/-! ## Steps -/

/-- Every scope goes on where the search finds nothing. -/
def CallStack.Clear (p : Program) (s : CallStack) : Prop := ∀ frame ∈ s.frames, ∀ id ∈ frame.returnTo, p.Clear id

/-- A thread is at an instruction from which the search finds nothing, and so are those that wait. -/
structure Interpreter.Clear (p : Program) (i : Interpreter) : Prop where
  current : ∀ id ∈ i.current, p.Clear id
  stack : i.thread.stack.Clear p

variable {p : Program}

namespace CallStack.Clear

variable {s : CallStack}

/-- A part of the frames that is left. -/
theorem of_subset (clear : s.Clear p) {frames : List Frame} (left : frames ⊆ s.frames) :
    CallStack.Clear p { s with frames } := fun frame member => clear frame (left member)

theorem push (clear : s.Clear p) {frame : Frame} (back : ∀ id ∈ frame.returnTo, p.Clear id) :
    CallStack.Clear p { s with frames := frame :: s.frames } := by
  intro other member
  rcases List.mem_cons.mp member with rfl | old
  · exact back
  · exact clear other old

/-- A jump goes to one of the frames and leaves others. -/
theorem unwind (clear : s.Clear p) :
    (∀ frame ∈ s.unwind.1, ∀ id ∈ frame.returnTo, p.Clear id) ∧ s.unwind.2.Clear p := by
  have left : s.frames.dropWhile (fun f => !f.isLoopBoundary) ⊆ s.frames := (List.dropWhile_sublist _).subset
  unfold CallStack.unwind
  cases shape : s.frames.dropWhile fun f => !f.isLoopBoundary with
  | nil => exact ⟨by simp, clear.of_subset (List.nil_subset _)⟩
  | cons frame rest =>
    rw [shape] at left
    obtain ⟨first, more⟩ := List.cons_subset.mp left
    refine ⟨?_, clear.of_subset more⟩
    rintro _ ⟨⟩
    exact clear frame first

/-- What a scope that ends goes on with is what one of the frames has kept. -/
theorem resume (clear : s.Clear p) : (∀ id ∈ s.resume.1, p.Clear id) ∧ s.resume.2.Clear p := by
  have left : s.frames.dropWhile (fun f => f.returnTo.isNone) ⊆ s.frames := (List.dropWhile_sublist _).subset
  unfold CallStack.resume
  cases shape : s.frames.dropWhile fun f => f.returnTo.isNone with
  | nil => exact ⟨by simp, clear.of_subset (List.nil_subset _)⟩
  | cons frame rest =>
    rw [shape] at left
    obtain ⟨first, more⟩ := List.cons_subset.mp left
    exact ⟨clear frame first, clear.of_subset more⟩

end CallStack.Clear

namespace Thread

variable {t : Thread} {slot : InstructionSlot}

theorem frameFor_clear {returnTo : Option InstructionId} (back : ∀ id ∈ returnTo, p.Clear id) :
    ∃ frame, frameFor p returnTo = .ok frame ∧ frame.returnTo = returnTo := by
  cases returnTo with
  | none => exact ⟨.detached, rfl, rfl⟩
  | some id =>
    obtain ⟨slot, at_id, -⟩ := (back id rfl).slot
    exact ⟨p.frameTo (some id), frameFor_some at_id, rfl⟩

/-- A body is entered or skipped, and either way the thread stays with what was searched. -/
theorem runBody_clear (clear : p.ClearSlot slot) (nests : slot.node.hasBody = true) (stack : t.stack.Clear p)
    (condition : Bool) {returnTo : Option InstructionId} (back : ∀ id ∈ returnTo, p.Clear id) :
    ∃ next t', runBody p t slot condition returnTo = .ok (next, t') ∧ (∀ id ∈ next, p.Clear id) ∧ t'.stack.Clear p := by
  cases has_body : slot.body with
  | none => exact ⟨_, _, runBody_skip (.inl has_body), clear.next, stack⟩
  | some first =>
    cases condition with
    | false => exact ⟨_, _, runBody_skip (.inr rfl), clear.next, stack⟩
    | true =>
      obtain ⟨frame, frame_ok, kept⟩ := frameFor_clear back
      rw [runBody_enter has_body frame_ok]
      rcases t.stack.push_cases frame with room | ⟨overflow, full⟩
      · rw [room]
        exact ⟨_, _, rfl, has_body ▸ clear.body nests, stack.push (kept ▸ back)⟩
      · rw [full]
        exact ⟨_, _, rfl, by simp, stack⟩

/-- An instruction that was searched is executed alike in all worlds, and leads to one that was
    searched too. -/
theorem execute_clear {id : InstructionId} (clear : p.Clear id) (stack : t.stack.Clear p) :
    ∃ next t', (∀ world, t.execute p world id = .ok (next, t')) ∧ (∀ id ∈ next, p.Clear id) ∧ t'.stack.Clear p := by
  obtain ⟨slot, at_id, clear_slot⟩ := clear.slot
  obtain ⟨value, argument⟩ := clear_slot.argument t
  unfold execute
  simp only [Program.instruction_eq_ok at_id, bind, Except.bind, argument, pure, Except.pure]
  cases node : slot.node with
  | setVariable name => exact ⟨_, _, fun _ => rfl, clear_slot.next, stack⟩
  | log => exact ⟨_, _, fun _ => rfl, clear_slot.next, stack⟩
  | branch =>
    obtain ⟨next, t', runs, leads⟩ := runBody_clear clear_slot (by rw [node]; rfl) stack value.toBool clear_slot.next
    exact ⟨next, t', fun _ => runs, leads⟩
  | loop =>
    have back : ∀ loop ∈ some id, p.Clear loop := by simpa using clear
    obtain ⟨next, t', runs, leads⟩ := runBody_clear clear_slot (by rw [node]; rfl) stack value.toBool back
    exact ⟨next, t', fun _ => runs, leads⟩
  | breakLoop =>
    obtain ⟨back, left⟩ := stack.unwind
    generalize t.stack.unwind = unwound at back left
    obtain ⟨frame, rest⟩ := unwound
    match frame with
    | none => exact ⟨_, _, fun _ => rfl, by simp, left⟩
    | some ⟨none, _⟩ => exact ⟨_, _, fun _ => rfl, by simp, left⟩
    | some ⟨some loop, _⟩ =>
      obtain ⟨target, at_loop, clear_target⟩ := (back _ rfl loop rfl).slot
      simp only [Program.instruction_eq_ok at_loop]
      exact ⟨_, _, fun _ => rfl, clear_target.next, left⟩
  | continueLoop =>
    have host := clear_slot.host
    rw [node] at host
    exact absurd host (by decide)

end Thread

namespace Interpreter

theorem clear_begin {head : InstructionId} (limit : Option Nat) (vars : Variables) (clear : p.Clear head) :
    (begin limit vars (some head)).Clear p where
  current := by simpa [begin] using clear
  stack := by simp [begin, Thread.start, CallStack.empty, CallStack.Clear]

/-- After an instruction that led to what was searched, so does the step. -/
theorem clear_proceed {next : Option InstructionId} {t : Thread} (leads : ∀ id ∈ next, p.Clear id)
    (stack : t.stack.Clear p) : (proceed next t).2.Clear p := by
  unfold proceed
  split
  · exact ⟨by simp, stack⟩
  split
  · exact ⟨leads, stack⟩
  · obtain ⟨goes_on, left⟩ := stack.resume
    split
    · rename_i id rest resumes
      rw [resumes] at goes_on left
      exact ⟨goes_on, left⟩
    · rename_i rest resumes
      rw [resumes] at left
      exact ⟨by simp, left⟩

/-- A step from what was searched is the same in all worlds, and stays with what was searched. -/
theorem Clear.step {i : Interpreter} (clear : i.Clear p) :
    ∃ progress j, (∀ world, i.step p world = .ok (progress, j)) ∧ j.Clear p := by
  obtain ⟨t, current⟩ := i
  cases current with
  | none => exact ⟨.finished, _, fun _ => rfl, clear⟩
  | some id =>
    obtain ⟨next, t', executes, leads, stack⟩ := Thread.execute_clear (clear.current id rfl) clear.stack
    exact ⟨_, _, fun world => step_of_execute (executes world), clear_proceed leads stack⟩

/-- So is any number of steps. -/
theorem Clear.after {start : Interpreter} (clear : start.Clear p) (n : Nat) :
    ∃ i, (∀ world, start.after p world n = .ok i) ∧ i.Clear p := by
  induction n with
  | zero => exact ⟨start, fun _ => rfl, clear⟩
  | succ n ih =>
    obtain ⟨i, reached, holds⟩ := ih
    obtain ⟨progress, j, steps, kept⟩ := holds.step
    exact ⟨j, fun world => after_succ (reached world) (steps world), kept⟩

end Interpreter

/-! ## Programs -/

/-- Where the search finds nothing, the world makes no difference. For each number of steps there is one
    state that a thread is in after it, in whatever world it runs, and one that the next step leads to;
    the instruction it stands at and what this evaluates have been searched. Every free or custom
    expression has one value. -/
theorem alike_in_all_worlds {p : Program} (nothing : p.findExtension = .ok none) (vars : Variables) :
    (∀ head ∈ p.rootInstructions ++ p.customInstructions, ∀ (limit : Option Nat) (n : Nat), ∃ i progress j,
      (∀ world, (Interpreter.begin limit vars (some head)).after p world n = .ok i) ∧
      (∀ world, i.step p world = .ok (progress, j)) ∧
      ∀ id ∈ i.current, ∃ slot, p.instructions[id]? = some slot ∧ slot.node.type.origin = .host ∧
        p.findInExpressions slot.expressions = .ok none) ∧
    ∀ id ∈ p.rootExpressions ++ p.customExpressions, ∃ value, ∀ world, p.evaluate world vars id = .ok value := by
  obtain ⟨heads, expressions⟩ := Program.findExtension_none nothing
  constructor
  · intro head root limit n
    obtain ⟨i, reached, clear⟩ := (Interpreter.clear_begin limit vars (heads head root)).after n
    obtain ⟨progress, j, steps, -⟩ := clear.step
    refine ⟨i, progress, j, reached, steps, ?_⟩
    intro id stands
    obtain ⟨slot, at_id, searched⟩ := (clear.current id stands).slot
    exact ⟨slot, at_id, searched.host, searched.expressions⟩
  · intro id root
    exact Program.evaluateWithin_clear vars (expressions id root)

/-- A loop that is left out of a branch in it, beside a custom expression. -/
def leavingLoop : Program where
  name := "leaving"
  expressions := #[⟨.constant (.bool true), []⟩, ⟨.constant (.bool true), []⟩, ⟨.variable "speed", []⟩]
  instructions := #[⟨.breakLoop, [], none, none⟩, ⟨.branch, [1], none, some 0⟩, ⟨.loop, [0], none, some 1⟩]
  rootInstructions := [2]
  customExpressions := [2]

/-- The loop runs in any world as in an empty one, also where a frame is one too many. -/
theorem alike_in_all_worlds_of_leaving : leavingLoop.findExtension = .ok none ∧
    (∀ limit n world, (Interpreter.begin limit .empty (some 2)).after leavingLoop world n =
      (Interpreter.begin limit .empty (some 2)).after leavingLoop .empty n) ∧
    ∀ world, leavingLoop.evaluate world .empty 2 = leavingLoop.evaluate .empty .empty 2 := by
  have nothing : leavingLoop.findExtension = .ok none := rfl
  obtain ⟨runs, values⟩ := alike_in_all_worlds nothing .empty
  refine ⟨nothing, ?_, ?_⟩
  · intro limit n world
    obtain ⟨i, _, _, reached, -⟩ := runs 2 (by decide) limit n
    rw [reached world, reached .empty]
  · intro world
    obtain ⟨value, same⟩ := values 2 (by decide)
    rw [same world, same .empty]

end FlightBlocks
