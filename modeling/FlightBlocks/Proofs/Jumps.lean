import FlightBlocks.Proofs.Frames

/-!
# Jumps out of loops

`Break` and `Continue` are to leave the innermost loop that encloses them. They look for the
innermost frame whose return is a loop, and a branch that is followed by a loop leaves such a frame
as well. So a jump concerns the enclosing loop exactly when no branch between the two is directly
followed by another loop (`jump_leaves_loop_iff`).
-/

namespace FlightBlocks

namespace Program

/-- An instruction is directly followed by a loop. -/
def BeforeLoop (p : Program) (id : InstructionId) : Prop :=
  ∃ next slot, p.Follows id next ∧ p.instructions[next]? = some slot ∧ slot.node = .loop

end Program

/-- What a jump from within a loop is to come to, given the stack on which the loop ran: `Continue`
    to the loop itself, `Break` to what follows the loop or else to what the scope around it goes on
    with. -/
def LeavesLoop (w : InstructionId) (loop : InstructionSlot) (stack : CallStack) (i : Interpreter) :
    InstructionNode → Prop
  | .continueLoop => i.current = some w ∧ i.thread.stack = stack
  | .breakLoop =>
    match loop.next with
    | some next => i.current = some next ∧ i.thread.stack = stack
    | none => (i.current, i.thread.stack) = stack.resume
  | _ => False

section Jumps

variable {p : Program} {limit : Option Nat} {t : Thread} {world : World} {slot loop : InstructionSlot}
  {id w container target : InstructionId} {containers inner outer : List InstructionId}
  {openE : List ExpressionId} {openI : List InstructionId}

/-! ## Frames at which a jump stops -/

theorem returnOf_loop (at_w : p.instructions[w]? = some loop) (is_loop : loop.node = .loop) :
    p.returnOf w = some w := by
  simp [Program.returnOf, at_w, is_loop]

theorem boundary_iff : (p.scopeFrame container).isLoopBoundary = true ↔
    ∃ target slot, p.returnOf container = some target ∧ p.instructions[target]? = some slot ∧ slot.node = .loop := by
  unfold Program.scopeFrame Program.frameTo Frame.isLoopBoundary
  cases returns : p.returnOf container with
  | none => simp
  | some target =>
    cases at_target : p.instructions[target]? with
    | none => simp [at_target]
    | some slot => cases node : slot.node <;> simp [at_target, node, InstructionNode.stopsBreak]

theorem boundary_loop (at_w : p.instructions[w]? = some loop) (is_loop : loop.node = .loop) :
    (p.scopeFrame w).isLoopBoundary = true :=
  boundary_iff.mpr ⟨w, loop, returnOf_loop at_w is_loop, at_w, is_loop⟩

/-- The frame of a branch stops a jump when a loop follows the branch. -/
theorem boundary_branch (at_container : p.instructions[container]? = some slot) (no_loop : slot.node ≠ .loop) :
    (p.scopeFrame container).isLoopBoundary = true ↔ p.BeforeLoop container := by
  have returns : p.returnOf container = slot.next := by simp [Program.returnOf, at_container, no_loop]
  rw [boundary_iff, returns]
  constructor
  · rintro ⟨target, other, has_next, at_target, is_loop⟩
    exact ⟨target, other, ⟨slot, at_container, has_next⟩, at_target, is_loop⟩
  · rintro ⟨target, other, ⟨slot', at_container', has_next⟩, at_target, is_loop⟩
    rw [at_container] at at_container'
    cases at_container'
    exact ⟨target, other, has_next, at_target, is_loop⟩

/-- The innermost boundary, as a way to split the containers, is unique. -/
theorem first_boundary_unique {within around : List InstructionId}
    (same : inner ++ w :: outer = within ++ container :: around)
    (left : ∀ c ∈ inner, (p.scopeFrame c).isLoopBoundary = false) (at_w : (p.scopeFrame w).isLoopBoundary = true)
    (right : ∀ c ∈ within, (p.scopeFrame c).isLoopBoundary = false)
    (at_container : (p.scopeFrame container).isLoopBoundary = true) : w = container ∧ outer = around := by
  have dropped := congrArg (List.dropWhile fun c => !(p.scopeFrame c).isLoopBoundary) same
  rw [List.dropWhile_append_of_pos (by simpa using left), List.dropWhile_append_of_pos (by simpa using right)]
    at dropped
  simpa [at_w, at_container] using dropped

/-- Among containers there is none with a boundary, or an innermost one. -/
theorem first_boundary (p : Program) (containers : List InstructionId) :
    (∀ c ∈ containers, (p.scopeFrame c).isLoopBoundary = false) ∨
      ∃ within container around, containers = within ++ container :: around ∧
        (∀ c ∈ within, (p.scopeFrame c).isLoopBoundary = false) ∧ (p.scopeFrame container).isLoopBoundary = true := by
  induction containers with
  | nil => exact .inl (by simp)
  | cons c rest ih =>
    cases boundary : (p.scopeFrame c).isLoopBoundary with
    | true => exact .inr ⟨[], c, rest, rfl, by simp, boundary⟩
    | false =>
      rcases ih with others | ⟨within, container, around, rfl, others, stops⟩
      · exact .inl (by simpa [boundary] using others)
      · exact .inr ⟨c :: within, container, around, rfl, by simpa [boundary] using others, stops⟩

/-! ## Where a jump lands -/

/-- A jump takes off the frames up to the innermost boundary; `Continue` goes on with the loop there
    and `Break` behind it. -/
theorem jump_executes (world : World) (stands : StandsAt p limit t id (inner ++ container :: outer))
    (at_id : p.instructions[id]? = some slot) (others : ∀ c ∈ inner, (p.scopeFrame c).isLoopBoundary = false)
    (stops : (p.scopeFrame container).isLoopBoundary = true) :
    ∃ target loop, p.instructions[target]? = some loop ∧ p.returnOf container = some target ∧
      (slot.node = .continueLoop →
        t.execute p world id = .ok (some target, { t with stack := ⟨outer.map p.scopeFrame, limit⟩ })) ∧
      (slot.node = .breakLoop →
        t.execute p world id = .ok (loop.next, { t with stack := ⟨outer.map p.scopeFrame, limit⟩ })) := by
  obtain ⟨target, loop, returns, at_target, -⟩ := boundary_iff.mp stops
  refine ⟨target, loop, at_target, returns, ?_, ?_⟩
  · intro jump
    rcases execute_continue world at_id jump stands.stack with ⟨none, -⟩ |
      ⟨within, found, around, same, before, last, executes⟩
    · simp at none
    · have boundary : (p.scopeFrame found).isLoopBoundary = true := by
        rcases last with boundary | rfl
        · exact boundary
        · by_contra no_boundary
          have everywhere : ∀ c ∈ within ++ [found], (p.scopeFrame c).isLoopBoundary = false := by
            intro c member
            rcases List.mem_append.mp member with early | late
            · exact before c early
            · rw [List.mem_singleton.mp late]
              simpa using no_boundary
          have here := everywhere container (by simp [← same])
          rw [stops] at here
          cases here
      obtain ⟨rfl, rfl⟩ := first_boundary_unique same others stops before boundary
      rw [executes, returns]
  · intro jump
    rcases execute_break world at_id jump stands.stack with ⟨none, -⟩ |
      ⟨within, found, around, target', same, before, boundary, returns', executes⟩
    · have here := none container (by simp)
      rw [stops] at here
      cases here
    · obtain ⟨rfl, rfl⟩ := first_boundary_unique same others stops before boundary
      rw [returns] at returns'
      cases returns'
      exact executes loop at_target

/-! ## How deep a jump leaves the stack -/

/-- Behind a body within a loop a thread stays within the loop, or goes back to it. -/
theorem resume_within (limit : Option Nat) (within outer : List InstructionId) (returns : p.returnOf w = some w) :
    outer.length < (CallStack.mk ((within ++ w :: outer).map p.scopeFrame) limit).resume.2.size ∨
      (CallStack.mk ((within ++ w :: outer).map p.scopeFrame) limit).resume = (some w, ⟨outer.map p.scopeFrame, limit⟩) := by
  induction within with
  | nil =>
    refine .inr ?_
    simp [CallStack.resume, Program.scopeFrame, Program.frameTo, returns]
  | cons c rest ih =>
    cases returns_c : p.returnOf c with
    | some target =>
      refine .inl ?_
      simp [CallStack.resume, CallStack.size, Program.scopeFrame, Program.frameTo, returns_c]
      omega
    | none =>
      have same : (CallStack.mk ((c :: rest ++ w :: outer).map p.scopeFrame) limit).resume =
          (CallStack.mk ((rest ++ w :: outer).map p.scopeFrame) limit).resume := by
        simp [CallStack.resume, Program.scopeFrame, Program.frameTo, returns_c]
      rw [same]
      exact ih

/-- Where `Break` leaves a loop there are fewer frames than around the loop, or as many and the loop
    is not repeated. -/
theorem leaves_shallow {i : Interpreter} (h : p.Linked openE openI) (around : p.Around w outer)
    (at_w : p.instructions[w]? = some loop)
    (leaves : LeavesLoop w loop ⟨outer.map p.scopeFrame, limit⟩ i .breakLoop) :
    i.thread.stack.size < outer.length ∨ (i.thread.stack.size = outer.length ∧ i.current ≠ some w) := by
  unfold LeavesLoop at leaves
  cases follows : loop.next with
  | some next =>
    simp only [follows] at leaves
    refine .inr ⟨by simp [leaves.2, CallStack.size], ?_⟩
    rw [leaves.1]
    rintro ⟨⟩
    exact Nat.lt_irrefl _ (h.next_gt at_w follows)
  | none =>
    simp only [follows] at leaves
    have current := congrArg Prod.fst leaves
    have stack := congrArg Prod.snd leaves
    dsimp only at current stack
    rw [current, stack]
    rcases resume_around limit around with none | ⟨target, container, rest, resumes, -, shorter⟩
    · rw [none]
      cases outer with
      | nil => exact .inr ⟨rfl, by simp⟩
      | cons c rest => exact .inl (Nat.succ_pos _)
    · rw [resumes]
      have fewer := shorter.length_le
      simp only [List.length_cons] at fewer
      refine .inl ?_
      simp only [CallStack.size, List.length_map]
      omega

/-- What leaves a loop within another one does not leave that one. -/
theorem leaves_one {other : InstructionSlot} {more : List InstructionId} {node : InstructionNode} {i : Interpreter}
    (h : p.Linked openE openI) (around : p.Around w outer) (at_w : p.instructions[w]? = some loop)
    (is_loop : loop.node = .loop) (leaves : LeavesLoop target other ⟨(more ++ w :: outer).map p.scopeFrame, limit⟩ i node) :
    ¬ LeavesLoop w loop ⟨outer.map p.scopeFrame, limit⟩ i node := by
  intro also
  have deeper : outer.length < (CallStack.mk ((more ++ w :: outer).map p.scopeFrame) limit).size := by
    simp only [CallStack.size, List.length_map, List.length_append, List.length_cons]
    omega
  cases node with
  | continueLoop =>
    rw [← leaves.2, also.2] at deeper
    simp [CallStack.size] at deeper
  | breakLoop =>
    have shallow := leaves_shallow h around at_w also
    unfold LeavesLoop at leaves
    cases follows : other.next with
    | some next =>
      simp only [follows] at leaves
      rw [← leaves.2] at deeper
      rcases shallow with fewer | ⟨same, -⟩
      · exact Nat.lt_asymm deeper fewer
      · exact Nat.ne_of_gt deeper same
    | none =>
      simp only [follows] at leaves
      have current := congrArg Prod.fst leaves
      have stack := congrArg Prod.snd leaves
      dsimp only at current stack
      rw [current, stack] at shallow
      rcases resume_within limit more outer (returnOf_loop at_w is_loop) with inside | back
      · rcases shallow with fewer | ⟨same, -⟩
        · exact Nat.lt_asymm inside fewer
        · exact Nat.ne_of_gt inside same
      · rw [back] at shallow
        rcases shallow with fewer | ⟨-, repeated⟩
        · simp [CallStack.size] at fewer
        · exact repeated rfl
  | _ => exact leaves

section Step

variable {progress : Progress} {j : Interpreter} (at_id : p.instructions[id]? = some slot)
  (jump : slot.node = .breakLoop ∨ slot.node = .continueLoop)
  (steps : Interpreter.step p world ⟨t, some id⟩ = .ok (progress, j))

include at_id jump steps

/-- A jump leaves the loop that the innermost boundary returns to. -/
theorem jump_leaves (stands : StandsAt p limit t id (inner ++ container :: outer))
    (others : ∀ c ∈ inner, (p.scopeFrame c).isLoopBoundary = false)
    (stops : (p.scopeFrame container).isLoopBoundary = true) :
    ∃ target loop, p.returnOf container = some target ∧ p.instructions[target]? = some loop ∧
      LeavesLoop target loop ⟨outer.map p.scopeFrame, limit⟩ j slot.node := by
  obtain ⟨target, loop, at_target, returns, continues, breaks⟩ := jump_executes world stands at_id others stops
  have quiet : Thread.fault { t with stack := ⟨outer.map p.scopeFrame, limit⟩ } = none := stands.fault
  refine ⟨target, loop, returns, at_target, ?_⟩
  rcases jump with jump | jump
  · rw [Interpreter.step_of_execute (breaks jump)] at steps
    rw [jump]
    cases follows : loop.next with
    | some next =>
      rw [follows, Interpreter.proceed_some next quiet] at steps
      cases steps
      simp [LeavesLoop, follows]
    | none =>
      obtain ⟨progress, proceeds⟩ := Interpreter.proceed_none quiet
      rw [follows, proceeds] at steps
      cases steps
      simp [LeavesLoop, follows]
  · rw [Interpreter.step_of_execute (continues jump), Interpreter.proceed_some target quiet] at steps
    rw [jump]
    cases steps
    exact ⟨rfl, rfl⟩

/-- The innermost branch with a loop behind it lets a jump leave that loop. -/
theorem jump_leaves_following {next : InstructionId} {following branch : InstructionSlot}
    (stands : StandsAt p limit t id (inner ++ container :: outer))
    (others : ∀ c ∈ inner, (p.scopeFrame c).isLoopBoundary = false)
    (at_container : p.instructions[container]? = some branch) (no_loop : branch.node ≠ .loop)
    (has_next : branch.next = some next) (at_next : p.instructions[next]? = some following)
    (follows_loop : following.node = .loop) :
    LeavesLoop next following ⟨outer.map p.scopeFrame, limit⟩ j slot.node := by
  have before_loop : p.BeforeLoop container := ⟨next, following, ⟨branch, at_container, has_next⟩, at_next, follows_loop⟩
  have stops := (boundary_branch at_container no_loop).mpr before_loop
  obtain ⟨target, loop, returns, at_target, leaves⟩ := jump_leaves at_id jump steps stands others stops
  have behind : p.returnOf container = some next := by simp [Program.returnOf, at_container, no_loop, has_next]
  rw [behind] at returns
  cases returns
  rw [at_next] at at_target
  cases at_target
  exact leaves

/-- Within a loop and branches a jump leaves the loop if and only if no branch is before a loop. -/
theorem jump_leaves_iff (h : p.Linked openE openI) (stands : StandsAt p limit t id (inner ++ w :: outer))
    (branches : ∀ c ∈ inner, ∃ other, p.instructions[c]? = some other ∧ other.node ≠ .loop)
    (at_w : p.instructions[w]? = some loop) (is_loop : loop.node = .loop) :
    LeavesLoop w loop ⟨outer.map p.scopeFrame, limit⟩ j slot.node ↔ ∀ c ∈ inner, ¬ p.BeforeLoop c := by
  have boundary : ∀ c ∈ inner, ((p.scopeFrame c).isLoopBoundary = true ↔ p.BeforeLoop c) := by
    intro c member
    obtain ⟨other, at_c, no_loop⟩ := branches c member
    exact boundary_branch at_c no_loop
  rcases first_boundary p inner with others | ⟨within, branch, more, rfl, others, stops⟩
  · obtain ⟨target, loop', returns, at_target, leaves⟩ :=
      jump_leaves at_id jump steps stands others (boundary_loop at_w is_loop)
    rw [returnOf_loop at_w is_loop] at returns
    cases returns
    rw [at_w] at at_target
    cases at_target
    refine iff_of_true leaves fun c member follows => ?_
    exact absurd ((boundary c member).mpr follows) (by simp [others c member])
  · have split : StandsAt p limit t id (within ++ branch :: (more ++ w :: outer)) := by simpa using stands
    obtain ⟨target, following, -, -, leaves⟩ := jump_leaves at_id jump steps split others stops
    refine iff_of_false (leaves_one h stands.around.outer.1 at_w is_loop leaves) fun none => ?_
    exact none branch (by simp) ((boundary branch (by simp)).mp stops)

end Step

end Jumps

/-- For every program that loads, every thread that began at a root, and every jump that it is about
    to execute within a loop, with only branches between the two. The loop was executed before, and
    whenever it was, the stack was one and the same. The jump leaves the loop with that stack if and
    only if none of the branches between the two is directly followed by a loop; else it leaves the
    loop that follows the innermost such branch. -/
theorem jump_leaves_loop_iff {r : Registry} {root : Markup.Element} {p : Program}
    (loads : Document.load r root = .ok p) {head : InstructionId}
    (is_root : head ∈ p.rootInstructions ++ p.customInstructions) (world : World) (limit : Option Nat)
    (vars : Variables) (n : Nat) {i : Interpreter} {id w : InstructionId} {slot loop : InstructionSlot}
    (reached : (Interpreter.begin limit vars (some head)).after p world n = .ok i) (current : i.current = some id)
    (at_id : p.instructions[id]? = some slot) (jump : slot.node = .breakLoop ∨ slot.node = .continueLoop)
    (at_w : p.instructions[w]? = some loop) (is_loop : loop.node = .loop) (inside : p.Encloses w id)
    (innermost : ∀ c other, p.Encloses w c → p.Encloses c id → p.instructions[c]? = some other →
      other.node ≠ .loop) :
    ∃ progress j, i.step p world = .ok (progress, j) ∧
      (∃ stack,
        (∃ m before, m < n ∧ (Interpreter.begin limit vars (some head)).after p world m = .ok before ∧
          before.current = some w) ∧
        (∀ m before, (Interpreter.begin limit vars (some head)).after p world m = .ok before →
          before.current = some w → before.thread.stack = stack) ∧
        (LeavesLoop w loop stack j slot.node ↔
          ∀ branch, p.Encloses w branch → p.Encloses branch id → ¬ p.BeforeLoop branch)) ∧
      ∀ branch next following, p.Encloses w branch → p.Encloses branch id → p.Follows branch next →
        p.instructions[next]? = some following → following.node = .loop →
        (∀ c, p.Encloses branch c → p.Encloses c id → ¬ p.BeforeLoop c) →
        ∃ stack,
          (∀ m before, (Interpreter.begin limit vars (some head)).after p world m = .ok before →
            before.current = some branch → before.thread.stack = stack) ∧
          LeavesLoop next following stack j slot.node := by
  obtain ⟨tree, -, builds⟩ := Document.read_of_load loads
  have linked := builds.linked
  obtain ⟨i', reached', mirrors⟩ := after_mirrors linked world limit vars is_root n
  rw [reached] at reached'
  cases reached'
  cases mirrors with
  | ended => cases current
  | @running t id' containers stands known =>
    cases current
    obtain ⟨⟨progress, j⟩, steps, -⟩ := step_arrives linked world stands
    have member : w ∈ containers := (stands.around.mem_iff linked).mpr inside
    have executed := known w member
    obtain ⟨inner, outer, rfl⟩ := List.append_of_mem member
    have between : ∀ {c}, c ∈ inner ↔ p.Encloses w c ∧ p.Encloses c id := stands.around.mem_inner_iff linked
    have branches : ∀ c ∈ inner, ∃ other, p.instructions[c]? = some other ∧ other.node ≠ .loop := by
      intro c member
      obtain ⟨rest, around_c⟩ := stands.around.of_mem (List.mem_append_left _ member)
      obtain ⟨other, at_c⟩ := around_c.slot linked
      obtain ⟨encloses, enclosed⟩ := between.mp member
      exact ⟨other, at_c, innermost c other encloses enclosed at_c⟩
    refine ⟨progress, j, steps, ⟨_, executed, fun m before reached_w at_loop =>
      stack_at linked world limit vars is_root reached_w at_loop stands.around.outer.1, ?_⟩, ?_⟩
    · rw [jump_leaves_iff at_id jump steps linked stands branches at_w is_loop]
      simp only [between, and_imp]
    · intro branch next following encloses enclosed follows at_next follows_loop none_inside
      obtain ⟨within, more, rfl⟩ := List.append_of_mem (between.mpr ⟨encloses, enclosed⟩)
      have split : StandsAt p limit t id (within ++ branch :: (more ++ w :: outer)) := by simpa using stands
      obtain ⟨other, at_branch, has_next⟩ := follows
      obtain ⟨other', at_branch', no_loop⟩ := branches branch (by simp)
      rw [at_branch] at at_branch'
      cases at_branch'
      refine ⟨_, fun m before reached_b at_b =>
        stack_at linked world limit vars is_root reached_b at_b split.around.outer.1, ?_⟩
      refine jump_leaves_following at_id jump steps split ?_ at_branch no_loop has_next at_next follows_loop
      intro c member
      obtain ⟨encloses_c, enclosed_c⟩ := (split.around.mem_inner_iff linked).mp member
      obtain ⟨other, at_c, no_loop⟩ := branches c (by simp [member])
      rw [Bool.eq_false_iff, ne_eq, boundary_branch at_c no_loop]
      exact none_inside c encloses_c enclosed_c

/-! ## A jump that stays in its loop -/

theorem branchBeforeLoop_around : branchBeforeLoopProgram.Around 1 [2, 4] := by
  have outer : branchBeforeLoopProgram.Around 4 [] := .root (by decide)
  have branch : branchBeforeLoopProgram.Around 2 [4] := outer.body ⟨_, rfl, rfl, rfl⟩
  exact (branch.body ⟨_, rfl, rfl, rfl⟩).next ⟨_, rfl, rfl⟩

theorem branchBeforeLoop_between {c : InstructionId} :
    branchBeforeLoopProgram.Encloses 4 c ∧ branchBeforeLoopProgram.Encloses c 1 ↔ c = 2 := by
  obtain ⟨tree, -, builds⟩ := Document.read_of_load load_branchBeforeLoop
  have split : branchBeforeLoopProgram.Around 1 ([2] ++ 4 :: []) := branchBeforeLoop_around
  rw [← split.mem_inner_iff builds.linked, List.mem_singleton]

/-- `Continue` in a branch before a loop stays in the loop around the branch. -/
theorem jump_leaves_loop_iff_before_loop :
    ∃ i, (Interpreter.begin none .empty (some 4)).after branchBeforeLoopProgram .empty 3 = .ok i ∧
      ∃ progress j, i.step branchBeforeLoopProgram .empty = .ok (progress, j) ∧
        ¬ LeavesLoop 4 ⟨.loop, [0], none, some 2⟩ ⟨[], none⟩ j .continueLoop := by
  have root : 4 ∈ branchBeforeLoopProgram.rootInstructions ++ branchBeforeLoopProgram.customInstructions := by
    decide
  have between : branchBeforeLoopProgram.Encloses 4 2 ∧ branchBeforeLoopProgram.Encloses 2 1 :=
    branchBeforeLoop_between.mpr rfl
  refine ⟨_, rfl, ?_⟩
  obtain ⟨progress, j, steps, ⟨stack, -, unique, leaves⟩, -⟩ :=
    jump_leaves_loop_iff load_branchBeforeLoop root .empty none .empty 3 rfl rfl rfl (.inr rfl) rfl rfl
      (between.1.trans between.2) (by
        intro c other encloses enclosed at_c
        obtain rfl := branchBeforeLoop_between.mp ⟨encloses, enclosed⟩
        cases at_c
        decide)
  refine ⟨progress, j, steps, ?_⟩
  obtain rfl : ⟨[], none⟩ = stack := unique 0 _ rfl rfl
  intro claimed
  exact leaves.mp claimed 2 between.1 between.2 ⟨3, _, ⟨_, rfl, rfl⟩, rfl, rfl⟩

/-- There the jump goes on with the inner loop, on top of the frame of the outer one. -/
theorem continue_stops_at_inner_loop :
    Document.load .full branchBeforeLoop = .ok branchBeforeLoopProgram ∧
      branchBeforeLoopProgram.Encloses 4 1 ∧
      (∀ c, branchBeforeLoopProgram.Encloses 4 c → branchBeforeLoopProgram.Encloses c 1 → c = 2) ∧
      ∃ i j, (Interpreter.begin none .empty (some 4)).after branchBeforeLoopProgram .empty 3 = .ok i ∧
        i.current = some 1 ∧ i.step branchBeforeLoopProgram .empty = .ok (.running, j) ∧
        j.current = some 3 ∧ j.thread.stack = ⟨[⟨some 4, true⟩], none⟩ ∧
        ¬ LeavesLoop 4 ⟨.loop, [0], none, some 2⟩ ⟨[], none⟩ j .continueLoop := by
  have between : branchBeforeLoopProgram.Encloses 4 2 ∧ branchBeforeLoopProgram.Encloses 2 1 :=
    branchBeforeLoop_between.mpr rfl
  refine ⟨load_branchBeforeLoop, between.1.trans between.2, ?_, _, _, rfl, rfl, rfl, rfl, rfl, ?_⟩
  · intro c encloses enclosed
    exact branchBeforeLoop_between.mp ⟨encloses, enclosed⟩
  · rintro ⟨again, -⟩
    cases again

end FlightBlocks
