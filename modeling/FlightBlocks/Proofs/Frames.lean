import FlightBlocks.Proofs.Nesting

/-!
# Frames mirror nesting

A thread's frames tell which branches and loops its current instruction stands in, and nothing more:
one frame for each of them, the innermost first (`frames_mirror_nesting`). Each step leads from the
frames around one instruction to those around the next (`step_arrives`), whatever the instruction
does to the stack.
-/

namespace FlightBlocks

/-! ## Taking frames off -/

namespace CallStack

theorem unwind_cases (s : CallStack) :
    ((∀ f ∈ s.frames, f.isLoopBoundary = false) ∧ s.unwind = (none, { s with frames := [] })) ∨
      ∃ inner f outer, s.frames = inner ++ f :: outer ∧ (∀ g ∈ inner, g.isLoopBoundary = false) ∧
        f.isLoopBoundary = true ∧ s.unwind = (some f, { s with frames := outer }) := by
  obtain ⟨frames, limit⟩ := s
  induction frames with
  | nil => exact .inl ⟨by simp, rfl⟩
  | cons f rest ih =>
    cases boundary : f.isLoopBoundary with
    | true => exact .inr ⟨[], f, rest, rfl, by simp, boundary, by simp [unwind, boundary]⟩
    | false =>
      have same : unwind ⟨f :: rest, limit⟩ = unwind ⟨rest, limit⟩ := by simp [unwind, boundary]
      rw [same]
      rcases ih with ⟨others, result⟩ | ⟨inner, g, outer, shape, others, stops, result⟩
      · exact .inl ⟨by simpa [boundary] using others, result⟩
      · refine .inr ⟨f :: inner, g, outer, ?_, by simpa [boundary] using others, stops, result⟩
        exact congrArg (f :: ·) shape

theorem lastTaken_cases (frames : List Frame) :
    (frames = [] ∧ lastTaken frames = (none, [])) ∨
      ∃ inner f outer, frames = inner ++ f :: outer ∧ (∀ g ∈ inner, g.isLoopBoundary = false) ∧
        (f.isLoopBoundary = true ∨ outer = []) ∧ lastTaken frames = (some f, outer) := by
  fun_induction lastTaken frames with
  | case1 => exact .inl ⟨rfl, rfl⟩
  | case2 f => exact .inr ⟨[], f, [], rfl, by simp, .inr rfl, rfl⟩
  | case3 f rest _ boundary => exact .inr ⟨[], f, rest, rfl, by simp, .inl boundary, rfl⟩
  | case4 f rest more boundary ih =>
    rcases ih with ⟨none, -⟩ | ⟨inner, g, outer, shape, others, stops, result⟩
    · exact absurd none more
    · exact .inr ⟨f :: inner, g, outer, congrArg (f :: ·) shape, by simpa [boundary] using others, stops, result⟩

end CallStack

section Frames

variable {p : Program} {limit : Option Nat} {t : Thread} {id : InstructionId} {containers : List InstructionId}

/-- A frame of a container has those of the containers around it below. -/
theorem split_frames {inner outer : List Frame} {f : Frame}
    (same : containers.map p.scopeFrame = inner ++ f :: outer) :
    ∃ within container around, containers = within ++ container :: around ∧ within.map p.scopeFrame = inner ∧
      p.scopeFrame container = f ∧ around.map p.scopeFrame = outer := by
  obtain ⟨within, others, rfl, left, right⟩ := List.map_eq_append_iff.mp same
  obtain ⟨container, around, rfl, top, rest⟩ := List.map_eq_cons_iff.mp right
  exact ⟨within, container, around, rfl, left, top, rest⟩

/-- Where no scope is left nothing goes on; else the thread goes on where fewer containers are
    around. -/
theorem resume_around (limit : Option Nat) (around : p.Around id containers) :
    (CallStack.mk (containers.map p.scopeFrame) limit).resume = (none, ⟨[], limit⟩) ∨
      ∃ target container outer, (CallStack.mk (containers.map p.scopeFrame) limit).resume =
          (some target, ⟨outer.map p.scopeFrame, limit⟩) ∧
        p.Around target outer ∧ container :: outer <:+ containers := by
  induction containers generalizing id with
  | nil => exact .inl rfl
  | cons container rest ih =>
    have outside : p.Around container rest := around.outside
    cases returns : p.returnOf container with
    | some target =>
      refine .inr ⟨target, container, rest, ?_, outside.returns returns, List.suffix_refl _⟩
      simp [CallStack.resume, Program.scopeFrame, Program.frameTo, returns]
    | none =>
      have same : (CallStack.mk ((container :: rest).map p.scopeFrame) limit).resume =
          (CallStack.mk (rest.map p.scopeFrame) limit).resume := by
        simp [CallStack.resume, Program.scopeFrame, Program.frameTo, returns]
      rw [same]
      rcases ih outside with none | ⟨target, inside, outer, resumes, around, shorter⟩
      · exact .inl none
      · exact .inr ⟨target, inside, outer, resumes, around, shorter.trans (List.suffix_cons _ _)⟩

/-- A thread is about to execute an instruction, with the frames of what is around it. -/
structure StandsAt (p : Program) (limit : Option Nat) (t : Thread) (id : InstructionId)
    (containers : List InstructionId) : Prop where
  around : p.Around id containers
  stack : t.stack = ⟨containers.map p.scopeFrame, limit⟩
  fault : t.fault = none

/-- What a step at an instruction comes to: another instruction, around which there is nothing new
    but the instruction itself; the end; or a scope for which there is no room. -/
inductive Arrives (p : Program) (limit : Option Nat) (id : InstructionId) (containers : List InstructionId) :
    Progress × Interpreter → Prop where
  | running {t : Thread} {target : InstructionId} {others : List InstructionId}
      (stands : StandsAt p limit t target others) (known : others ⊆ id :: containers) :
      Arrives p limit id containers (.running, ⟨t, some target⟩)
  | finished {t : Thread} (stack : t.stack = ⟨[], limit⟩) (fault : t.fault = none) :
      Arrives p limit id containers (.finished, ⟨t, none⟩)
  | refused {t : Thread} {overflow : StackOverflow} (stack : t.stack = ⟨containers.map p.scopeFrame, limit⟩) :
      Arrives p limit id containers (.overflow overflow, ⟨t, none⟩)

/-- A thread goes on within some of the containers. -/
theorem proceed_arrives {target : InstructionId} {others : List InstructionId} {next : Option InstructionId}
    (stands : StandsAt p limit t target others) (follows : ∀ id, next = some id → p.Around id others)
    (known : others ⊆ id :: containers) : Arrives p limit id containers (Interpreter.proceed next t) := by
  unfold Interpreter.proceed
  rw [stands.fault]
  cases next with
  | some following => exact .running ⟨follows following rfl, stands.stack, stands.fault⟩ known
  | none =>
    dsimp only
    rw [stands.stack]
    rcases resume_around limit stands.around with none | ⟨target, container, outer, resumes, around, shorter⟩
    · rw [none]
      exact .finished rfl rfl
    · rw [resumes]
      have fewer : outer ⊆ others := fun _ member => shorter.subset (List.mem_cons_of_mem _ member)
      exact .running ⟨around, rfl, rfl⟩ fun _ member => known (fewer member)

/-! ## Steps -/

section Execute

variable {world : World} {slot : InstructionSlot} {openE : List ExpressionId} {openI : List InstructionId}

theorem frameFor_returnOf (h : p.Linked openE openI) (around : p.Around id containers) :
    Thread.frameFor p (p.returnOf id) = .ok (p.scopeFrame id) := by
  unfold Program.scopeFrame
  cases returns : p.returnOf id with
  | none => rfl
  | some target =>
    obtain ⟨slot, at_target⟩ := (around.returns returns).slot h
    exact Thread.frameFor_some at_target

theorem execute_container {value : Value} (at_id : p.instructions[id]? = some slot) (may : slot.node.hasBody)
    (argument : t.argument p world slot = .ok value) :
    t.execute p world id = t.runBody p slot value.toBool (p.returnOf id) := by
  unfold Thread.execute Program.returnOf
  rw [Program.instruction_eq_ok at_id, at_id]
  cases node : slot.node <;> simp_all [InstructionNode.hasBody, bind, Except.bind]

theorem execute_break (world : World) (at_id : p.instructions[id]? = some slot) (jump : slot.node = .breakLoop)
    (stack : t.stack = ⟨containers.map p.scopeFrame, limit⟩) :
    ((∀ c ∈ containers, (p.scopeFrame c).isLoopBoundary = false) ∧
        t.execute p world id = .ok (none, { t with stack := ⟨[], limit⟩ })) ∨
      ∃ inner container outer target, containers = inner ++ container :: outer ∧
        (∀ c ∈ inner, (p.scopeFrame c).isLoopBoundary = false) ∧ (p.scopeFrame container).isLoopBoundary = true ∧
        p.returnOf container = some target ∧
        ∀ loop, p.instructions[target]? = some loop →
          t.execute p world id = .ok (loop.next, { t with stack := ⟨outer.map p.scopeFrame, limit⟩ }) := by
  unfold Thread.execute
  rw [Program.instruction_eq_ok at_id]
  simp only [bind, Except.bind, jump]
  rcases t.stack.unwind_cases with ⟨others, result⟩ | ⟨inner, f, outer, shape, others, stops, result⟩
  · rw [stack] at others result
    refine .inl ⟨by simpa using others, ?_⟩
    rw [stack, result]
    rfl
  · rw [stack] at shape
    obtain ⟨within, container, around, rfl, rfl, rfl, rfl⟩ := split_frames shape
    cases returns : p.returnOf container with
    | none => simp [Program.scopeFrame, Program.frameTo, Frame.isLoopBoundary, returns] at stops
    | some target =>
      refine .inr ⟨within, container, around, target, rfl, by simpa using others, stops, returns, ?_⟩
      intro loop at_target
      rw [result, stack]
      simp only [Program.scopeFrame, Program.frameTo, returns, Program.instruction_eq_ok at_target]
      rfl

theorem execute_continue (world : World) (at_id : p.instructions[id]? = some slot) (jump : slot.node = .continueLoop)
    (stack : t.stack = ⟨containers.map p.scopeFrame, limit⟩) :
    (containers = [] ∧ t.execute p world id = .ok (none, { t with stack := ⟨[], limit⟩ })) ∨
      ∃ inner container outer, containers = inner ++ container :: outer ∧
        (∀ c ∈ inner, (p.scopeFrame c).isLoopBoundary = false) ∧
        ((p.scopeFrame container).isLoopBoundary = true ∨ outer = []) ∧
        t.execute p world id =
          .ok (p.returnOf container, { t with stack := ⟨outer.map p.scopeFrame, limit⟩ }) := by
  unfold Thread.execute CallStack.unwindOrEmpty
  rw [Program.instruction_eq_ok at_id]
  simp only [bind, Except.bind, jump]
  rcases CallStack.lastTaken_cases t.stack.frames with ⟨none, result⟩ |
    ⟨inner, f, outer, shape, others, stops, result⟩
  · rw [stack] at none result
    refine .inl ⟨by simpa using none, ?_⟩
    rw [stack, result]
    rfl
  · rw [stack] at shape
    obtain ⟨within, container, around, rfl, rfl, rfl, rfl⟩ := split_frames shape
    refine .inr ⟨within, container, around, rfl, by simpa using others, by simpa using stops, ?_⟩
    rw [result, stack]
    rfl

theorem execute_plain (h : p.Linked openE openI) (world : World) (at_id : p.instructions[id]? = some slot)
    (plain : slot.node = .log ∨ ∃ name, slot.node = .setVariable name) :
    ∃ t', t.execute p world id = .ok (slot.next, t') ∧ t'.stack = t.stack ∧ t'.fault = t.fault := by
  obtain ⟨value, argument⟩ := h.argument_ok world t at_id
  unfold Thread.execute
  rw [Program.instruction_eq_ok at_id]
  rcases plain with log | ⟨name, set⟩
  · simp only [bind, Except.bind, log, argument]
    exact ⟨_, rfl, rfl, rfl⟩
  · simp only [bind, Except.bind, set, argument]
    exact ⟨_, rfl, rfl, rfl⟩

/-- An instruction can be executed, and the thread arrives somewhere. -/
def Leads (p : Program) (world : World) (limit : Option Nat) (t : Thread) (id : InstructionId)
    (containers : List InstructionId) : Prop :=
  ∃ next t', t.execute p world id = .ok (next, t') ∧ Arrives p limit id containers (Interpreter.proceed next t')

theorem StandsAt.behind (stands : StandsAt p limit t id containers) (at_id : p.instructions[id]? = some slot) :
    ∀ next, slot.next = some next → p.Around next containers :=
  fun _ has_next => stands.around.next ⟨slot, at_id, has_next⟩

theorem plain_leads (h : p.Linked openE openI) (world : World) (stands : StandsAt p limit t id containers)
    (at_id : p.instructions[id]? = some slot) (plain : slot.node = .log ∨ ∃ name, slot.node = .setVariable name) :
    Leads p world limit t id containers := by
  obtain ⟨t', executes, stack, fault⟩ := execute_plain h world at_id plain
  have stays : StandsAt p limit t' id containers := ⟨stands.around, stack.trans stands.stack, fault.trans stands.fault⟩
  exact ⟨slot.next, t', executes, proceed_arrives stays (stands.behind at_id) (List.subset_cons_self _ _)⟩

theorem container_leads (h : p.Linked openE openI) (world : World) (stands : StandsAt p limit t id containers)
    (at_id : p.instructions[id]? = some slot) (may : slot.node.hasBody) : Leads p world limit t id containers := by
  obtain ⟨value, argument⟩ := h.argument_ok world t at_id
  have skips : Arrives p limit id containers (Interpreter.proceed slot.next t) :=
    proceed_arrives stands (stands.behind at_id) (List.subset_cons_self _ _)
  unfold Leads
  rw [execute_container at_id may argument]
  cases body : slot.body with
  | none => exact ⟨_, _, Thread.runBody_skip (.inl body), skips⟩
  | some first =>
    cases condition : value.toBool with
    | false => exact ⟨_, _, Thread.runBody_skip (.inr rfl), skips⟩
    | true =>
      rw [Thread.runBody_enter body (frameFor_returnOf h stands.around)]
      rcases t.stack.push_cases (p.scopeFrame id) with room | ⟨overflow, full⟩
      · rw [room]
        have inside : p.Around first (id :: containers) := stands.around.body ⟨slot, at_id, may, body⟩
        refine ⟨_, _, rfl, proceed_arrives ⟨inside, ?_, stands.fault⟩ ?_ (List.Subset.refl _)⟩
        · rw [stands.stack]
          rfl
        · rintro _ ⟨⟩
          exact inside
      · rw [full]
        exact ⟨_, _, rfl, .refused stands.stack⟩

theorem break_leads (h : p.Linked openE openI) (world : World) (stands : StandsAt p limit t id containers)
    (at_id : p.instructions[id]? = some slot) (jump : slot.node = .breakLoop) : Leads p world limit t id containers := by
  rcases execute_break world at_id jump stands.stack with ⟨-, executes⟩ |
    ⟨inner, container, outer, target, rfl, -, -, returns, executes⟩
  · refine ⟨_, _, executes, ?_⟩
    simp only [Interpreter.proceed, stands.fault]
    exact .finished rfl rfl
  · have around := stands.around.outer.1.returns returns
    obtain ⟨loop, at_target⟩ := around.slot h
    refine ⟨_, _, executes loop at_target, proceed_arrives ⟨around, rfl, stands.fault⟩ ?_ ?_⟩
    · exact fun _ has_next => around.next ⟨loop, at_target, has_next⟩
    · intro c member
      simp [member]

theorem continue_leads (world : World) (stands : StandsAt p limit t id containers)
    (at_id : p.instructions[id]? = some slot) (jump : slot.node = .continueLoop) :
    Leads p world limit t id containers := by
  rcases execute_continue world at_id jump stands.stack with ⟨-, executes⟩ |
    ⟨inner, container, outer, rfl, -, -, executes⟩
  · refine ⟨_, _, executes, ?_⟩
    simp only [Interpreter.proceed, stands.fault]
    exact .finished rfl rfl
  · have around := stands.around.outer.1
    refine ⟨_, _, executes, proceed_arrives ⟨around, rfl, stands.fault⟩ (fun _ => around.returns) ?_⟩
    intro c member
    simp [member]

/-- Every instruction that a thread stands at can be executed, and leads to the next one with its
    frames. -/
theorem step_arrives (h : p.Linked openE openI) (world : World) (stands : StandsAt p limit t id containers) :
    ∃ result, Interpreter.step p world ⟨t, some id⟩ = .ok result ∧ Arrives p limit id containers result := by
  obtain ⟨slot, at_id⟩ := stands.around.slot h
  have leads : Leads p world limit t id containers := by
    cases node : slot.node with
    | setVariable name => exact plain_leads h world stands at_id (.inr ⟨name, node⟩)
    | log => exact plain_leads h world stands at_id (.inl node)
    | branch => exact container_leads h world stands at_id (by rw [node]; rfl)
    | loop => exact container_leads h world stands at_id (by rw [node]; rfl)
    | breakLoop => exact break_leads h world stands at_id node
    | continueLoop => exact continue_leads world stands at_id node
  obtain ⟨next, t', executes, arrives⟩ := leads
  exact ⟨_, Interpreter.step_of_execute executes, arrives⟩

end Execute

/-! ## Runs -/

/-- A thread stands at an instruction around which there are only containers of a kind, or it has
    ended with no more frames than the program is nested. -/
inductive Mirrors (p : Program) (limit : Option Nat) (met : InstructionId → Prop) : Interpreter → Prop where
  | running {t : Thread} {id : InstructionId} {containers : List InstructionId}
      (stands : StandsAt p limit t id containers) (known : ∀ c ∈ containers, met c) :
      Mirrors p limit met ⟨t, some id⟩
  | ended {t : Thread} (bounded : t.stack.size ≤ p.nestingDepth) : Mirrors p limit met ⟨t, none⟩

variable {openE : List ExpressionId} {openI : List InstructionId} {met later : InstructionId → Prop}
  {i : Interpreter}

/-- No step fails, and after it nothing is around but what was, or was executed just now. -/
theorem Mirrors.step (h : p.Linked openE openI) (world : World) (mirrors : Mirrors p limit met i)
    (meets : ∀ c, i.current = some c ∨ met c → later c) :
    ∃ progress j, i.step p world = .ok (progress, j) ∧ Mirrors p limit later j := by
  cases mirrors with
  | ended bounded => exact ⟨_, _, rfl, .ended bounded⟩
  | @running t id containers stands known =>
    obtain ⟨⟨progress, j⟩, steps, arrives⟩ := step_arrives h world stands
    refine ⟨progress, j, steps, ?_⟩
    cases arrives with
    | running stands' inside =>
      refine .running stands' fun c member => meets c ?_
      rcases List.mem_cons.mp (inside member) with rfl | old
      · exact .inl rfl
      · exact .inr (known c old)
    | finished stack => exact .ended (by simp [CallStack.size, stack])
    | refused stack =>
      refine .ended ?_
      rw [stack, CallStack.size, List.length_map]
      exact stands.around.length_le h

/-- A thread that began at a root has executed, after any number of steps, everything that is around
    its instruction. -/
theorem after_mirrors (h : p.Linked openE openI) (world : World) (limit : Option Nat) (vars : Variables)
    {head : InstructionId} (root : head ∈ p.rootInstructions ++ p.customInstructions) (n : Nat) :
    ∃ i, (Interpreter.begin limit vars (some head)).after p world n = .ok i ∧
      Mirrors p limit (fun c => ∃ m j, m < n ∧
        (Interpreter.begin limit vars (some head)).after p world m = .ok j ∧ j.current = some c) i := by
  refine Interpreter.after_invariant (fun n => Mirrors p limit fun c => ∃ m j, m < n ∧
    (Interpreter.begin limit vars (some head)).after p world m = .ok j ∧ j.current = some c) ?_ ?_ n
  · exact .running ⟨.root root, rfl, rfl⟩ (by simp)
  · intro n i reached mirrors
    refine mirrors.step h world ?_
    rintro c (current | ⟨m, j, earlier, before, at_c⟩)
    · exact ⟨n, i, Nat.lt_succ_self n, reached, current⟩
    · exact ⟨m, j, Nat.lt_succ_of_lt earlier, before, at_c⟩

/-- Whenever a thread is at an instruction, its stack is the one for what is around that. -/
theorem stack_at (h : p.Linked openE openI) (world : World) (limit : Option Nat) (vars : Variables)
    {head : InstructionId} (root : head ∈ p.rootInstructions ++ p.customInstructions) {n : Nat}
    (reached : (Interpreter.begin limit vars (some head)).after p world n = .ok i) (current : i.current = some id)
    (around : p.Around id containers) : i.thread.stack = ⟨containers.map p.scopeFrame, limit⟩ := by
  obtain ⟨i', reached', mirrors⟩ := after_mirrors h world limit vars root n
  rw [reached] at reached'
  cases reached'
  cases mirrors with
  | ended => cases current
  | running stands =>
    cases current
    rw [stands.stack, stands.around.unique h around]

/-- A thread that runs to its end leaves no frame behind. -/
theorem completed_empty (h : p.Linked openE openI) (world : World) (limit : Option Nat) (vars : Variables)
    {head : InstructionId} (root : head ∈ p.rootInstructions ++ p.customInstructions) {budget k : Nat}
    (completes : (Interpreter.begin limit vars (some head)).run p world budget = .ok (.completed k, i)) :
    i.thread.stack.frames = [] := by
  have begins : Mirrors p limit (fun _ => True) (.begin limit vars (some head)) :=
    .running ⟨.root root, rfl, rfl⟩ (by simp)
  have ends := Interpreter.runFrom_completed (fun i => Mirrors p limit (fun _ => True) i ∧
    (i.current = none → i.thread.stack.frames = [])) ?_ ⟨begins, fun impossible => by cases impossible⟩ completes
  · exact ends.1.2 ends.2
  · rintro i progress j ⟨mirrors, empty⟩ steps no_overflow
    cases mirrors with
    | ended bounded =>
      cases steps
      exact ⟨.ended bounded, empty⟩
    | @running t id containers stands known =>
      obtain ⟨result, same, arrives⟩ := step_arrives h world stands
      rw [steps] at same
      cases same
      cases arrives with
      | running stands' _ => exact ⟨.running stands' (by simp), by simp⟩
      | finished stack => exact ⟨.ended (by simp [CallStack.size, stack]), by simp [stack]⟩
      | refused => exact absurd rfl (no_overflow _)

end Frames

/-- For every program that loads: after any number of steps from a root, the frames are those of the
    branches and loops that enclose the current instruction, each going on where that one does and
    the innermost first. So the stack is never deeper than the program is nested, and it is empty
    when a thread is completed. -/
theorem frames_mirror_nesting {r : Registry} {root : Markup.Element} {p : Program}
    (loads : Document.load r root = .ok p) {head : InstructionId}
    (is_root : head ∈ p.rootInstructions ++ p.customInstructions) (world : World) (limit : Option Nat)
    (vars : Variables) :
    (∀ n, ∃ i, (Interpreter.begin limit vars (some head)).after p world n = .ok i ∧
      (∀ id, i.current = some id → ∃ containers : List InstructionId,
        i.thread.stack.frames = containers.map p.scopeFrame ∧ containers.Nodup ∧
        (∀ c, c ∈ containers ↔ p.Encloses c id) ∧
        containers.Pairwise fun inner outer => p.Encloses outer inner) ∧
      i.thread.stack.size ≤ p.nestingDepth) ∧
    ∀ budget steps i, (Interpreter.begin limit vars (some head)).run p world budget = .ok (.completed steps, i) →
      i.thread.stack.frames = [] := by
  obtain ⟨t, -, builds⟩ := Document.read_of_load loads
  refine ⟨fun n => ?_, fun _ _ _ => completed_empty builds.linked world limit vars is_root⟩
  obtain ⟨i, reached, mirrors⟩ := after_mirrors builds.linked world limit vars is_root n
  refine ⟨i, reached, ?_, ?_⟩
  · intro id current
    cases mirrors with
    | ended => cases current
    | @running t id containers stands known =>
      cases current
      have around := stands.around
      refine ⟨containers, ?_, around.nodup builds.linked, fun c => around.mem_iff builds.linked,
        around.pairwise builds.linked⟩
      rw [stands.stack]
  · cases mirrors with
    | ended bounded => exact bounded
    | running stands =>
      rw [stands.stack, CallStack.size, List.length_map]
      exact stands.around.length_le builds.linked

/-! ## A branch before a loop -/

/-- A loop that holds a branch and, behind it, another loop. The branch logs and repeats. -/
def branchBeforeLoop : Markup.Element :=
  let always : Markup.Element := ⟨"Constant", [("bool", "true")], []⟩
  ⟨"Program", [], [⟨"Instructions", [],
    [⟨"While", [], [always, ⟨"Instructions", [],
      [⟨"If", [], [always, ⟨"Instructions", [], [⟨"Log", [], []⟩, ⟨"Continue", [], []⟩]⟩]⟩,
       ⟨"While", [], []⟩]⟩]⟩]⟩]⟩

/-- The same program, loaded: the outer loop is at 4, the branch at 2 and the inner loop at 3. -/
def branchBeforeLoopProgram : Program where
  name := ""
  expressions := #[⟨.constant (.bool true), []⟩, ⟨.constant (.bool true), []⟩]
  instructions := #[⟨.log, [], some 1, none⟩, ⟨.continueLoop, [], none, none⟩, ⟨.branch, [1], some 3, some 0⟩,
    ⟨.loop, [], none, none⟩, ⟨.loop, [0], none, some 2⟩]
  rootInstructions := [4]

theorem load_branchBeforeLoop : Document.load .full branchBeforeLoop = .ok branchBeforeLoopProgram := rfl

/-- Three steps lead to the jump, which stands in the branch and in the loop around it. -/
theorem frames_mirror_nesting_at_jump : 4 ∈ branchBeforeLoopProgram.rootInstructions ∧
    ∃ i, (Interpreter.begin (some 2) .empty (some 4)).after branchBeforeLoopProgram .empty 3 = .ok i ∧
      i.thread.stack.frames = [⟨some 3, true⟩, ⟨some 4, true⟩] ∧
      i.thread.stack.size ≤ branchBeforeLoopProgram.nestingDepth := by
  have root : 4 ∈ branchBeforeLoopProgram.rootInstructions ++ branchBeforeLoopProgram.customInstructions := by
    decide
  refine ⟨by decide, ?_⟩
  obtain ⟨i, reached, -, bounded⟩ :=
    (frames_mirror_nesting load_branchBeforeLoop root .empty (some 2) .empty).1 3
  refine ⟨i, reached, ?_, bounded⟩
  cases reached
  rfl

end FlightBlocks
