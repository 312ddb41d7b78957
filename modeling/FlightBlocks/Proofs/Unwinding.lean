import FlightBlocks.Proofs.Stepping

/-!
# Taking frames off a stack

`Break` and `Continue` take frames off one by one, and each has its own loop for it. That of `Break` takes a frame as
long as there is one and then looks at it (`CallStack.popToBoundary`). That of `Continue` has taken a frame before it
begins, and takes another one as long as some are left and the last one is no boundary (`CallStack.popWhileLeft`). At
the end of a scope a step has a third loop, which takes frames as long as none of them says where to go on
(`CallStack.popToReturn`).

The first two stop at the innermost boundary, on every stack (`break_unwinds`, `continue_unwinds`). Where there is none
both take everything, but `Continue` still goes on where the outermost frame does.
-/

namespace FlightBlocks

namespace CallStack

theorem size_pop_lt {s : CallStack} (left : 0 < s.size) : s.pop.2.size < s.size := by
  obtain ⟨_ | ⟨f, rest⟩, limit⟩ := s
  · exact absurd left (Nat.lt_irrefl 0)
  · exact Nat.lt_succ_self rest.length

theorem size_lt_of_pop {s rest : CallStack} {f : Frame} (taken : s.pop = (some f, rest)) : rest.size < s.size := by
  obtain ⟨_ | ⟨g, others⟩, limit⟩ := s
  · cases taken
  · cases taken
    exact Nat.lt_succ_self others.length

/-- Takes off a frame as long as there is one, and gives the first one that is a boundary. -/
def popToBoundary (s : CallStack) : Option Frame × CallStack :=
  match _taken : s.pop with
  | (none, rest) => (none, rest)
  | (some f, rest) => if f.isLoopBoundary then (some f, rest) else popToBoundary rest
termination_by s.size
decreasing_by exact size_lt_of_pop _taken

/-- Takes off further frames as long as some are left and the last one taken is no boundary, and gives the last
    one. -/
def popWhileLeft (last : Option Frame) (s : CallStack) : Option Frame × CallStack :=
  if 0 < s.size ∧ ¬last.any Frame.isLoopBoundary then popWhileLeft s.pop.1 s.pop.2 else (last, s)
termination_by s.size
decreasing_by exact size_pop_lt (by tauto)

/-- As long as it is not known where to go on and there is a frame, takes one off and asks it. -/
def popToReturn (next : Option InstructionId) (s : CallStack) : Option InstructionId × CallStack :=
  match next with
  | some id => (some id, s)
  | none =>
    match _taken : s.pop with
    | (none, rest) => (none, rest)
    | (some f, rest) => popToReturn f.returnTo rest
termination_by s.size
decreasing_by exact size_lt_of_pop _taken

variable {limit : Option Nat} {above below : List Frame} {f g : Frame}

/-! ## Frames as long as there are some -/

theorem popToBoundary_nil : popToBoundary ⟨[], limit⟩ = (none, ⟨[], limit⟩) := by
  rw [popToBoundary]
  rfl

theorem popToBoundary_cons : popToBoundary ⟨f :: below, limit⟩ =
    if f.isLoopBoundary then (some f, ⟨below, limit⟩) else popToBoundary ⟨below, limit⟩ := by
  rw [popToBoundary]
  rfl

theorem popToBoundary_append (others : ∀ g ∈ above, g.isLoopBoundary = false) :
    popToBoundary ⟨above ++ below, limit⟩ = popToBoundary ⟨below, limit⟩ := by
  induction above with
  | nil => rfl
  | cons g above ih =>
    obtain ⟨first, others⟩ := List.forall_mem_cons.mp others
    rw [List.cons_append, popToBoundary_cons, first, if_neg Bool.false_ne_true, ih others]

theorem unwind_eq (s : CallStack) : s.unwind = s.popToBoundary := by
  obtain ⟨frames, limit⟩ := s
  induction frames with
  | nil => rw [popToBoundary_nil]; rfl
  | cons f rest ih =>
    rw [popToBoundary_cons]
    cases boundary : f.isLoopBoundary with
    | true => simp [unwind, boundary]
    | false =>
      rw [if_neg Bool.false_ne_true, ← ih]
      simp [unwind, boundary]

/-! ## Frames as long as some are left -/

theorem popWhileLeft_nil {last : Option Frame} : popWhileLeft last ⟨[], limit⟩ = (last, ⟨[], limit⟩) := by
  rw [popWhileLeft]
  simp [size]

theorem popWhileLeft_boundary (stops : f.isLoopBoundary = true) {s : CallStack} :
    popWhileLeft (some f) s = (some f, s) := by
  rw [popWhileLeft]
  simp [stops]

theorem popWhileLeft_cons (more : f.isLoopBoundary = false) :
    popWhileLeft (some f) ⟨g :: below, limit⟩ = popWhileLeft (some g) ⟨below, limit⟩ := by
  rw [popWhileLeft]
  simp [size, more, pop]

/-- As long as no boundary is met, the last frame taken is the last one of those that are taken. -/
theorem popWhileLeft_append (others : ∀ g ∈ f :: above, g.isLoopBoundary = false) :
    popWhileLeft (some f) ⟨above ++ g :: below, limit⟩ = popWhileLeft (some g) ⟨below, limit⟩ := by
  induction above generalizing f with
  | nil => exact popWhileLeft_cons (others f (by simp))
  | cons h above ih =>
    obtain ⟨first, others⟩ := List.forall_mem_cons.mp others
    rw [List.cons_append, popWhileLeft_cons first, ih others]

theorem popWhileLeft_eq (f : Frame) (below : List Frame) : popWhileLeft (some f) ⟨below, limit⟩ =
    ((lastTaken (f :: below)).1, ⟨(lastTaken (f :: below)).2, limit⟩) := by
  induction below generalizing f with
  | nil => exact popWhileLeft_nil
  | cons g below ih =>
    rw [lastTaken]
    · cases boundary : f.isLoopBoundary with
      | true => exact popWhileLeft_boundary boundary
      | false =>
        rw [popWhileLeft_cons boundary, ih g]
        rfl
    · exact List.cons_ne_nil g below

theorem unwindOrEmpty_eq (s : CallStack) : s.unwindOrEmpty = popWhileLeft s.pop.1 s.pop.2 := by
  obtain ⟨frames, limit⟩ := s
  cases frames with
  | nil => exact popWhileLeft_nil.symm
  | cons f rest => exact (popWhileLeft_eq f rest).symm

/-! ## Frames as long as none says where to go on -/

theorem popToReturn_some {id : InstructionId} {s : CallStack} : popToReturn (some id) s = (some id, s) := by
  rw [popToReturn]

theorem popToReturn_nil : popToReturn none ⟨[], limit⟩ = (none, ⟨[], limit⟩) := by
  rw [popToReturn]
  rfl

theorem popToReturn_cons : popToReturn none ⟨f :: below, limit⟩ = popToReturn f.returnTo ⟨below, limit⟩ := by
  rw [popToReturn]
  rfl

theorem resume_eq (s : CallStack) : s.resume = s.popToReturn none := by
  obtain ⟨frames, limit⟩ := s
  induction frames with
  | nil => rw [popToReturn_nil]; rfl
  | cons f rest ih =>
    rw [popToReturn_cons]
    cases returns : f.returnTo with
    | some id =>
      rw [popToReturn_some]
      simp [resume, returns]
    | none =>
      rw [← ih]
      simp [resume, returns]

/-! ## Where the loops of the jumps stop -/

/-- Frames without a boundary, or with an innermost one. -/
theorem innermost_boundary {frames : List Frame} (stops : ∃ f ∈ frames, f.isLoopBoundary = true) :
    ∃ above f below, frames = above ++ f :: below ∧ (∀ g ∈ above, g.isLoopBoundary = false) ∧
      f.isLoopBoundary = true := by
  obtain ⟨f, found⟩ := Option.isSome_iff_exists.mp (List.find?_isSome.mpr stops)
  obtain ⟨boundary, above, below, shape, others⟩ := List.find?_eq_some_iff_append.mp found
  exact ⟨above, f, below, shape, by simpa using others, boundary⟩

theorem unwind_at_boundary (others : ∀ g ∈ above, g.isLoopBoundary = false) (stops : f.isLoopBoundary = true) :
    unwind ⟨above ++ f :: below, limit⟩ = (some f, ⟨below, limit⟩) := by
  rw [unwind_eq, popToBoundary_append others, popToBoundary_cons, if_pos stops]

theorem unwind_without_boundary (others : ∀ g ∈ above, g.isLoopBoundary = false) :
    unwind ⟨above, limit⟩ = (none, ⟨[], limit⟩) := by
  rw [unwind_eq, ← List.append_nil above, popToBoundary_append others, popToBoundary_nil]

theorem unwindOrEmpty_at_boundary (others : ∀ g ∈ above, g.isLoopBoundary = false) (stops : f.isLoopBoundary = true) :
    unwindOrEmpty ⟨above ++ f :: below, limit⟩ = (some f, ⟨below, limit⟩) := by
  rw [unwindOrEmpty_eq]
  cases above with
  | nil => exact popWhileLeft_boundary stops
  | cons top above =>
    calc popWhileLeft (some top) ⟨above ++ f :: below, limit⟩
      _ = popWhileLeft (some f) ⟨below, limit⟩ := popWhileLeft_append others
      _ = (some f, ⟨below, limit⟩) := popWhileLeft_boundary stops

theorem unwindOrEmpty_without_boundary (others : ∀ g ∈ above, g.isLoopBoundary = false) :
    unwindOrEmpty ⟨above, limit⟩ = (above.getLast?, ⟨[], limit⟩) := by
  rw [unwindOrEmpty_eq]
  cases above with
  | nil => exact popWhileLeft_nil
  | cons top above =>
    rcases above.eq_nil_or_concat with rfl | ⟨between, bottom, rfl⟩
    · exact popWhileLeft_nil
    · rw [List.concat_eq_append] at others ⊢
      have bottommost : (top :: (between ++ [bottom])).getLast? = some bottom :=
        List.getLast?_append (l := top :: between)
      rw [bottommost]
      have inner : ∀ g ∈ top :: between, g.isLoopBoundary = false := by
        intro g member
        exact others g (by rw [← List.cons_append]; exact List.mem_append_left _ member)
      calc popWhileLeft (some top) ⟨between ++ [bottom], limit⟩
        _ = popWhileLeft (some bottom) ⟨[], limit⟩ := popWhileLeft_append inner
        _ = (some bottom, ⟨[], limit⟩) := popWhileLeft_nil

end CallStack

/-- A step without a fault goes on where the third loop leads, which begins with what the instruction gave. -/
theorem Interpreter.proceed_eq {next : Option InstructionId} {t : Thread} (sound : t.fault = none) :
    proceed next t =
      (if (t.stack.popToReturn next).1.isSome then .running else .finished,
        ⟨{ t with stack := (t.stack.popToReturn next).2 }, (t.stack.popToReturn next).1⟩) := by
  obtain ⟨stack, vars, output, fault⟩ := t
  cases sound
  cases next with
  | some id =>
    rw [CallStack.popToReturn_some]
    rfl
  | none =>
    simp only [proceed, ← CallStack.resume_eq]
    obtain ⟨_ | id, below⟩ := stack.resume
    · rfl
    · rfl

/-! ## The two jumps -/

section Jumps

variable {p : Program} {t : Thread} {id : InstructionId} {slot : InstructionSlot} (world : World)
  (at_id : p.instructions[id]? = some slot)

theorem Frame.returns_of_boundary {f : Frame} (stops : f.isLoopBoundary = true) :
    ∃ target, f.returnTo = some target := by
  rw [isLoopBoundary, Bool.and_eq_true] at stops
  exact Option.isSome_iff_exists.mp stops.1

include at_id

/-- `Break` goes on behind the instruction that the boundary returns to. -/
theorem break_behind {f : Frame} {target : InstructionId} {loop : InstructionSlot} {stack : CallStack}
    (jump : slot.node = .breakLoop) (unwinds : t.stack.unwind = (some f, stack)) (returns : f.returnTo = some target)
    (at_target : p.instructions[target]? = some loop) :
    t.execute p world id = .ok (loop.next, { t with stack }) := by
  obtain ⟨returnTo, flag⟩ := f
  cases returns
  unfold Thread.execute
  rw [Program.instruction_eq_ok at_id]
  simp only [bind, Except.bind, jump, unwinds, Program.instruction_eq_ok at_target]
  rfl

theorem break_nowhere {stack : CallStack} (jump : slot.node = .breakLoop) (unwinds : t.stack.unwind = (none, stack)) :
    t.execute p world id = .ok (none, { t with stack }) := by
  unfold Thread.execute
  rw [Program.instruction_eq_ok at_id]
  simp only [bind, Except.bind, jump, unwinds]
  rfl

/-- `Continue` goes on where the last frame taken does. -/
theorem continue_at {last : Option Frame} {stack : CallStack} (jump : slot.node = .continueLoop)
    (unwinds : t.stack.unwindOrEmpty = (last, stack)) :
    t.execute p world id = .ok (last.bind (·.returnTo), { t with stack }) := by
  unfold Thread.execute
  rw [Program.instruction_eq_ok at_id]
  simp only [bind, Except.bind, jump, unwinds]
  rfl

/-- `Break` takes off the innermost boundary with all above it and goes on behind the instruction that the boundary
    returns to. If there is none, it takes off all frames and goes on nowhere. -/
theorem break_unwinds (jump : slot.node = .breakLoop)
    (returns : ∀ f ∈ t.stack.frames, ∀ id, f.returnTo = some id → id < p.instructions.size) :
    (∀ above f below, t.stack.frames = above ++ f :: below → (∀ g ∈ above, g.isLoopBoundary = false) →
      f.isLoopBoundary = true → ∃ target loop, f.returnTo = some target ∧ p.instructions[target]? = some loop ∧
        t.execute p world id = .ok (loop.next, { t with stack := { t.stack with frames := below } })) ∧
    ((∀ f ∈ t.stack.frames, f.isLoopBoundary = false) →
      t.execute p world id = .ok (none, { t with stack := { t.stack with frames := [] } })) := by
  obtain ⟨⟨frames, limit⟩, vars, output, fault⟩ := t
  constructor
  · rintro above f below rfl others boundary
    obtain ⟨target, returns_to⟩ := Frame.returns_of_boundary boundary
    have inside : target < p.instructions.size := returns f (by simp) target returns_to
    have at_target : p.instructions[target]? = some p.instructions[target] := Array.getElem?_eq_getElem inside
    exact ⟨target, _, returns_to, at_target,
      break_behind world at_id jump (CallStack.unwind_at_boundary others boundary) returns_to at_target⟩
  · exact fun others => break_nowhere world at_id jump (CallStack.unwind_without_boundary others)

/-- `Continue` takes off the innermost boundary with all above it and goes on where the boundary does. If there is
    none, it takes off all frames and goes on where the outermost one does, if there is any. -/
theorem continue_unwinds (jump : slot.node = .continueLoop) :
    (∀ above f below, t.stack.frames = above ++ f :: below → (∀ g ∈ above, g.isLoopBoundary = false) →
      f.isLoopBoundary = true →
        t.execute p world id = .ok (f.returnTo, { t with stack := { t.stack with frames := below } })) ∧
    ((∀ f ∈ t.stack.frames, f.isLoopBoundary = false) →
      t.execute p world id =
        .ok (t.stack.frames.getLast?.bind (·.returnTo), { t with stack := { t.stack with frames := [] } })) := by
  obtain ⟨⟨frames, limit⟩, vars, output, fault⟩ := t
  constructor
  · rintro above f below rfl others boundary
    rw [continue_at world at_id jump (CallStack.unwindOrEmpty_at_boundary others boundary)]
    rfl
  · exact fun others => continue_at world at_id jump (CallStack.unwindOrEmpty_without_boundary others)

end Jumps

/-- For every program, every thread whose frames go on with instructions of the program or nowhere, and a `Break` and
    a `Continue` anywhere in it. If some frame is a boundary, both take off the innermost one with all above it and
    leave those below; `Continue` goes on where the boundary does, and `Break` behind that. If no frame is one, both
    take off all; `Break` goes on nowhere, and `Continue` where the outermost frame does, if there is any. Nothing
    but the frames changes. -/
theorem jumps_unwind (p : Program) (world : World) (t : Thread)
    (returns : ∀ f ∈ t.stack.frames, ∀ id, f.returnTo = some id → id < p.instructions.size)
    {b c : InstructionId} {at_break at_continue : InstructionSlot} (at_b : p.instructions[b]? = some at_break)
    (breaks : at_break.node = .breakLoop) (at_c : p.instructions[c]? = some at_continue)
    (continues : at_continue.node = .continueLoop) :
    ((∃ f ∈ t.stack.frames, f.isLoopBoundary = true) →
      ∃ above f below target loop, t.stack.frames = above ++ f :: below ∧ (∀ g ∈ above, g.isLoopBoundary = false) ∧
        f.isLoopBoundary = true ∧ f.returnTo = some target ∧ p.instructions[target]? = some loop ∧
        t.execute p world b = .ok (loop.next, { t with stack := { t.stack with frames := below } }) ∧
        t.execute p world c = .ok (some target, { t with stack := { t.stack with frames := below } })) ∧
    ((∀ f ∈ t.stack.frames, f.isLoopBoundary = false) →
      t.execute p world b = .ok (none, { t with stack := { t.stack with frames := [] } }) ∧
      t.execute p world c =
        .ok (t.stack.frames.getLast?.bind (·.returnTo), { t with stack := { t.stack with frames := [] } })) := by
  obtain ⟨break_stops, break_ends⟩ := break_unwinds world at_b breaks returns
  obtain ⟨continue_stops, continue_ends⟩ := continue_unwinds world at_c continues (t := t)
  refine ⟨fun stops => ?_, fun others => ⟨break_ends others, continue_ends others⟩⟩
  obtain ⟨above, f, below, shape, others, boundary⟩ := CallStack.innermost_boundary stops
  obtain ⟨target, loop, returns_to, at_target, breaks⟩ := break_stops above f below shape others boundary
  have continues := continue_stops above f below shape others boundary
  rw [returns_to] at continues
  exact ⟨above, f, below, target, loop, shape, others, boundary, returns_to, at_target, breaks, continues⟩

/-- A loop with a branch in it, from which `Break` and `Continue` leave the loop. -/
def twoJumps : Program where
  name := "two jumps"
  instructions := #[⟨.breakLoop, [], none, none⟩, ⟨.continueLoop, [], some 0, none⟩, ⟨.branch, [], none, some 1⟩,
    ⟨.log, [], none, none⟩, ⟨.loop, [], some 3, some 2⟩]
  rootInstructions := [4]

/-- A frame that goes on nowhere stops no jump, even if it says so: with one on top of the frames of the branch and the
    loop, both jumps take off all three and leave the one below. With one on top of a frame that is no boundary both
    take off everything. -/
theorem jumps_unwind_of_twoJumps :
    (∃ t : Thread, t.stack = ⟨[⟨none, true⟩, ⟨none, false⟩, ⟨some 4, true⟩, ⟨some 3, false⟩], none⟩ ∧
      t.execute twoJumps .empty 0 = .ok (some 3, { t with stack := ⟨[⟨some 3, false⟩], none⟩ }) ∧
      t.execute twoJumps .empty 1 = .ok (some 4, { t with stack := ⟨[⟨some 3, false⟩], none⟩ })) ∧
    ∃ t : Thread, t.stack = ⟨[⟨none, true⟩, ⟨some 3, false⟩], none⟩ ∧
      t.execute twoJumps .empty 0 = .ok (none, { t with stack := ⟨[], none⟩ }) ∧
      t.execute twoJumps .empty 1 = .ok (some 3, { t with stack := ⟨[], none⟩ }) := by
  constructor
  · obtain ⟨above, f, below, target, loop, shape, others, stops, returns, at_target, breaks, continues⟩ :=
      (jumps_unwind twoJumps .empty
        { stack := ⟨[⟨none, true⟩, ⟨none, false⟩, ⟨some 4, true⟩, ⟨some 3, false⟩], none⟩ }
        (by simp [twoJumps]) (b := 0) rfl rfl (c := 1) rfl rfl).1 ⟨⟨some 4, true⟩, by simp, rfl⟩
    obtain ⟨rfl, rfl⟩ : f = ⟨some 4, true⟩ ∧ below = [⟨some 3, false⟩] := by
      rcases above with _ | ⟨first, _ | ⟨second, _ | ⟨third, more⟩⟩⟩ <;>
        simp only [List.cons_append, List.nil_append, List.cons.injEq] at shape
      · obtain ⟨rfl, -⟩ := shape
        cases stops
      · obtain ⟨-, rfl, -⟩ := shape
        cases stops
      · obtain ⟨-, -, rfl, rfl⟩ := shape
        exact ⟨rfl, rfl⟩
      · obtain ⟨-, -, rfl, -⟩ := shape
        cases others ⟨some 4, true⟩ (by simp)
    cases returns
    cases at_target
    exact ⟨_, rfl, breaks, continues⟩
  · obtain ⟨breaks, continues⟩ :=
      (jumps_unwind twoJumps .empty { stack := ⟨[⟨none, true⟩, ⟨some 3, false⟩], none⟩ }
        (by simp [twoJumps]) (b := 0) rfl rfl (c := 1) rfl rfl).2 (by simp [Frame.isLoopBoundary])
    exact ⟨_, rfl, breaks, continues⟩

end FlightBlocks
