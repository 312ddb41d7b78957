import FlightBlocks.Proofs.Frames

/-!
# Limits on the depth of the stack

A limit on the frames of a thread changes nothing about a run until a scope would need one frame more
(`limit_cuts_run`). The reason is that an instruction looks at the limit only where it enters a scope. So each
step falls into one of three cases that do not mention a limit (`Interpreter.Comes`): it fails, it leaves no more
frames than there were, or it enters one scope. Runs under different limits are compared case by case, and never
by executing an instruction again.
-/

namespace FlightBlocks

/-! ## Frames under a limit -/

namespace CallStack

/-- Something that takes frames off a stack, and does so alike under every limit. -/
def TakesOff {α : Type} (take : CallStack → α × CallStack) : Prop :=
  ∀ frames, ∃ result left, left.length ≤ frames.length ∧ ∀ limit, take ⟨frames, limit⟩ = (result, ⟨left, limit⟩)

theorem takesOff_unwind : TakesOff unwind := by
  intro frames
  have shorter := (List.dropWhile_sublist (fun f : Frame => !f.isLoopBoundary) (l := frames)).length_le
  unfold unwind
  cases left : frames.dropWhile fun f => !f.isLoopBoundary with
  | nil => exact ⟨none, [], Nat.zero_le _, fun _ => by simp only [left]⟩
  | cons f rest =>
    rw [left, List.length_cons] at shorter
    exact ⟨some f, rest, by omega, fun _ => by simp only [left]⟩

theorem length_lastTaken (frames : List Frame) : (lastTaken frames).2.length ≤ frames.length := by
  rcases lastTaken_cases frames with ⟨rfl, result⟩ | ⟨inner, f, outer, rfl, -, -, result⟩
  · rw [result]
  · simp only [result, List.length_append, List.length_cons]
    omega

theorem takesOff_unwindOrEmpty : TakesOff unwindOrEmpty :=
  fun frames => ⟨(lastTaken frames).1, (lastTaken frames).2, length_lastTaken frames, fun _ => rfl⟩

theorem takesOff_resume : TakesOff resume := by
  intro frames
  have shorter := (List.dropWhile_sublist (fun f : Frame => f.returnTo.isNone) (l := frames)).length_le
  unfold resume
  cases left : frames.dropWhile fun f => f.returnTo.isNone with
  | nil => exact ⟨none, [], Nat.zero_le _, fun _ => by simp only [left]⟩
  | cons f rest =>
    rw [left, List.length_cons] at shorter
    exact ⟨f.returnTo, rest, by omega, fun _ => by simp only [left]⟩

end CallStack

/-! ## Instructions -/

namespace Thread

variable {p : Program} {world : World} {t : Thread} {id : InstructionId} {slot : InstructionSlot}

/-- The same thread with another limit. -/
def withLimit (limit : Option Nat) (t : Thread) : Thread := { t with stack := { t.stack with limit } }

/-- What comes of entering a scope: its first instruction, or a fault where there is no room. -/
def enter (t : Thread) (first : InstructionId) (frame : Frame) : Option InstructionId × Thread :=
  match t.stack.push frame with
  | .ok stack => (some first, { t with stack })
  | .error overflow => (none, { t with fault := some overflow })

/-- What an instruction does to a thread, whatever the limit of its stack. -/
inductive Does (p : Program) (world : World) (t : Thread) (id : InstructionId) : Prop where
  | fails (e : BrokenLink) (same : ∀ limit, (t.withLimit limit).execute p world id = .error e)
  | goesOn (next : Option InstructionId) (t' : Thread) (fault : t'.fault = t.fault)
      (shallow : t'.stack.size ≤ t.stack.size)
      (same : ∀ limit, (t.withLimit limit).execute p world id = .ok (next, t'.withLimit limit))
  | enters (first : InstructionId) (frame : Frame)
      (same : ∀ limit, (t.withLimit limit).execute p world id = .ok ((t.withLimit limit).enter first frame))

/-- The value that an instruction works on does not depend on the limit. -/
theorem argument_withLimit (limit : Option Nat) :
    (t.withLimit limit).argument p world slot = t.argument p world slot := rfl

theorem does_assignment (at_id : p.instruction id = .ok slot)
    (plain : slot.node = .log ∨ ∃ name, slot.node = .setVariable name) : Does p world t id := by
  cases argument : t.argument p world slot with
  | error e =>
    refine .fails e fun limit => ?_
    rcases plain with log | ⟨name, set⟩
    · simp [execute, at_id, log, argument_withLimit, argument, bind, Except.bind]
    · simp [execute, at_id, set, argument_withLimit, argument, bind, Except.bind]
  | ok value =>
    rcases plain with log | ⟨name, set⟩
    · refine .goesOn slot.next (t.log value.toText) rfl (Nat.le_refl _) fun limit => ?_
      simp [execute, at_id, log, argument_withLimit, argument, bind, Except.bind, pure, Except.pure]
      rfl
    · refine .goesOn slot.next (t.setVariable name value) rfl (Nat.le_refl _) fun limit => ?_
      simp [execute, at_id, set, argument_withLimit, argument, bind, Except.bind, pure, Except.pure]
      rfl

/-- A branch or a loop skips its body or enters it. -/
theorem does_container (slot : InstructionSlot) (returnTo : Option InstructionId)
    (executes : ∀ limit, (t.withLimit limit).execute p world id =
      (t.argument p world slot).bind fun value => (t.withLimit limit).runBody p slot value.toBool returnTo) :
    Does p world t id := by
  cases argument : t.argument p world slot with
  | error e => exact .fails e fun limit => by rw [executes, argument]; rfl
  | ok value =>
    by_cases skips : slot.body = none ∨ value.toBool = false
    · refine .goesOn slot.next t rfl (Nat.le_refl _) fun limit => ?_
      rw [executes, argument]
      exact runBody_skip skips
    · obtain ⟨has_body, holds⟩ := not_or.mp skips
      obtain ⟨first, has_body⟩ := Option.ne_none_iff_exists'.mp has_body
      have holds : value.toBool = true := by simpa using holds
      cases frame_ok : frameFor p returnTo with
      | error e =>
        refine .fails e fun limit => ?_
        rw [executes, argument]
        simp [Except.bind, runBody, has_body, holds, enterScope, pushFrame, frame_ok, bind]
      | ok frame =>
        refine .enters first frame fun limit => ?_
        rw [executes, argument]
        simp only [Except.bind, holds]
        exact runBody_enter has_body frame_ok

theorem does_break (at_id : p.instruction id = .ok slot) (jump : slot.node = .breakLoop) : Does p world t id := by
  obtain ⟨frame, left, shallow, unwinds⟩ := CallStack.takesOff_unwind t.stack.frames
  have executes : ∀ limit, (t.withLimit limit).execute p world id =
      (frame.bind (·.returnTo)).elim (.ok (none, { t with stack := ⟨left, limit⟩ }))
        fun loop => (p.instruction loop).map fun target => (target.next, { t with stack := ⟨left, limit⟩ }) := by
    intro limit
    unfold execute withLimit
    simp only [at_id, jump, bind, Except.bind, pure, Except.pure, unwinds]
    rcases frame with _ | ⟨_ | loop, stops⟩
    · rfl
    · rfl
    · dsimp only [Option.bind_some, Option.elim_some]
      cases p.instruction loop <;> rfl
  cases target : frame.bind (·.returnTo) with
  | none =>
    refine .goesOn none { t with stack := ⟨left, t.stack.limit⟩ } rfl shallow fun limit => ?_
    rw [executes, target]
    rfl
  | some loop =>
    cases at_loop : p.instruction loop with
    | error e => exact .fails e fun limit => by rw [executes, target, Option.elim_some, at_loop]; rfl
    | ok behind =>
      refine .goesOn behind.next { t with stack := ⟨left, t.stack.limit⟩ } rfl shallow fun limit => ?_
      rw [executes, target, Option.elim_some, at_loop]
      rfl

theorem does_continue (at_id : p.instruction id = .ok slot) (jump : slot.node = .continueLoop) :
    Does p world t id := by
  obtain ⟨frame, left, shallow, unwinds⟩ := CallStack.takesOff_unwindOrEmpty t.stack.frames
  refine .goesOn (frame.bind (·.returnTo)) { t with stack := ⟨left, t.stack.limit⟩ } rfl shallow fun limit => ?_
  unfold execute withLimit
  simp only [at_id, jump, bind, Except.bind, pure, Except.pure, unwinds]

theorem does (p : Program) (world : World) (t : Thread) (id : InstructionId) : Does p world t id := by
  cases at_id : p.instruction id with
  | error e => exact .fails e fun limit => by simp [execute, at_id, bind, Except.bind]
  | ok slot =>
    cases node : slot.node with
    | setVariable name => exact does_assignment at_id (.inr ⟨name, node⟩)
    | log => exact does_assignment at_id (.inl node)
    | branch =>
      refine does_container slot slot.next fun limit => ?_
      simp only [execute, at_id, node, bind, Except.bind, argument_withLimit]
    | loop =>
      refine does_container slot (some id) fun limit => ?_
      simp only [execute, at_id, node, bind, Except.bind, argument_withLimit]
    | breakLoop => exact does_break at_id node
    | continueLoop => exact does_continue at_id node

end Thread

/-! ## Steps -/

namespace Interpreter

variable {p : Program} {world : World} {i j : Interpreter} {d n : Nat}

/-- The same state with another limit. -/
def withLimit (limit : Option Nat) (i : Interpreter) : Interpreter := { i with thread := i.thread.withLimit limit }

/-- The same thread, finished. -/
def halted (i : Interpreter) : Interpreter := { i with current := none }

/-- What a step comes to, whatever the limit is. -/
inductive Comes (p : Program) (world : World) (i : Interpreter) : Prop where
  | fails (e : BrokenLink) (same : ∀ limit, (i.withLimit limit).step p world = .error e)
  | goesOn (progress : Progress) (j : Interpreter) (no_overflow : ∀ o, progress ≠ .overflow o)
      (fault : j.thread.fault = none) (shallow : j.thread.stack.size ≤ i.thread.stack.size)
      (same : ∀ limit, (i.withLimit limit).step p world = .ok (progress, j.withLimit limit))
  /-- One frame more. Where it has no room, the thread is finished as it is. -/
  | enters (j : Interpreter) (fault : j.thread.fault = none)
      (deeper : j.thread.stack.size = i.thread.stack.size + 1)
      (room : ∀ limit, (∀ d ∈ limit, i.thread.stack.size < d) →
        (i.withLimit limit).step p world = .ok (.running, j.withLimit limit))
      (full : ∀ d ≤ i.thread.stack.size,
        (i.withLimit (some d)).step p world = .ok (.overflow ⟨d⟩, (i.withLimit (some d)).halted))

/-- Without a fault, going on is a matter of the frames alone. -/
theorem proceed_withLimit (next : Option InstructionId) {t : Thread} (sound : t.fault = none) :
    ∃ (progress : Progress) (j : Interpreter), (∀ o, progress ≠ .overflow o) ∧ j.thread.fault = none ∧
      j.thread.stack.size ≤ t.stack.size ∧
      ∀ limit, proceed next (t.withLimit limit) = (progress, j.withLimit limit) := by
  cases next with
  | some id =>
    exact ⟨.running, ⟨t, some id⟩, by simp, sound, Nat.le_refl _, fun _ => proceed_some id sound⟩
  | none =>
    obtain ⟨target, left, shallow, resumes⟩ := CallStack.takesOff_resume t.stack.frames
    refine ⟨if target.isSome then .running else .finished, ⟨{ t with stack := ⟨left, t.stack.limit⟩ }, target⟩,
      by cases target <;> simp, sound, shallow, fun limit => ?_⟩
    simp only [proceed, Thread.withLimit, sound, resumes]
    cases target <;> simp [withLimit, Thread.withLimit]

/-- Every step of a thread without a fault is of one of the three kinds. -/
theorem comes (p : Program) (world : World) (sound : i.thread.fault = none) : Comes p world i := by
  obtain ⟨t, current⟩ := i
  cases current with
  | none => exact .goesOn .finished ⟨t, none⟩ (by simp) sound (Nat.le_refl _) fun _ => rfl
  | some id =>
    rcases t.does p world id with ⟨e, same⟩ | ⟨next, t', fault, shallow, same⟩ | ⟨first, frame, same⟩
    · refine .fails e fun limit => ?_
      simp [step, withLimit, same, bind, Except.bind]
    · obtain ⟨progress, j, no_overflow, fault', shallow', goes⟩ := proceed_withLimit next (fault.trans sound)
      refine .goesOn progress j no_overflow fault' (Nat.le_trans shallow' shallow) fun limit => ?_
      rw [withLimit, step_of_execute (same limit), goes]
    · refine .enters ⟨{ t with stack := { t.stack with frames := frame :: t.stack.frames } }, some first⟩ sound rfl
        (fun limit room => ?_) fun d full => ?_
      · have pushes : (t.withLimit limit).stack.push frame = .ok ⟨frame :: t.stack.frames, limit⟩ := by
          cases limit with
          | none => rfl
          | some d => exact if_neg (Nat.not_le.mpr (room d rfl))
        rw [withLimit, step_of_execute (same limit)]
        simp only [pushes]
        exact congrArg _ (proceed_some first sound)
      · have refuses : (t.withLimit (some d)).stack.push frame = .error ⟨d⟩ := if_pos full
        rw [withLimit, step_of_execute (same (some d))]
        simp only [refuses]
        obtain ⟨stack, vars, output, fault⟩ := t
        cases sound
        rfl

/-! ## Runs -/

/-- What every step keeps holds wherever a number of steps leads. -/
theorem after_keeps (good : Interpreter → Prop)
    (step : ∀ i progress j, good i → i.step p world = .ok (progress, j) → good j) {start : Interpreter}
    (begins : good start) (reached : start.after p world n = .ok i) : good i := by
  induction n generalizing start with
  | zero =>
    cases reached
    exact begins
  | succ n ih =>
    rw [after] at reached
    cases first : start.step p world with
    | error e => simp [first, bind, Except.bind] at reached
    | ok result =>
      simp only [first, bind, Except.bind] at reached
      exact ih (step start _ _ begins first) reached

/-- A finished thread stays as it is. -/
theorem after_halted {start : Interpreter} (reached : start.after p world n = .ok i.halted) (k : Nat) :
    start.after p world (n + k) = .ok i.halted := by
  induction k with
  | zero => exact reached
  | succ k ih => exact after_succ ih rfl

/-- A thread for which no limit is set, without a fault. -/
structure Unlimited (i : Interpreter) : Prop where
  limit : i.thread.stack.limit = none
  fault : i.thread.fault = none

theorem begin_withLimit (limit other : Option Nat) (vars : Variables) (start : Option InstructionId) :
    (begin other vars start).withLimit limit = begin limit vars start := rfl

theorem unlimited_begin (vars : Variables) (start : Option InstructionId) :
    (begin none vars start).Unlimited := ⟨rfl, rfl⟩

theorem Unlimited.withLimit_none (free : i.Unlimited) : i.withLimit none = i := by
  obtain ⟨⟨⟨frames, limit⟩, vars, output, fault⟩, current⟩ := i
  cases free.limit
  rfl

/-- A step with a limit is the step without one, while its frames fit. If they do not, the scope is
    refused: the thread is left as it was, and finished. -/
theorem Unlimited.step_limited (p : Program) (world : World) (free : i.Unlimited) (fits : i.thread.stack.size ≤ d) :
    (∀ e, i.step p world = .error e → (i.withLimit (some d)).step p world = .error e) ∧
    ∀ progress j, i.step p world = .ok (progress, j) → j.Unlimited ∧
      (j.thread.stack.size ≤ d → (i.withLimit (some d)).step p world = .ok (progress, j.withLimit (some d))) ∧
      (d < j.thread.stack.size →
        (i.withLimit (some d)).step p world = .ok (.overflow ⟨d⟩, (i.withLimit (some d)).halted)) := by
  rcases comes p world free.fault with ⟨e, same⟩ | ⟨progress, j, -, fault, shallow, same⟩ |
    ⟨j, fault, deeper, room, full⟩
  · have fails := same none
    rw [free.withLimit_none] at fails
    exact ⟨fun e' steps => by rw [same, ← steps, fails], fun _ _ steps => by simp [fails] at steps⟩
  · have goes := same none
    rw [free.withLimit_none] at goes
    refine ⟨fun _ steps => by simp [goes] at steps, ?_⟩
    rintro _ _ steps
    rw [goes] at steps
    cases steps
    exact ⟨⟨rfl, fault⟩, fun _ => same (some d), fun large => absurd (Nat.le_trans shallow fits) (Nat.not_le.mpr large)⟩
  · have goes := room none (by simp)
    rw [free.withLimit_none] at goes
    refine ⟨fun _ steps => by simp [goes] at steps, ?_⟩
    rintro _ _ steps
    rw [goes] at steps
    cases steps
    have deeper : (j.withLimit none).thread.stack.size = i.thread.stack.size + 1 := deeper
    refine ⟨⟨rfl, fault⟩, fun small => ?_, fun large => full d (by omega)⟩
    refine room (some d) fun limit same => ?_
    cases same
    omega

theorem Unlimited.after (free : i.Unlimited) (reached : i.after p world n = .ok j) : j.Unlimited := by
  refine after_keeps Unlimited (fun i progress j free steps => ?_) free reached
  exact ((free.step_limited p world (Nat.le_refl _)).2 progress j steps).1

/-- For so many steps a thread never has more than so many frames. -/
def StaysWithin (p : Program) (world : World) (d n : Nat) (start : Interpreter) : Prop :=
  ∀ m ≤ n, ∀ i, start.after p world m = .ok i → i.thread.stack.size ≤ d

/-- As long as the frames fit, both runs take the same steps, and fail alike. -/
theorem Unlimited.after_limited {start : Interpreter} (free : start.Unlimited)
    (within : StaysWithin p world d n start) :
    (start.withLimit (some d)).after p world n = (start.after p world n).map (withLimit (some d)) := by
  induction n generalizing start with
  | zero => rfl
  | succ n ih =>
    have fits : start.thread.stack.size ≤ d := within 0 (Nat.zero_le _) start rfl
    obtain ⟨fails, goes⟩ := free.step_limited p world fits
    rw [Interpreter.after, Interpreter.after]
    cases first : start.step p world with
    | error e =>
      rw [fails e first]
      rfl
    | ok result =>
      obtain ⟨progress, j⟩ := result
      have tail : ∀ m, start.after p world (m + 1) = j.after p world m := by
        intro m
        simp [Interpreter.after, first, bind, Except.bind]
      have rest : StaysWithin p world d n j := fun m before i reached =>
        within (m + 1) (Nat.succ_le_succ before) i (by rw [tail, reached])
      obtain ⟨free', same, -⟩ := goes progress j first
      rw [same (rest 0 (Nat.zero_le _) j rfl)]
      exact ih free' rest

/-- A thread whose frames fit under its limit. -/
structure Bounded (d : Nat) (i : Interpreter) : Prop where
  limit : i.thread.stack.limit = some d
  fault : i.thread.fault = none
  fits : i.thread.stack.size ≤ d

theorem Bounded.withLimit_some (bounded : i.Bounded d) : i.withLimit (some d) = i := by
  obtain ⟨⟨⟨frames, limit⟩, vars, output, fault⟩, current⟩ := i
  cases bounded.limit
  rfl

theorem Bounded.step {progress : Progress} (bounded : i.Bounded d) (steps : i.step p world = .ok (progress, j)) :
    j.Bounded d := by
  rcases comes p world bounded.fault with ⟨e, same⟩ | ⟨progress', j', -, fault, shallow, same⟩ |
    ⟨j', fault, deeper, room, full⟩
  · have fails := same (some d)
    rw [bounded.withLimit_some, steps] at fails
    cases fails
  · have goes := same (some d)
    rw [bounded.withLimit_some, steps] at goes
    cases goes
    exact ⟨rfl, fault, Nat.le_trans shallow bounded.fits⟩
  · by_cases small : i.thread.stack.size < d
    · have goes := room (some d) (by simpa using small)
      rw [bounded.withLimit_some, steps] at goes
      cases goes
      exact ⟨rfl, fault, deeper.symm ▸ small⟩
    · have refused := full d (Nat.not_lt.mp small)
      rw [bounded.withLimit_some, steps] at refused
      cases refused
      exact ⟨bounded.limit, bounded.fault, bounded.fits⟩

theorem runFrom_succ {budget steps : Nat} {progress : Progress} (unfinished : i.isFinished = false)
    (goes : i.step p world = .ok (progress, j)) (no_overflow : ∀ o, progress ≠ .overflow o) :
    runFrom p world (budget + 1) steps i = runFrom p world budget (steps + 1) j := by
  simp only [runFrom, unfinished, goes, bind, Except.bind]
  cases progress with
  | running => rfl
  | finished => rfl
  | overflow o => exact absurd rfl (no_overflow o)

/-- A run that no limit ends is the same run under a larger limit, or under none. -/
theorem runFrom_larger {larger : Option Nat} (more : ∀ e ∈ larger, d ≤ e) {budget steps : Nat} {outcome : Outcome}
    (sound : i.thread.fault = none) (no_overflow : ∀ o, outcome ≠ .overflow o)
    (runs : runFrom p world budget steps (i.withLimit (some d)) = .ok (outcome, j)) :
    runFrom p world budget steps (i.withLimit larger) = .ok (outcome, j.withLimit larger) := by
  induction budget generalizing i steps with
  | zero =>
    cases runs
    rfl
  | succ budget ih =>
    by_cases finished : i.isFinished
    · have ends : ∀ limit, runFrom p world (budget + 1) steps (i.withLimit limit) =
          .ok (.completed steps, i.withLimit limit) := fun limit => if_pos finished
      rw [ends] at runs ⊢
      cases runs
      rfl
    have unfinished : ∀ limit, (i.withLimit limit).isFinished = false := fun _ => Bool.not_eq_true _ ▸ finished
    rcases comes p world sound with ⟨e, same⟩ | ⟨progress, j', calm, fault, -, same⟩ | ⟨j', fault, -, room, full⟩
    · simp [runFrom, unfinished, same, bind, Except.bind] at runs
    · rw [runFrom_succ (unfinished _) (same _) calm] at runs ⊢
      exact ih fault runs
    · by_cases small : i.thread.stack.size < d
      · have here := room (some d) (by simpa using small)
        have there := room larger fun e is_limit => Nat.lt_of_lt_of_le small (more e is_limit)
        rw [runFrom_succ (unfinished _) here (by simp)] at runs
        rw [runFrom_succ (unfinished _) there (by simp)]
        exact ih fault runs
      · have refused := full d (Nat.not_lt.mp small)
        simp only [runFrom, unfinished, refused, bind, Except.bind, pure, Except.pure] at runs
        cases runs
        exact absurd rfl (no_overflow _)

end Interpreter

open Interpreter in
/-- A limit cuts a run off before the first step after which more frames would be there than it allows. Up to
    there the run with the limit takes the steps of the run without one; that step is refused, which leaves the
    stack, the variables and the output as they were and finishes the thread for good. So there are never more
    frames than the limit allows, and a run that ends otherwise is the same under every larger limit. -/
theorem limit_cuts_run (p : Program) (world : World) (vars : Variables) (start : Option InstructionId) (d : Nat) :
    (∀ n, StaysWithin p world d n (begin none vars start) →
      (begin (some d) vars start).after p world n =
        ((begin none vars start).after p world n).map (withLimit (some d)) ∧
      ∀ i, (begin none vars start).after p world n = .ok i →
        (∀ e, i.step p world = .error e → (i.withLimit (some d)).step p world = .error e) ∧
        ∀ progress j, i.step p world = .ok (progress, j) →
          (j.thread.stack.size ≤ d → (i.withLimit (some d)).step p world = .ok (progress, j.withLimit (some d))) ∧
          (d < j.thread.stack.size →
            (i.withLimit (some d)).step p world = .ok (.overflow ⟨d⟩, (i.withLimit (some d)).halted) ∧
            ∀ k, (begin (some d) vars start).after p world (n + 1 + k) = .ok (i.withLimit (some d)).halted ∧
              (i.withLimit (some d)).halted.step p world = .ok (.finished, (i.withLimit (some d)).halted))) ∧
    (∀ n i, (begin (some d) vars start).after p world n = .ok i → i.thread.stack.size ≤ d) ∧
    ∀ larger : Option Nat, (∀ e ∈ larger, d ≤ e) → ∀ budget outcome i, (∀ o, outcome ≠ .overflow o) →
      (begin (some d) vars start).run p world budget = .ok (outcome, i) →
      (begin larger vars start).run p world budget = .ok (outcome, i.withLimit larger) := by
  have free := unlimited_begin vars start
  refine ⟨fun n within => ?_, fun n i reached => ?_, fun larger more budget outcome i no_overflow runs => ?_⟩
  · have same := free.after_limited within
    rw [begin_withLimit] at same
    refine ⟨same, fun i reached => ?_⟩
    have fits := within n (Nat.le_refl n) i reached
    obtain ⟨fails, goes⟩ := (free.after reached).step_limited p world fits
    refine ⟨fails, fun progress j steps => ?_⟩
    obtain ⟨-, goes_on, refused⟩ := goes progress j steps
    refine ⟨goes_on, fun large => ⟨refused large, fun k => ⟨?_, rfl⟩⟩⟩
    have reached' : (begin (some d) vars start).after p world n = .ok (i.withLimit (some d)) := by
      rw [same, reached]
      rfl
    exact after_halted (after_succ reached' (refused large)) k
  · have begins : (begin (some d) vars start).Bounded d := ⟨rfl, rfl, Nat.zero_le d⟩
    exact (after_keeps (Bounded d) (fun _ _ _ bounded => bounded.step) begins reached).fits
  · have sound : (begin none vars start).thread.fault = none := rfl
    exact runFrom_larger more sound no_overflow runs

/-- A loop around a branch around a line of output, for ever. -/
def nestedScopes : Program where
  name := "nested"
  expressions := #[⟨.constant (.bool true), []⟩]
  instructions := #[⟨.log, [0], none, none⟩, ⟨.branch, [0], none, some 0⟩, ⟨.loop, [0], none, some 1⟩]
  rootInstructions := [2]

open Interpreter in
/-- With room for one frame the branch is refused in the second step; with room for two, nothing is missed. -/
theorem limit_cuts_run_of_nested :
    (∃ i, (begin none .empty (some 2)).after nestedScopes .empty 1 = .ok i ∧ i.current = some 1 ∧
      (i.withLimit (some 1)).step nestedScopes .empty = .ok (.overflow ⟨1⟩, (i.withLimit (some 1)).halted) ∧
      (begin (some 1) .empty (some 2)).after nestedScopes .empty 9 = .ok (i.withLimit (some 1)).halted) ∧
    ∃ i, (begin none .empty (some 2)).run nestedScopes .empty 7 = .ok (.stepLimit 7, i) ∧
      i.thread.output = #["true", "true"] := by
  constructor
  · have within : StaysWithin nestedScopes .empty 1 1 (begin none .empty (some 2)) := by
      intro m before i reached
      match m, before with
      | 0, _ =>
        cases reached
        decide
      | 1, _ =>
        cases reached
        decide
    obtain ⟨-, steps⟩ := (limit_cuts_run nestedScopes .empty .empty (some 2) 1).1 1 within
    obtain ⟨refused, ends⟩ := ((steps _ rfl).2 _ _ rfl).2 (by decide)
    exact ⟨_, rfl, rfl, refused, (ends 7).1⟩
  · have larger := (limit_cuts_run nestedScopes .empty .empty (some 2) 2).2.2 none (by simp) 7 (.stepLimit 7)
    exact ⟨_, larger _ (by simp) rfl, rfl⟩

end FlightBlocks
