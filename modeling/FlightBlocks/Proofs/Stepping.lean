import FlightBlocks.Interpreter
import FlightBlocks.Proofs.Links
import FlightBlocks.Proofs.Tree

/-!
# Steps that cannot fail

Where links are in order every expression has a value and every instruction can be executed. Beside
`Interpreter.run`, which counts and stops, `Interpreter.after` takes a number of steps and nothing
else; what holds at the beginning and is kept by a step holds after any number of them.
-/

namespace FlightBlocks

/-! ## Values in programs whose links are in order -/

namespace Program

variable {p : Program} {openE : List ExpressionId} {openI : List InstructionId}

theorem instruction_eq_ok {id : InstructionId} {slot : InstructionSlot} (at_id : p.instructions[id]? = some slot) :
    p.instruction id = .ok slot := by
  rw [instruction, at_id]

/-- The value of a child by its position in a list, where links are followed at most so far. -/
def childWithin (p : Program) (world : World) (vars : Variables) (depth : Nat) (children : List ExpressionId)
    (i : Nat) : Except BrokenLink Value :=
  (children[i]?.map (p.evaluateWithin world vars depth)).getD (.ok .zero)

theorem evaluateWithin_succ {world : World} {vars : Variables} {depth : Nat} {id : ExpressionId}
    {slot : ExpressionSlot} (at_id : p.expressions[id]? = some slot) :
    p.evaluateWithin world vars (depth + 1) id =
      slot.node.evaluate world vars (p.childWithin world vars depth slot.children) := by
  simp only [evaluateWithin, expression, at_id, bind, Except.bind]
  congr 1
  funext i
  unfold childWithin
  cases slot.children[i]? <;> rfl

theorem Linked.evaluateWithin_ok (h : p.Linked openE openI) (world : World) (vars : Variables) (depth : Nat) :
    ∀ id : Nat, id < depth → id < p.expressions.size → ∃ value, p.evaluateWithin world vars depth id = .ok value := by
  induction depth with
  | zero => intro id below; omega
  | succ depth ih =>
    intro id below inside
    have at_id : p.expressions[id]? = some p.expressions[id] := Array.getElem?_eq_getElem inside
    have child_ok : ∀ i : Nat, ∃ value,
        p.childWithin world vars depth p.expressions[id].children i = .ok value := by
      intro i
      unfold childWithin
      cases found : p.expressions[id].children[i]? with
      | none => exact ⟨_, rfl⟩
      | some child =>
        have less : child < id := h.child_lt at_id (List.mem_of_getElem? found)
        exact ih child (Nat.lt_of_lt_of_le less (Nat.lt_succ_iff.mp below)) (Nat.lt_trans less inside)
    choose values same using child_ok
    refine ⟨Id.run (p.expressions[id].node.evaluate world vars fun i => pure (values i)), ?_⟩
    rw [evaluateWithin_succ at_id]
    exact ExpressionNode.evaluate_ok _ world vars same

/-- Every expression that an instruction uses has a value. -/
theorem Linked.argument_ok (h : p.Linked openE openI) (world : World) (t : Thread) {id : InstructionId}
    {slot : InstructionSlot} (at_id : p.instructions[id]? = some slot) :
    ∃ value, t.argument p world slot = .ok value := by
  unfold Thread.argument evaluateChild
  cases used : slot.expressions[0]? with
  | none => exact ⟨_, rfl⟩
  | some child =>
    have inside : child < p.expressions.size := h.argument_lt at_id (List.mem_of_getElem? used)
    exact h.evaluateWithin_ok world t.variables p.maxPath child (Nat.lt_succ_of_lt inside) inside

end Program

/-! ## Scopes -/

/-- The frame that goes on with an instruction, or nowhere. -/
def Program.frameTo (p : Program) (returnTo : Option InstructionId) : Frame :=
  ⟨returnTo, returnTo.any fun id => p.instructions[id]?.any (·.node.stopsBreak)⟩

theorem Thread.frameFor_some {p : Program} {id : InstructionId} {slot : InstructionSlot}
    (at_id : p.instructions[id]? = some slot) : Thread.frameFor p (some id) = .ok (p.frameTo (some id)) := by
  simp [frameFor, Program.frameTo, Program.instruction_eq_ok at_id, at_id, bind, Except.bind, pure, Except.pure]

namespace Thread

variable {p : Program} {slot : InstructionSlot} {t : Thread} {returnTo : Option InstructionId}

/-- Without a body, or without its condition, an instruction goes on behind itself. -/
theorem runBody_skip {condition : Bool} (skips : slot.body = none ∨ condition = false) :
    runBody p t slot condition returnTo = .ok (slot.next, t) := by
  unfold runBody
  rcases skips with none | false
  · rw [none]
  · rw [false]
    split <;> simp_all

/-- A body is entered when there is room for its frame; else the fault is noted. -/
theorem runBody_enter {first : InstructionId} {frame : Frame} (has_body : slot.body = some first)
    (frame_ok : frameFor p returnTo = .ok frame) :
    runBody p t slot true returnTo = .ok (match t.stack.push frame with
      | .ok stack => (some first, { t with stack })
      | .error overflow => (none, { t with fault := some overflow })) := by
  unfold runBody
  rw [has_body]
  simp only [enterScope, pushFrame, frame_ok, bind, Except.bind, pure, Except.pure]
  cases t.stack.push frame <;> rfl

end Thread

/-- There is room for a frame, or there is none. -/
theorem CallStack.push_cases (s : CallStack) (f : Frame) :
    s.push f = .ok { s with frames := f :: s.frames } ∨ ∃ overflow, s.push f = .error overflow := by
  unfold push
  split
  · split
    · exact .inr ⟨_, rfl⟩
    · exact .inl rfl
  · exact .inl rfl

/-! ## Runs -/

namespace Interpreter

/-- A thread before its first step. -/
def begin (limit : Option Nat) (vars : Variables) (head : Option InstructionId) : Interpreter :=
  ⟨{ Thread.start limit with «variables» := vars }, head⟩

/-- A thread after a number of steps. -/
def after (p : Program) (world : World) : Nat → Interpreter → Except BrokenLink Interpreter
  | 0, i => .ok i
  | n + 1, i => do
    let (_, i) ← i.step p world
    after p world n i

theorem after_succ {p : Program} {world : World} {n : Nat} {i j k : Interpreter} {progress : Progress}
    (reached : i.after p world n = .ok j) (steps : j.step p world = .ok (progress, k)) :
    i.after p world (n + 1) = .ok k := by
  induction n generalizing i with
  | zero =>
    cases reached
    simp [after, steps, bind, Except.bind]
  | succ n ih =>
    rw [after] at reached ⊢
    cases first : i.step p world with
    | error e => simp [first, bind, Except.bind] at reached
    | ok result =>
      simp only [first, bind, Except.bind] at reached ⊢
      exact ih reached

theorem step_of_execute {p : Program} {world : World} {t t' : Thread} {id : InstructionId}
    {next : Option InstructionId} (executes : t.execute p world id = .ok (next, t')) :
    step p world ⟨t, some id⟩ = .ok (proceed next t') := by
  simp [step, executes, bind, Except.bind, pure, Except.pure]

theorem proceed_some {t : Thread} (id : InstructionId) (fault : t.fault = none) :
    proceed (some id) t = (.running, ⟨t, some id⟩) := by
  simp [proceed, fault]

/-- Without a next instruction a thread goes on where its frames say. -/
theorem proceed_none {t : Thread} (fault : t.fault = none) :
    ∃ progress, proceed none t = (progress, ⟨{ t with stack := t.stack.resume.2 }, t.stack.resume.1⟩) := by
  simp only [proceed, fault]
  split <;> rename_i resumes <;> exact ⟨_, by rw [resumes]⟩

/-- What holds at the beginning and is kept by every step holds after any number of steps, and none
    of them fails. -/
theorem after_invariant {p : Program} {world : World} {start : Interpreter} (good : Nat → Interpreter → Prop)
    (begins : good 0 start)
    (step : ∀ n i, start.after p world n = .ok i → good n i →
      ∃ progress j, i.step p world = .ok (progress, j) ∧ good (n + 1) j) (n : Nat) :
    ∃ i, start.after p world n = .ok i ∧ good n i := by
  induction n with
  | zero => exact ⟨start, rfl, begins⟩
  | succ n ih =>
    obtain ⟨i, reached, holds⟩ := ih
    obtain ⟨progress, j, steps, kept⟩ := step n i reached holds
    exact ⟨j, after_succ reached steps, kept⟩

/-- What every step without an overflow keeps holds at the end of a run that is completed. -/
theorem runFrom_completed {p : Program} {world : World} (good : Interpreter → Prop)
    (step : ∀ i progress j, good i → i.step p world = .ok (progress, j) → (∀ o, progress ≠ .overflow o) → good j)
    {budget steps k : Nat} {i j : Interpreter} (begins : good i)
    (completes : runFrom p world budget steps i = .ok (.completed k, j)) : good j ∧ j.current = none := by
  induction budget generalizing steps i with
  | zero =>
    by_cases finished : i.isFinished
    · simp only [runFrom, finished] at completes
      cases completes
      exact ⟨begins, Option.isNone_iff_eq_none.mp finished⟩
    · simp [runFrom, finished] at completes
  | succ budget ih =>
    by_cases finished : i.isFinished
    · simp only [runFrom, finished] at completes
      cases completes
      exact ⟨begins, Option.isNone_iff_eq_none.mp finished⟩
    · cases result : i.step p world with
      | error e => simp [runFrom, finished, result, bind, Except.bind] at completes
      | ok reached =>
        obtain ⟨progress, next⟩ := reached
        simp only [runFrom, finished, result, bind, Except.bind] at completes
        cases progress with
        | running => exact ih (step i _ next begins result (by simp)) completes
        | finished => exact ih (step i _ next begins result (by simp)) completes
        | overflow o => cases completes

end Interpreter

end FlightBlocks
