import FlightBlocks.Thread

/-!
Running a thread step by step.

A step executes one instruction. When a scope ends, the thread goes on where the innermost frame
says; when no frame says so, it is finished. A scope that cannot be entered finishes it too.
-/

namespace FlightBlocks

/-- A thread with the instruction it executes next; without one it is finished. -/
structure Interpreter where
  thread : Thread
  current : Option InstructionId

/-- What a step has come to. -/
inductive Progress where
  | running
  | finished
  | overflow (o : StackOverflow)
  deriving DecidableEq, Repr

/-- How a run has ended, and after how many steps. -/
inductive Outcome where
  | completed (steps : Nat)
  | stepLimit (steps : Nat)
  | overflow (o : StackOverflow)
  deriving DecidableEq, Repr

namespace Interpreter

def isFinished (i : Interpreter) : Bool := i.current.isNone

/-- Goes on after an instruction: with the one it gave, else behind the scope that ends. -/
def proceed (next : Option InstructionId) (t : Thread) : Progress × Interpreter :=
  match t.fault with
  | some overflow => (.overflow overflow, ⟨{ t with fault := none }, none⟩)
  | none =>
    match next with
    | some id => (.running, ⟨t, some id⟩)
    | none =>
      match t.stack.resume with
      | (some id, stack) => (.running, ⟨{ t with stack }, some id⟩)
      | (none, stack) => (.finished, ⟨{ t with stack }, none⟩)

/-- Executes the current instruction. A finished thread stays as it is. -/
def step (p : Program) (world : World) (i : Interpreter) :
    Except BrokenLink (Progress × Interpreter) :=
  match i.current with
  | none => .ok (.finished, i)
  | some id => do
    let (next, t) ← i.thread.execute p world id
    return proceed next t

/-- Steps until the thread is finished, a step fails or the budget is used up. -/
def runFrom (p : Program) (world : World) :
    (budget steps : Nat) → Interpreter → Except BrokenLink (Outcome × Interpreter)
  | 0, steps, i => .ok (if i.isFinished then .completed steps else .stepLimit steps, i)
  | budget + 1, steps, i =>
    if i.isFinished then .ok (.completed steps, i)
    else do
      match ← i.step p world with
      | (.overflow o, i) => return (.overflow o, i)
      | (_, i) => runFrom p world budget (steps + 1) i

/-- Runs a thread for at most a number of steps. -/
def run (p : Program) (world : World) (budget : Nat) (i : Interpreter) :
    Except BrokenLink (Outcome × Interpreter) :=
  runFrom p world budget 0 i

end Interpreter

end FlightBlocks
