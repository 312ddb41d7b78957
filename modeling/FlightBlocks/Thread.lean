import FlightBlocks.CallStack

/-!
Threads: the state that instructions of a program work on, and what each instruction does to it.
-/

namespace FlightBlocks

/-- The state of a thread. -/
structure Thread where
  stack : CallStack
  «variables» : Variables := .empty
  /-- The lines logged so far. -/
  output : Array String := #[]
  /-- A scope that could not be entered. It ends the thread after the instruction that tried. -/
  fault : Option StackOverflow := none

namespace Thread

def start (limit : Option Nat) : Thread := { stack := .empty limit }

/-- The frame for a scope behind which an instruction goes on. -/
def frameFor (p : Program) : Option InstructionId → Except BrokenLink Frame
  | none => .ok .detached
  | some id => do
    let slot ← p.instruction id
    return ⟨some id, slot.node.stopsBreak⟩

/-- Enters a scope; without room for it the thread stays as it is. -/
def pushFrame (p : Program) (t : Thread) (returnTo : Option InstructionId) :
    Except BrokenLink (Except StackOverflow Thread) := do
  let frame ← frameFor p returnTo
  return (t.stack.push frame).map fun stack => { t with stack }

/-- Enters a scope from inside an instruction; without room for it the fault is noted. -/
def enterScope (p : Program) (t : Thread) (returnTo : Option InstructionId) :
    Except BrokenLink (Bool × Thread) := do
  match ← pushFrame p t returnTo with
  | .ok t => return (true, t)
  | .error overflow => return (false, { t with fault := some overflow })

def popFrame (t : Thread) : Option Frame × Thread :=
  let (frame, stack) := t.stack.pop
  (frame, { t with stack })

def setVariable (t : Thread) (name : String) (value : Value) : Thread :=
  { t with «variables» := t.variables.set name value }

def log (t : Thread) (line : String) : Thread := { t with output := t.output.push line }

/-- Runs the body of an instruction when the condition holds and there is one, else goes on behind
    it. -/
def runBody (p : Program) (t : Thread) (slot : InstructionSlot) (condition : Bool)
    (returnTo : Option InstructionId) : Except BrokenLink (Option InstructionId × Thread) :=
  match slot.body, condition with
  | some body, true => do
    let (entered, t) ← t.enterScope p returnTo
    return (if entered then some body else none, t)
  | _, _ => .ok (slot.next, t)

/-- The value that an instruction works on. -/
def argument (t : Thread) (p : Program) (world : World) (slot : InstructionSlot) :
    Except BrokenLink Value :=
  p.evaluateChild world t.variables slot.expressions 0

/-- Executes an instruction and gives the one to go on with; without one the scope ends. -/
def execute (p : Program) (world : World) (id : InstructionId) (t : Thread) :
    Except BrokenLink (Option InstructionId × Thread) := do
  let slot ← p.instruction id
  match slot.node with
  | .setVariable name => return (slot.next, t.setVariable name (← t.argument p world slot))
  | .log => return (slot.next, t.log (← t.argument p world slot).toText)
  | .branch => runBody p t slot (← t.argument p world slot).toBool slot.next
  | .loop => runBody p t slot (← t.argument p world slot).toBool (some id)
  | .breakLoop =>
    match t.stack.unwind with
    | (some ⟨some loop, _⟩, stack) =>
      return ((← p.instruction loop).next, { t with stack })
    | (_, stack) => return (none, { t with stack })
  | .continueLoop =>
    let (frame, stack) := t.stack.unwindOrEmpty
    return (frame.bind (·.returnTo), { t with stack })

end Thread

end FlightBlocks
