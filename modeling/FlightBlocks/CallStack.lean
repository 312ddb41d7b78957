import FlightBlocks.Program

/-!
Call stacks: for every scope that was entered, where to go on when it ends.
-/

namespace FlightBlocks

/-- A scope that was entered. -/
structure Frame where
  /-- The instruction to go on with; without one the scope ends and nothing goes on. -/
  returnTo : Option InstructionId
  /-- Whether that instruction stops a jump, as it was when the scope was entered. -/
  stopsBreak : Bool
  deriving DecidableEq, Repr

namespace Frame

/-- A frame that goes on nowhere. -/
def detached : Frame := ⟨none, false⟩

/-- Whether a jump stops at the frame. -/
def isLoopBoundary (f : Frame) : Bool := f.returnTo.isSome && f.stopsBreak

end Frame

/-- A scope that would have made the stack too deep. -/
structure StackOverflow where
  limit : Nat
  deriving DecidableEq, Repr

def StackOverflow.message (o : StackOverflow) : String :=
  "call stack depth limit of " ++ toString o.limit ++ " frames exceeded"

/-- Frames, the innermost first, and how many there may be. -/
structure CallStack where
  frames : List Frame
  limit : Option Nat
  deriving DecidableEq, Repr

namespace CallStack

def empty (limit : Option Nat) : CallStack := ⟨[], limit⟩

def size (s : CallStack) : Nat := s.frames.length

/-- Enters a scope, unless the limit is reached. -/
def push (s : CallStack) (f : Frame) : Except StackOverflow CallStack :=
  match s.limit with
  | some limit =>
    if limit ≤ s.size then .error ⟨limit⟩ else .ok { s with frames := f :: s.frames }
  | none => .ok { s with frames := f :: s.frames }

/-- Takes off the innermost frame. -/
def pop (s : CallStack) : Option Frame × CallStack :=
  match s.frames with
  | [] => (none, s)
  | f :: rest => (some f, { s with frames := rest })

/-- Takes off frames up to and including the innermost loop boundary, and gives that one. -/
def unwind (s : CallStack) : Option Frame × CallStack :=
  match s.frames.dropWhile fun f => !f.isLoopBoundary with
  | [] => (none, { s with frames := [] })
  | f :: rest => (some f, { s with frames := rest })

/-- The frames below the innermost loop boundary, or none when there is no boundary, and the last
    frame taken off. -/
def lastTaken : List Frame → Option Frame × List Frame
  | [] => (none, [])
  | [f] => (some f, [])
  | f :: rest => if f.isLoopBoundary then (some f, rest) else lastTaken rest

/-- Takes off frames until one of them is a loop boundary or none is left, and gives the last one
    taken. -/
def unwindOrEmpty (s : CallStack) : Option Frame × CallStack :=
  let (frame, frames) := lastTaken s.frames
  (frame, { s with frames })

/-- Where to go on when a scope ends: the innermost frame that goes on somewhere, frames that go on
    nowhere being taken off with it. -/
def resume (s : CallStack) : Option InstructionId × CallStack :=
  match s.frames.dropWhile fun f => f.returnTo.isNone with
  | [] => (none, { s with frames := [] })
  | f :: rest => (f.returnTo, { s with frames := rest })

end CallStack

end FlightBlocks
