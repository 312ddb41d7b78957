import FlightBlocks.CharSet

/-!
Patterns that describe sets of texts, and the options under which they are written.
-/

namespace FlightBlocks

/-- Which sides of a position have to be inside or outside a word. -/
inductive WordEdge where
  | either
  | neither
  | start
  | stop
  | startHalf
  | stopHalf
  deriving DecidableEq, Repr

/-- A condition on a position in the text. -/
inductive Anchor where
  | textStart
  | textEnd
  | lineStart
  | lineEnd
  /-- Beginning of a line when a carriage return may end one too. -/
  | returnLineStart
  /-- End of a line when a carriage return may end one too. -/
  | returnLineEnd
  /-- An edge of a word; `ascii` words have ASCII letters, digits and underscores only. -/
  | word (edge : WordEdge) (ascii : Bool)
  deriving DecidableEq, Repr

/-- A pattern. Which of several matches is preferred, and what a group keeps of it, plays no role for
    whether there is one. -/
inductive Pattern where
  | empty
  | oneOf (set : CharSet)
  | anchor (condition : Anchor)
  | sequence (first second : Pattern)
  | choice (first second : Pattern)
  /-- From `least` to `most` times; without end when `most` is missing. A greedy repetition prefers
      more of them. -/
  | times (body : Pattern) (least : Nat) (most : Option Nat) (greedy : Bool)
  /-- What stands in parentheses. A capturing group keeps the text that it matched. -/
  | group (body : Pattern) (captures : Bool)
  deriving DecidableEq, Repr

namespace Pattern

/-- The options that the letters in a pattern switch on and off. -/
structure Flags where
  ignoreCase : Bool := false
  multiLine : Bool := false
  dotMatchesNewline : Bool := false
  /-- Repetitions are greedy with a question mark behind them, and not without. -/
  swapGreed : Bool := false
  unicode : Bool := true
  /-- Blanks and comments in the pattern are skipped. -/
  verbose : Bool := false
  carriageReturn : Bool := false
  deriving DecidableEq, Repr

end Pattern

end FlightBlocks
