import FlightBlocks.Pattern.Reader
import FlightBlocks.Pattern.Size

/-!
Whether a text holds a match of a pattern.

A pattern maps a set of positions where a match may start to the set of positions where one may
end. Positions are between characters and are kept in rising order. A repetition without end goes
on until no new position is reached, so the time is bounded whatever the pattern.
-/

namespace FlightBlocks.Pattern

/-- The union of two sets of positions in rising order. -/
def mergePositions : List Nat → List Nat → List Nat
  | [], b => b
  | a, [] => a
  | x :: a, y :: b =>
    if x < y then x :: mergePositions a (y :: b)
    else if y < x then y :: mergePositions (x :: a) b
    else x :: mergePositions a b

/-- The positions of the first set outside the second. -/
def subtractPositions : List Nat → List Nat → List Nat
  | [], _ => []
  | a, [] => a
  | x :: a, y :: b =>
    if x < y then x :: subtractPositions a (y :: b)
    else if y < x then subtractPositions (x :: a) b
    else subtractPositions a b

/-- Whether a character belongs to words. -/
def isWordChar (ascii : Bool) (c : Char) : Bool :=
  if ascii then asciiWordSet.contains c else Unicode.wordSet.contains c

/-- Whether a condition holds at a position. -/
def Anchor.holds (text : Array Char) (position : Nat) : Anchor → Bool :=
  let before := if position = 0 then none else text[position - 1]?
  let after := text[position]?
  fun
  | .textStart => before.isNone
  | .textEnd => after.isNone
  | .lineStart => before.isNone || before = some '\n'
  | .lineEnd => after.isNone || after = some '\n'
  | .returnLineStart =>
    before.isNone || before = some '\n' || (before = some '\r' && after != some '\n')
  | .returnLineEnd =>
    after.isNone || after = some '\r' || (after = some '\n' && before != some '\r')
  | .word edge ascii =>
    let inside (c : Option Char) : Bool := c.any (isWordChar ascii)
    match edge with
    | .either => inside before != inside after
    | .neither => inside before == inside after
    | .start => !inside before && inside after
    | .stop => inside before && !inside after
    | .startHalf => !inside before
    | .stopHalf => !inside after

/-- Adds what a step reaches from the newest positions until there are no new ones, or the rounds
    are used up. -/
def reachable (step : List Nat → List Nat) : (rounds : Nat) → (seen newest : List Nat) → List Nat
  | 0, seen, _ => seen
  | rounds + 1, seen, newest =>
    match subtractPositions (step newest) seen with
    | [] => seen
    | found => reachable step rounds (mergePositions seen found) found

/-- Applies a step a number of times, as long as there are positions left. -/
def applyTimes (step : List Nat → List Nat) : Nat → List Nat → List Nat
  | 0, positions => positions
  | _ + 1, [] => []
  | n + 1, positions => applyTimes step n (step positions)

/-- The positions where a match that starts at one of the given positions may end. -/
def ends (text : Array Char) : Pattern → List Nat → List Nat
  | .empty, starts => starts
  | .oneOf set, starts =>
    (starts.filter fun i => (text[i]?).any set.contains).map (· + 1)
  | .anchor condition, starts => starts.filter fun i => Anchor.holds text i condition
  | .sequence a b, starts => ends text b (ends text a starts)
  | .choice a b, starts => mergePositions (ends text a starts) (ends text b starts)
  | .group body _, starts => ends text body starts
  | .times body least most _, starts =>
    let step := ends text body
    let first := applyTimes step least starts
    match most with
    | none => reachable step (text.size + 1) first first
    | some most => reachable step (min (most - least) (text.size + 1)) first first

/-- Whether some stretch of the text matches the pattern. -/
def occursIn (pattern : Pattern) (text : String) : Bool :=
  let chars := text.toList.toArray
  !(ends chars pattern (List.range (chars.size + 1))).isEmpty

/-- Whether a text holds a match of a pattern that is given as text. A text that is no pattern, or
    one with too large an automaton, matches nothing. -/
def matchesText (pattern text : String) : Bool :=
  match read? pattern with
  | some p => !p.isTooLarge && p.occursIn text
  | none => false

end FlightBlocks.Pattern
