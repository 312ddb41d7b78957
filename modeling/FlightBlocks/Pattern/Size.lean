import FlightBlocks.Pattern.Plan
import Std.Data.HashMap

/-!
How much memory the automaton of a pattern takes, and the limit on it.

The automaton works on the bytes of UTF-8, once from the front and once from the back, and is built
state by state. Every state takes `stateSize` bytes, and its further edges some more. States that
lead to the same places in the same way are shared inside a class, as far as a table of limited size
remembers them.
-/

namespace FlightBlocks.Pattern

/-! ## Counting states -/

/-- Bytes for a state. -/
def stateSize : Nat := 32

/-- Bytes for an edge out of a state with several labelled edges. -/
def edgeSize : Nat := 8

/-- Bytes for an edge out of a state that only branches. -/
def branchSize : Nat := 4

/-- The most memory that an automaton may take: ten mebibytes. -/
def sizeLimit : Nat := 10 * 1024 * 1024

/-- The part of an automaton that has been built. States are numbered in the order in which they
    are added. -/
structure Tally where
  states : Nat := 0
  /-- Bytes for edges. -/
  edges : Nat := 0

namespace Tally

def add (t : Tally) (states edges : Nat) : Tally := ⟨t.states + states, t.edges + edges⟩

def size (t : Tally) : Nat := t.states * stateSize + t.edges

/-- Stops where the limit is passed. -/
def within? (t : Tally) : Option Tally := if t.size ≤ sizeLimit then some t else none

def add? (t : Tally) (states edges : Nat) : Option Tally := (t.add states edges).within?

end Tally

/-- Which of the two automata. -/
inductive Direction where
  | forward
  | backward
  deriving DecidableEq, Repr

/-! ## Shared states -/

/-- An edge that reads one byte and leads to the state of a number. -/
structure Edge where
  label : ByteRange
  target : Nat
  deriving DecidableEq

/-- Remembers the numbers of states by their edges. Every state has one slot, and drives out the one
    that took the slot before it. -/
structure Memo where
  slots : Nat
  entries : Std.HashMap Nat (List Edge × Nat)

namespace Memo

/-- An empty table that is about to hold some states. -/
def ofSize (slots expected : Nat) : Memo := ⟨slots, .emptyWithCapacity expected⟩

def mix (hash : UInt64) (n : Nat) : UInt64 := (hash ^^^ n.toUInt64) * 1099511628211

def start : UInt64 := 14695981039346656037

end Memo

/-- An automaton under construction with the states that it may share. -/
structure Sharing where
  tally : Tally
  memo : Memo

/-- Adds a state, or finds it, and gives its number. Its slot follows from the hash. -/
def Sharing.state (s : Sharing) (hash : UInt64) (key : List Edge) (edges : Nat) : Nat × Sharing :=
  let slot := hash.toNat % s.memo.slots
  let found := match s.memo.entries[slot]? with
    | some (other, state) => if other = key then some state else none
    | none => none
  match found with
  | some state => (state, s)
  | none =>
    let state := s.tally.states
    (state, ⟨s.tally.add 1 edges, { s.memo with entries := s.memo.entries.insert slot (key, state) }⟩)

mutual

/-- Adds the state of a tree, behind those that follow it, and gives its number. All sequences lead
    to `target`. -/
def ByteTree.share (target : Nat) : ByteTree → Sharing → Nat × Sharing
  | .stop, s => (target, s)
  | .node twigs, s => shareTwigs target twigs [] Memo.start s

/-- Adds what is behind the twigs, and then their state, of which some edges are known. -/
def shareTwigs (target : Nat) :
    List (ByteRange × ByteTree) → List Edge → UInt64 → Sharing → Nat × Sharing
  | [], edges, hash, s => s.state hash edges (edgeSize * edges.length)
  | (label, tree) :: rest, edges, hash, s =>
    let (next, s) := tree.share target s
    let hash := Memo.mix (Memo.mix (Memo.mix hash label.first) label.last) next
    shareTwigs target rest (⟨label, next⟩ :: edges) hash s

end

/-- Adds a sequence that is read from its last byte to its first one, which leads to `target`. -/
def Sharing.addSequence (target : Nat) (s : Sharing) (sequence : ByteSequence) : Sharing :=
  let back := fun (done : Nat × Sharing) (r : ByteRange) =>
    let hash := Memo.mix (Memo.mix (Memo.mix Memo.start done.1) r.first) r.last
    done.2.state hash [⟨r, done.1⟩] 0
  let (_, s) := sequence.foldl back (target, s)
  { s with tally := s.tally.add 0 branchSize }

/-- Adds a class. ASCII fits into one state with an edge for each range. From the front, sequences
    share what they end with; from the back, what they begin with. -/
def Tally.addClass (direction : Direction) (set : CharSet) (bytes : ByteForm) (t : Tally) : Tally :=
  let expected := bytes.sequences.length
  if set.isAscii then t.add 2 (edgeSize * set.ranges.length)
  else match direction with
    | .forward =>
      (bytes.tree.share t.states ⟨t.add 1 0, .ofSize 10000 expected⟩).2.tally
    | .backward =>
      (bytes.sequences.foldl (Sharing.addSequence (t.states + 1))
        ⟨t.add 2 0, .ofSize 1000 (min 1000 expected)⟩).tally

/-! ## Choices between texts -/

/-- Words that go on behind a byte, the latest first. -/
structure Twig where
  byte : Nat
  tails : List (List Nat)

/-- A place in the tree of words. Where a word ends the twigs so far are closed, so that those that
    come later are only tried after it. -/
structure Fork where
  closed : List (List Twig) := []
  twigs : List Twig := []

namespace Fork

/-- Puts what follows a byte to the twig of the byte. -/
def grow (byte : Nat) (tail : List Nat) : List Twig → List Twig
  | [] => [⟨byte, [tail]⟩]
  | twig :: rest =>
    if twig.byte = byte then { twig with tails := tail :: twig.tails } :: rest
    else twig :: grow byte tail rest

def add (fork : Fork) : List Nat → Fork
  | [] =>
    if !fork.closed.isEmpty && fork.twigs.isEmpty && fork.closed.all List.isEmpty then fork
    else { closed := fork.twigs :: fork.closed }
  | byte :: tail => { fork with twigs := grow byte tail fork.twigs }

end Fork

/-- The states of a tree of words, the last one left out. `height` is to pass the longest word. -/
def treeTally : (height : Nat) → List (List Nat) → Tally
  | 0, _ => {}
  | height + 1, words =>
    let fork := words.foldl Fork.add {}
    let stages := (fork.twigs :: fork.closed).filter (!·.isEmpty)
    let here := Tally.add {} (1 + stages.length)
      (branchSize * (stages.length + fork.closed.length) +
        (stages.map fun twigs => if twigs.length = 1 then 0 else edgeSize * twigs.length).sum)
    stages.flatten.foldl (fun t twig =>
      if twig.tails.all List.isEmpty then t
      else
        let below := treeTally height twig.tails.reverse
        t.add below.states below.edges) here

/-- The words of a choice between texts; nothing where another branch, or the empty text, stands
    among them. -/
def wordsOf? (branches : List Plan) : Option (List (List Nat)) :=
  branches.mapM fun
    | .literal (c :: text) => some (textBytes (c :: text))
    | _ => none

/-- The states of a choice between at least two words. -/
def wordsTally (direction : Direction) (words : List (List Nat)) : Tally :=
  let words := if direction = .forward then words else words.map List.reverse
  let height := (words.map List.length).foldl max 0 + 1
  (treeTally height words).add 1 0

/-! ## Whole patterns -/

/-- Adds some copies of a plan one behind the other. -/
def addCopies (add : Tally → Option Tally) : Nat → Tally → Option Tally
  | 0, t => some t
  | n + 1, t => do addCopies add n (← add t)

/-- Adds a repetition of what `add` adds. -/
def addTimes (add : Tally → Option Tally) (body : Facts) (least : Nat) :
    (most : Option Nat) → Tally → Option Tally
  | none, t =>
    let fork := (1, 2 * branchSize)
    match least with
    | 0 =>
      if body.leastBytes.any (0 < ·) then do add (← t.add? fork.1 fork.2)
      else do (← add t).add? 3 (2 * fork.2)
    | least => do (← addCopies add least t).add? fork.1 fork.2
  | some most, t =>
    let optional (t : Tally) : Option Tally := do add (← t.add? 1 (2 * branchSize))
    if least = most then addCopies add least t
    else if least = 0 ∧ most = 1 then do (← optional t).add? 1 0
    else do
      let t ← if least = 0 then t.add? 1 0 else addCopies add least t
      addCopies optional (most - least) (← t.add? 1 0)

mutual

/-- Adds the automaton of a plan behind the states that there are. -/
def Plan.addTo (direction : Direction) : Plan → Tally → Option Tally
  | .literal text, t => t.add? (max 1 (text.map Char.utf8Size).sum) 0
  | .oneOf set bytes, t => (t.addClass direction set bytes).within?
  | .anchor _, t => t.add? 1 0
  | .group body, t =>
    match direction with
    | .forward => do (← body.addTo direction (← t.add? 1 0)).add? 1 0
    | .backward => body.addTo direction t
  | .times body least most _, t =>
    addTimes (body.addTo direction) body.facts least most t
  | .sequence parts, t => addParts direction parts t
  | .choice branches, t =>
    match wordsOf? branches with
    | some words =>
      let tree := wordsTally direction words
      t.add? tree.states tree.edges
    | none => addBranches direction 0 branches t

/-- Adds the members of a sequence in the order in which they are read. -/
def addParts (direction : Direction) : List Plan → Tally → Option Tally
  | [], t => some t
  | first :: rest, t =>
    match direction with
    | .forward => do addParts direction rest (← first.addTo direction t)
    | .backward => do first.addTo direction (← addParts direction rest t)

/-- Adds the branches of a choice. The states that part and join them come behind the second. -/
def addBranches (direction : Direction) (count : Nat) : List Plan → Tally → Option Tally
  | [], t => some t
  | first :: rest, t => do
    let t ← first.addTo direction t
    let t ← t.add? (if count = 1 then 2 else 0) branchSize
    addBranches direction (count + 1) rest t

end

/-- Adds the whole automaton. Unless a match has to start where the search starts, a loop over all
    bytes comes before it. -/
def Plan.tally? (direction : Direction) (plan : Plan) : Option Tally :=
  let facts := plan.facts
  let anchored := if direction = .forward then facts.fromStart else facts.toEnd
  let start : Tally := if anchored then ⟨1, 0⟩ else ⟨3, edgeSize + 2 * branchSize⟩
  match direction with
  | .forward => do (← plan.addTo direction (start.add 1 0)).add? 2 0
  | .backward => do (← plan.addTo direction start).add? 1 0

/-- So many texts to choose from are looked for without an automaton. -/
def manyTexts : Nat := 3000

/-- Whether an automaton of the pattern would take too much memory. -/
def isTooLarge (pattern : Pattern) : Bool :=
  let plan := Plan.ofPattern pattern
  let listed := match plan with
    | .choice branches => manyTexts ≤ branches.length && (wordsOf? branches).isSome
    | _ => false
  !listed && ((plan.tally? .forward).isNone || (plan.tally? .backward).isNone)

end FlightBlocks.Pattern
