import FlightBlocks.Pattern.Escape

/-!
Classes of characters in square brackets.

Members are characters, ranges, escapes, named ASCII classes and further brackets. The operators
`&&`, `--` and `~~` combine what stands on their two sides, from left to right. Beside the class a
reader returns how deep it is nested.
-/

namespace FlightBlocks.Pattern

inductive SetOperator where
  | intersection
  | difference
  | symmetricDifference
  deriving DecidableEq, Repr

def SetOperator.apply : SetOperator → CharSet → CharSet → CharSet
  | .intersection => .intersection
  | .difference => .difference
  | .symmetricDifference => .symmetricDifference

/-- A class and the depth of nesting in it. -/
structure DeepSet where
  set : CharSet
  depth : Nat

/-- A bracket that is still open: the side left of the last operator, and the members since. -/
structure OpenBracket where
  negated : Bool
  left : Option (SetOperator × DeepSet)
  members : List DeepSet

namespace OpenBracket

def add (b : OpenBracket) (set : CharSet) (depth : Nat) : OpenBracket :=
  { b with members := b.members ++ [⟨set, depth⟩] }

/-- The union of the members. Two or more count as one more level. -/
def joined (b : OpenBracket) : DeepSet :=
  let inner := (b.members.map (·.depth)).foldl max 0
  { set := .ofRanges (b.members.flatMap (·.set.ranges))
    depth := if b.members.length < 2 then inner else inner + 1 }

/-- The members combined with what stands left of the last operator. Both sides are folded first
    when case is ignored. -/
def combined (flags : Flags) (b : OpenBracket) : DeepSet :=
  let right := b.joined
  match b.left with
  | none => right
  | some (op, left) =>
    { set := op.apply (flags.fold left.set) (flags.fold right.set)
      depth := max left.depth right.depth + 1 }

/-- Goes on with the right side of an operator. -/
def operate (flags : Flags) (op : SetOperator) (b : OpenBracket) : OpenBracket :=
  { b with left := some (op, b.combined flags), members := [] }

/-- The class of the whole bracket: folded, then complemented. -/
def close? (flags : Flags) (b : OpenBracket) : Option DeepSet :=
  let inner := b.combined flags
  (flags.complementIf? b.negated (flags.fold inner.set)).map fun set => ⟨set, inner.depth + 1⟩

end OpenBracket

/-! ## Named ASCII classes -/

/-- The ranges of a named ASCII class. -/
def asciiClass? (name : String) : Option CharSet :=
  let ranges? : Option (List (Nat × Nat)) := match name with
    | "alnum" => some [(0x30, 0x39), (0x41, 0x5a), (0x61, 0x7a)]
    | "alpha" => some [(0x41, 0x5a), (0x61, 0x7a)]
    | "ascii" => some [(0x00, 0x7f)]
    | "blank" => some [(0x09, 0x09), (0x20, 0x20)]
    | "cntrl" => some [(0x00, 0x1f), (0x7f, 0x7f)]
    | "digit" => some [(0x30, 0x39)]
    | "graph" => some [(0x21, 0x7e)]
    | "lower" => some [(0x61, 0x7a)]
    | "print" => some [(0x20, 0x7e)]
    | "punct" => some [(0x21, 0x2f), (0x3a, 0x40), (0x5b, 0x60), (0x7b, 0x7e)]
    | "space" => some [(0x09, 0x0d), (0x20, 0x20)]
    | "upper" => some [(0x41, 0x5a)]
    | "word" => some [(0x30, 0x39), (0x41, 0x5a), (0x5f, 0x5f), (0x61, 0x7a)]
    | "xdigit" => some [(0x30, 0x39), (0x41, 0x46), (0x61, 0x66)]
    | _ => none
  ranges?.map fun ranges => .ofRanges (ranges.map fun r => ⟨r.1, r.2⟩)

/-- A named class behind its opening bracket, as in `:alpha:]`, and whether it is complemented. If
    none stands there, the bracket opens a class of the general form. -/
def namedAsciiClass? : List Char → Option (CharSet × Bool × List Char)
  | ':' :: rest =>
    let (negated, rest) := match rest with
      | '^' :: rest => (true, rest)
      | _ => (false, rest)
    match rest.dropWhile (· != ':') with
    | ':' :: ']' :: after =>
      (asciiClass? (String.ofList (rest.takeWhile (· != ':')))).map (·, negated, after)
    | _ => none
  | _ => none

/-! ## Members -/

/-- The character that follows a hyphen, blanks and the beginning of one comment left out. -/
def peekBehind (flags : Flags) (behind : List Char) : Option Char :=
  if !flags.verbose then behind.head?
  else match behind.dropWhile Text.isBlank with
    | '#' :: more => (more.dropWhile Text.isBlank).head? <|> behind.head?
    | c :: _ => some c
    | [] => behind.head?

/-- A single character or an escape. -/
def readMemberAtom? (flags : Flags) : List Char → Option (Atom × List Char)
  | [] => none
  | '\\' :: rest => readEscape? flags rest
  | c :: rest => some (.literal c false, rest)

/-- A character as a member; outside Unicode mode it has to be ASCII. -/
def memberChar? (flags : Flags) : Atom → Option Char
  | .literal c _ => if flags.unicode || c.toNat < 128 then some c else none
  | _ => none

/-- A range, a character or an escape. -/
def readMember? (flags : Flags) (input : List Char) : Option (CharSet × List Char) := do
  let (first, rest) ← readMemberAtom? flags input
  let alone : Option CharSet := match first with
    | .oneOf set => some set
    | .literal .. => (memberChar? flags first).map .single
    | .anchor _ => none
  match flags.space rest with
  | [] => none
  | '-' :: behind =>
    let next := peekBehind flags behind
    if next = some ']' ∨ next = some '-' then return (← alone, '-' :: behind)
    else
      let behind := flags.space behind
      let (last, rest) ← readMemberAtom? flags behind
      let first ← memberChar? flags first
      let last ← memberChar? flags last
      if first ≤ last then return (.range first last, rest) else none
  | rest => return (← alone, rest)

/-- Hyphens at the beginning are members. -/
def leadingHyphens (flags : Flags) : (fuel : Nat) → List Char → Nat × List Char
  | fuel + 1, '-' :: rest =>
    let (more, rest) := leadingHyphens flags fuel (flags.space rest)
    (more + 1, rest)
  | _, input => (0, input)

/-- The beginning of a class behind its opening bracket: a circumflex complements it, and a closing
    bracket as the first member is a character. -/
def openBracket? (flags : Flags) (input : List Char) : Option (OpenBracket × List Char) :=
  let input := flags.space input
  let (negated, input) := match input with
    | '^' :: rest => (true, flags.space rest)
    | _ => (false, input)
  let (hyphens, input) := leadingHyphens flags input.length input
  let members := List.replicate hyphens (DeepSet.mk (.single '-') 0)
  match hyphens, input with
  | _, [] => none
  | 0, ']' :: rest =>
    match flags.space rest with
    | [] => none
    | rest => some (⟨negated, none, [⟨.single ']', 0⟩]⟩, rest)
  | _, input => some (⟨negated, none, members⟩, input)

/-- Reads members until every bracket is closed. Each round takes at least one character. -/
def readMembers? (flags : Flags) :
    (fuel : Nat) → OpenBracket → List OpenBracket → List Char → Option (DeepSet × List Char)
  | 0, _, _, _ => none
  | fuel + 1, current, outer, input =>
    match flags.space input with
    | [] => none
    | '[' :: rest =>
      match namedAsciiClass? rest with
      | some (set, negated, rest) => do
        let set ← flags.complementIf? negated (flags.fold set)
        readMembers? flags fuel (current.add set 0) outer rest
      | none => do
        let (inner, rest) ← openBracket? flags rest
        readMembers? flags fuel inner (current :: outer) rest
    | ']' :: rest => do
      let closed ← current.close? flags
      match outer with
      | [] => return (closed, rest)
      | parent :: outer =>
        readMembers? flags fuel (parent.add closed.set closed.depth) outer rest
    | '&' :: '&' :: rest => readMembers? flags fuel (current.operate flags .intersection) outer rest
    | '-' :: '-' :: rest => readMembers? flags fuel (current.operate flags .difference) outer rest
    | '~' :: '~' :: rest =>
      readMembers? flags fuel (current.operate flags .symmetricDifference) outer rest
    | input => do
      let (set, rest) ← readMember? flags input
      readMembers? flags fuel (current.add set 0) outer rest

/-- A class behind its opening bracket. -/
def readBracket? (flags : Flags) (input : List Char) : Option (DeepSet × List Char) := do
  let (first, rest) ← openBracket? flags input
  readMembers? flags (rest.length + 1) first [] rest

end FlightBlocks.Pattern
