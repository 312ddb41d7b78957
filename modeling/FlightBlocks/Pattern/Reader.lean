import FlightBlocks.Pattern.Bracket
import FlightBlocks.Unicode.Later

/-!
Reading a pattern from its text.

The reader goes through the text once. Groups that are still open form a stack; each keeps what was
read before it and the flags that hold again behind it. A text that is no pattern gives nothing,
and so does one that is nested too deeply.
-/

namespace FlightBlocks.Pattern

/-- A pattern and the depth of nesting in it. -/
structure Piece where
  pattern : Pattern
  depth : Nat

/-- A member of a sequence: a piece, or a place where flags change. -/
inductive Item where
  | piece (p : Piece)
  | flags

def Item.toPiece : Item → Piece
  | .piece p => p
  | .flags => ⟨.empty, 0⟩

/-- Members in reverse order as one piece. Two or more count as one more level. -/
def sequencePiece (items : List Item) : Piece :=
  match items with
  | [] => ⟨.empty, 0⟩
  | [item] => item.toPiece
  | last :: before =>
    let pieces := before.map Item.toPiece
    { pattern := pieces.foldl (fun tail p => .sequence p.pattern tail) last.toPiece.pattern
      depth := (pieces.map (·.depth)).foldl max last.toPiece.depth + 1 }

/-- Alternatives in reverse order, before a last one. -/
def choicePiece (branches : List Piece) (last : Piece) : Piece :=
  match branches with
  | [] => last
  | _ =>
    { pattern := branches.foldl (fun tail p => .choice p.pattern tail) last.pattern
      depth := (branches.map (·.depth)).foldl max last.depth + 1 }

/-- What was read on one level: finished alternatives and the current sequence, both reversed. -/
structure Level where
  branches : List Piece := []
  items : List Item := []

namespace Level

def push (level : Level) (item : Item) : Level := { level with items := item :: level.items }

def pushDeep (level : Level) (pattern : Pattern) (depth : Nat) : Level :=
  level.push (.piece ⟨pattern, depth⟩)

def pushPattern (level : Level) (pattern : Pattern) : Level := level.pushDeep pattern 0

def finish (level : Level) : Piece := choicePiece level.branches (sequencePiece level.items)

/-- Begins the next alternative. -/
def alternate (level : Level) : Level :=
  { branches := sequencePiece level.items :: level.branches, items := [] }

/-- Replaces the last member by its repetition. There has to be one. -/
def repeatLast? (level : Level) (least : Nat) (most : Option Nat) (greedy : Bool) : Option Level :=
  match level.items with
  | .piece p :: items =>
    some { level with items := .piece ⟨.times p.pattern least most greedy, p.depth + 1⟩ :: items }
  | _ => none

end Level

/-- A group that is still open: the level around it, and the flags that hold again behind it. -/
structure OpenGroup where
  outer : Level
  outerFlags : Flags
  capturing : Bool

/-- The state between two members. -/
structure ReaderState where
  flags : Flags := {}
  level : Level := {}
  groups : List OpenGroup := []
  /-- The names of groups so far; no two may be equal. -/
  names : List String := []

/-! ## Flags -/

/-- A flag letter applied to the flags. -/
def Flags.set? (flags : Flags) (value : Bool) : Char → Option Flags
  | 'i' => some { flags with ignoreCase := value }
  | 'm' => some { flags with multiLine := value }
  | 's' => some { flags with dotMatchesNewline := value }
  | 'u' => some { flags with unicode := value }
  | 'x' => some { flags with verbose := value }
  | 'R' => some { flags with carriageReturn := value }
  | 'U' => some { flags with swapGreed := value }
  | _ => none

/-- Flag letters up to a colon or a closing parenthesis; those behind a hyphen are switched off.
    No letter may be repeated, and a letter has to follow the hyphen. -/
def readFlags? (flags : Flags) (seen : List Char) : List Char → Option (Flags × Char × List Char)
  | [] => none
  | c :: rest =>
    if c = ':' ∨ c = ')' then
      if seen.head? = some '-' then none else some (flags, c, rest)
    else if seen.contains c then none
    else if c = '-' then readFlags? flags (c :: seen) rest
    else match flags.set? (!seen.contains '-') c with
      | some flags => readFlags? flags (c :: seen) rest
      | none => none

/-! ## Groups -/

/-- Characters that may begin, or stand in, the name of a group. -/
def isNameChar (first : Bool) (c : Char) : Bool :=
  c == '_' || Unicode.Later.alphabetic.contains c ||
    (!first && (c == '.' || c == '[' || c == ']' || Unicode.Later.numeric.contains c))

/-- The name of a group, behind its opening angle bracket. -/
def readName? (input : List Char) : Option (String × List Char) :=
  let name := input.takeWhile (· != '>')
  match name, input.dropWhile (· != '>') with
  | c :: more, _ :: rest =>
    if isNameChar true c && more.all (isNameChar false) then some (String.ofList name, rest)
    else none
  | _, _ => none

namespace ReaderState

/-- Opens a group whose inside is read under `flags`. -/
def openGroup (s : ReaderState) (flags : Flags) (capturing : Bool) : ReaderState :=
  { s with flags, level := {}, groups := ⟨s.level, s.flags, capturing⟩ :: s.groups }

def openNamed? (s : ReaderState) (input : List Char) : Option (ReaderState × List Char) := do
  let (name, rest) ← readName? input
  if s.names.contains name then none
  else return ({ s.openGroup s.flags true with names := name :: s.names }, rest)

/-- What stands behind an opening parenthesis: a plain group, a named one, flags for a group, or
    flags for the rest of the level. Looking ahead or behind is refused. -/
def readOpening? (s : ReaderState) (input : List Char) : Option (ReaderState × List Char) :=
  match s.flags.space input with
  | '?' :: '=' :: _ | '?' :: '!' :: _ | '?' :: '<' :: '=' :: _ | '?' :: '<' :: '!' :: _ => none
  | '?' :: 'P' :: '<' :: rest => s.openNamed? rest
  | '?' :: '<' :: rest => s.openNamed? rest
  | '?' :: rest => do
    let (flags, mark, after) ← readFlags? s.flags [] rest
    if mark = ':' then return (s.openGroup flags false, after)
    else if rest.head? = some ')' then none
    else return ({ s with flags, level := s.level.push .flags }, after)
  | input => some (s.openGroup s.flags true, input)

/-- Closes the innermost group. -/
def closeGroup? (s : ReaderState) : Option ReaderState :=
  match s.groups with
  | [] => none
  | g :: groups =>
    let inner := s.level.finish
    let pattern := .group inner.pattern g.capturing
    some { s with
      flags := g.outerFlags, level := g.outer.pushDeep pattern (inner.depth + 1), groups }

end ReaderState

/-! ## Repetitions -/

/-- Whether a repetition is greedy: a question mark behind it turns the preference round. -/
def readGreed (flags : Flags) : List Char → Bool × List Char
  | '?' :: rest => (flags.swapGreed, rest)
  | input => (!flags.swapGreed, input)

/-- Digits, between which blanks and comments may stand in verbose patterns. -/
def takeDigits (flags : Flags) (input : List Char) : List Char × List Char :=
  match input with
  | [] => ([], [])
  | c :: rest =>
    if c.isDigit then
      let (more, rest) := takeDigits flags (flags.space rest)
      (c :: more, rest)
    else ([], input)
termination_by input.length
decreasing_by
  have := flags.length_space_le rest
  simp only [List.length_cons]
  omega

/-- A count with blanks around it. It has to fit a word of 32 bits. -/
def readCount? (flags : Flags) (input : List Char) : Option Nat × List Char :=
  let (digits, rest) := takeDigits flags (input.dropWhile Text.isBlank)
  let rest := if (rest.head?.map Text.isBlank).getD false
    then flags.space (rest.dropWhile Text.isBlank) else rest
  ((Text.digits? 10 digits).filter (· < UInt32.size), rest)

/-- The bounds of a counted repetition behind its opening brace, up to the closing one. -/
def readBounds? (flags : Flags) (input : List Char) : Option ((Nat × Option Nat) × List Char) := do
  let (least?, rest) := readCount? flags (flags.space input)
  let least ← least?
  let (most, rest) ← match rest with
    | ',' :: rest =>
      match flags.space rest with
      | '}' :: _ => some (none, flags.space rest)
      | rest =>
        let (most?, rest) := readCount? flags rest
        most?.map fun most => (some most, rest)
    | rest => some (some least, rest)
  match rest with
  | '}' :: rest =>
    if most.all (least ≤ ·) then return ((least, most), flags.space rest) else none
  | _ => none

/-! ## The whole pattern -/

/-- Any character, as the dot means it under the flags. Outside Unicode mode it is refused. -/
def dotSet? (flags : Flags) : Option CharSet :=
  if !flags.unicode then none
  else if flags.dotMatchesNewline then some .all
  else if flags.carriageReturn then some (CharSet.ofChars ['\r', '\n']).complement
  else some (CharSet.single '\n').complement

def startAnchor (flags : Flags) : Anchor :=
  if !flags.multiLine then .textStart
  else if flags.carriageReturn then .returnLineStart else .lineStart

def endAnchor (flags : Flags) : Anchor :=
  if !flags.multiLine then .textEnd
  else if flags.carriageReturn then .returnLineEnd else .lineEnd

/-- A single character or escape as a pattern. Outside Unicode mode a byte beyond ASCII is
    refused. -/
def atomPattern? (flags : Flags) : Atom → Option Pattern
  | .literal c byte =>
    if byte && !flags.unicode && 128 ≤ c.toNat then none else some (.oneOf (flags.fold (.single c)))
  | .oneOf set => some (.oneOf set)
  | .anchor condition => some (.anchor condition)

/-- One member of the pattern, from a text that is not empty. -/
def readItem? (s : ReaderState) (c : Char) (rest : List Char) :
    Option (ReaderState × List Char) :=
  let withLevel (level : Level) (rest : List Char) := some ({ s with level }, rest)
  let repeated (least : Nat) (most : Option Nat) (rest : List Char) := do
    let (greedy, rest) := readGreed s.flags rest
    withLevel (← s.level.repeatLast? least most greedy) rest
  match c with
  | '(' => s.readOpening? rest
  | ')' => s.closeGroup?.map (·, rest)
  | '|' => withLevel s.level.alternate rest
  | '[' => do
    let (found, rest) ← readBracket? s.flags rest
    withLevel (s.level.pushDeep (.oneOf found.set) found.depth) rest
  | '?' => repeated 0 (some 1) rest
  | '*' => repeated 0 none rest
  | '+' => repeated 1 none rest
  | '{' => do
    let ((least, most), rest) ← readBounds? s.flags rest
    repeated least most rest
  | '.' => do withLevel (s.level.pushPattern (.oneOf (← dotSet? s.flags))) rest
  | '^' => withLevel (s.level.pushPattern (.anchor (startAnchor s.flags))) rest
  | '$' => withLevel (s.level.pushPattern (.anchor (endAnchor s.flags))) rest
  | '\\' => do
    let (atom, rest) ← readEscape? s.flags rest
    withLevel (s.level.pushPattern (← atomPattern? s.flags atom)) rest
  | c => do withLevel (s.level.pushPattern (← atomPattern? s.flags (.literal c false))) rest

/-- Reads members to the end of the text. Each round takes at least one character. -/
def readItems? : (fuel : Nat) → ReaderState → List Char → Option Piece
  | 0, _, _ => none
  | fuel + 1, s, input =>
    match s.flags.space input with
    | [] => if s.groups.isEmpty then some s.level.finish else none
    | c :: rest => do
      let (s, rest) ← readItem? s c rest
      readItems? fuel s rest

/-- How deep a pattern may be nested. -/
def maxDepth : Nat := 250

/-- The pattern that a text writes. -/
def read? (text : String) : Option Pattern := do
  let input := text.toList
  let piece ← readItems? (input.length + 1) {} input
  if piece.depth ≤ maxDepth then return piece.pattern else none

end FlightBlocks.Pattern
