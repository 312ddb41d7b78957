import FlightBlocks.Pattern.Property
import FlightBlocks.Pattern.Syntax
import FlightBlocks.Text.Blank
import FlightBlocks.Unicode.Folding

/-!
What stands behind a backslash in a pattern.

Every reader takes the characters left and returns what it read with the characters behind it, or
nothing when the pattern is not well formed.
-/

namespace FlightBlocks.Pattern

/-! ## Blanks and comments -/

/-- Skips blanks and comments; `comment` tells that a comment is open. -/
def skipBlanks : (comment : Bool) → List Char → List Char
  | _, [] => []
  | true, c :: rest => skipBlanks (c != '\n') rest
  | false, c :: rest =>
    if Text.isBlank c then skipBlanks false rest
    else if c = '#' then skipBlanks true rest
    else c :: rest

theorem length_skipBlanks_le (comment : Bool) (chars : List Char) :
    (skipBlanks comment chars).length ≤ chars.length := by
  fun_induction skipBlanks comment chars <;> simp_all <;> omega

/-- Skips blanks and comments where they do not count. -/
def Flags.space (flags : Flags) (chars : List Char) : List Char :=
  if flags.verbose then skipBlanks false chars else chars

theorem Flags.length_space_le (flags : Flags) (chars : List Char) :
    (flags.space chars).length ≤ chars.length := by
  unfold Flags.space
  split
  · exact length_skipBlanks_le false chars
  · exact Nat.le_refl _

/-! ## Folding and complement under the flags -/

/-- Adds the other cases of the members when case is ignored. -/
def Flags.fold (flags : Flags) (set : CharSet) : CharSet :=
  if !flags.ignoreCase then set
  else if flags.unicode then Unicode.foldCase set
  else Unicode.foldAsciiCase set

/-- Outside Unicode mode a class is one of bytes, and one with a byte beyond ASCII is refused. -/
def Flags.complementIf? (flags : Flags) (negated : Bool) (set : CharSet) : Option CharSet :=
  if flags.unicode then some (if negated then set.complement else set)
  else if negated || !set.isAscii then none
  else some set

/-! ## Escapes -/

/-- What a single escape or character stands for. -/
inductive Atom where
  /-- A character; `byte` tells that it was written as two hexadecimal digits. -/
  | literal (c : Char) (byte : Bool)
  | oneOf (set : CharSet)
  | anchor (condition : Anchor)

def isHex (c : Char) : Bool := (Text.digit? 16 c).isSome

/-- Collects characters of a class up to a closing brace. -/
def takeBraced? (flags : Flags) (accept : Char → Bool) (chars : List Char) :
    Option (List Char × List Char) :=
  match _shape : flags.space chars with
  | [] => none
  | '}' :: rest => some ([], rest)
  | c :: rest =>
    if accept c then (takeBraced? flags accept rest).map fun (more, rest) => (c :: more, rest)
    else none
termination_by chars.length
decreasing_by
  have shorter := flags.length_space_le chars
  rw [_shape, List.length_cons] at shorter
  omega

/-- A given number of hexadecimal digits. -/
def takeHex? (flags : Flags) : Nat → List Char → Option (List Char × List Char)
  | 0, chars => some ([], chars)
  | _ + 1, [] => none
  | n + 1, c :: rest =>
    if isHex c then (takeHex? flags n (flags.space rest)).map fun (more, rest) => (c :: more, rest)
    else none

/-- The character of a code point in hexadecimal digits. -/
def charOfHex? (digits : List Char) : Option Char := do
  let code ← Text.digits? 16 digits
  if code.isValidChar then return Char.ofNat code else none

/-- A code point: in braces, or as a fixed number of digits. -/
def readHex? (flags : Flags) (width : Nat) (chars : List Char) : Option (Atom × List Char) :=
  match flags.space chars with
  | '{' :: rest => do
    let (digits, rest) ← takeBraced? flags isHex rest
    let c ← charOfHex? digits
    return (.literal c false, flags.space rest)
  | chars => do
    let (digits, rest) ← takeHex? flags width chars
    let c ← charOfHex? digits
    return (.literal c (width = 2), rest)

/-- A property: one letter, or a query in braces. It needs Unicode mode. -/
def readProperty? (flags : Flags) (negated : Bool) (chars : List Char) :
    Option (Atom × List Char) :=
  let query? : Option ((CharSet × Bool) × List Char) :=
    match flags.space chars with
    | '{' :: rest => do
      let (query, rest) ← takeBraced? flags (fun _ => true) rest
      let found ← propertyQuery? query
      return (found, rest)
    | '\\' :: _ => none
    | c :: rest => (namedSet? (looseName [c])).map fun set => ((set, false), flags.space rest)
    | [] => none
  match query? with
  | some ((set, complemented), rest) =>
    if flags.unicode then
      (flags.complementIf? (negated != complemented) (flags.fold set)).map fun set =>
        (.oneOf set, rest)
    else none
  | none => none

/-- The ASCII words: letters, digits and the underscore. -/
def asciiWordSet : CharSet :=
  .ofRanges [⟨0x30, 0x39⟩, ⟨0x41, 0x5a⟩, ⟨0x5f, 0x5f⟩, ⟨0x61, 0x7a⟩]

def asciiSpaceSet : CharSet := .ofRanges [⟨0x09, 0x0d⟩, ⟨0x20, 0x20⟩]

def asciiDigitSet : CharSet := .ofRanges [⟨0x30, 0x39⟩]

/-- The classes of digits, blanks and word characters, and their complements in capitals. -/
def shorthandSet? (flags : Flags) (c : Char) : Option CharSet :=
  let choose (wide ascii : CharSet) := if flags.unicode then wide else ascii
  let digit := choose Unicode.Category.decimalNumber.set asciiDigitSet
  let space := choose Unicode.whiteSpace asciiSpaceSet
  let word := choose Unicode.wordSet asciiWordSet
  match c with
  | 'd' => some digit
  | 's' => some space
  | 'w' => some word
  | 'D' => flags.complementIf? true digit
  | 'S' => flags.complementIf? true space
  | 'W' => flags.complementIf? true word
  | _ => none

/-- The edge of a word behind `\b`: a name in braces may ask for one side. Braces that begin
    otherwise are a count and are left alone. -/
def readWordEdge? (flags : Flags) (chars : List Char) : Option (Atom × List Char) :=
  let named (c : Char) : Bool := c.isAlpha || c == '-'
  let anchor (edge : WordEdge) : Atom := .anchor (.word edge !flags.unicode)
  match chars with
  | '{' :: rest =>
    match flags.space rest with
    | [] => none
    | c :: _ =>
      if named c then do
        let (name, rest) ← takeBraced? flags named rest
        match String.ofList name with
        | "start" => return (anchor .start, rest)
        | "end" => return (anchor .stop, rest)
        | "start-half" => return (anchor .startHalf, rest)
        | "end-half" => return (anchor .stopHalf, rest)
        | _ => none
      else return (anchor .either, chars)
  | _ => return (anchor .either, chars)

/-- What stands behind a backslash. Punctuation stands for itself; letters and digits without a
    meaning are refused. -/
def readEscape? (flags : Flags) : List Char → Option (Atom × List Char)
  | [] => none
  | c :: rest =>
    let literal (code : Nat) : Option (Atom × List Char) :=
      some (.literal (Char.ofNat code) false, rest)
    let anchor (condition : Anchor) : Option (Atom × List Char) := some (.anchor condition, rest)
    match c with
    | 'x' => readHex? flags 2 rest
    | 'u' => readHex? flags 4 rest
    | 'U' => readHex? flags 8 rest
    | 'p' => readProperty? flags false rest
    | 'P' => readProperty? flags true rest
    | 'a' => literal 0x07
    | 'f' => literal 0x0c
    | 't' => literal 0x09
    | 'n' => literal 0x0a
    | 'r' => literal 0x0d
    | 'v' => literal 0x0b
    | 'A' => anchor .textStart
    | 'z' => anchor .textEnd
    | 'b' => readWordEdge? flags rest
    | 'B' => anchor (.word .neither !flags.unicode)
    | '<' => anchor (.word .start !flags.unicode)
    | '>' => anchor (.word .stop !flags.unicode)
    | _ =>
      if "dswDSW".toList.contains c then (shorthandSet? flags c).map fun set => (.oneOf set, rest)
      else if c.toNat < 128 && !c.isAlphanum then some (.literal c false, rest)
      else none

end FlightBlocks.Pattern
