import FlightBlocks.Markup.Error
import FlightBlocks.Text.Integer

/-!
Entities in attribute values.

Five characters are written as entities. Reading knows these and character references, and nothing
else begins with an ampersand. What is written reads back (`unescape_escape`).
-/

namespace FlightBlocks.Markup

/-- A character as it is written in a value. -/
def escapeChar : Char → List Char
  | '<' => ['&', 'l', 't', ';']
  | '>' => ['&', 'g', 't', ';']
  | '&' => ['&', 'a', 'm', 'p', ';']
  | '\'' => ['&', 'a', 'p', 'o', 's', ';']
  | '"' => ['&', 'q', 'u', 'o', 't', ';']
  | c => [c]

def escape (text : List Char) : List Char := text.flatMap escapeChar

/-- The character of a named entity. -/
def namedEntity? : List Char → Option Char
  | ['l', 't'] => some '<'
  | ['g', 't'] => some '>'
  | ['a', 'm', 'p'] => some '&'
  | ['a', 'p', 'o', 's'] => some '\''
  | ['q', 'u', 'o', 't'] => some '"'
  | _ => none

/-- A number below `2 ^ 32` in digits, from the number read so far. A character that is no digit is
    reported before the number grows too large at it. -/
def readCode (base : Nat) (value : Nat) : List Char → Except ReferenceFault Nat
  | [] => .ok value
  | c :: rest =>
    match Text.digit? base c with
    | none => .error .notADigit
    | some digit =>
      let next := value * base + digit
      if next < UInt32.size then readCode base next rest else .error .tooLarge

/-- The character of a reference, without its number sign. -/
def referenceChar (body : List Char) : Except ReferenceFault Char := do
  let (base, digits) := match body with
    | 'x' :: digits => (16, digits)
    | _ => (10, body)
  let code ← match digits with
    | [] => .error .empty
    | '+' :: _ | '-' :: _ => .error .sign
    | _ => readCode base 0 digits
  if code = 0 then .error .nul
  else if code.isValidChar then .ok (Char.ofNat code)
  else .error (.notACharacter code)

/-- The character of what stands between an ampersand and a semicolon, where it begins at byte
    `start` and ends before byte `stop`. -/
def entityChar (start stop : Nat) : List Char → Except AttributeFault Char
  | '#' :: body => (referenceChar body).mapError .reference
  | name =>
    match namedEntity? name with
    | some c => .ok c
    | none => .error (.unknownEntity start stop (String.ofList name))

/-- Where a reader of values is. -/
inductive EntityMode where
  | outside
  /-- Behind an ampersand at byte `start`, with what follows it in reverse order. -/
  | inside (start : Nat) (body : List Char)

/-- Replaces the entities in what is left of a value; `size` is the length of the whole value and
    `position` the number of bytes before the rest. -/
def unescapeFrom (size : Nat) : EntityMode → (position : Nat) → List Char →
    Except AttributeFault (List Char)
  | .outside, _, [] => .ok []
  | .inside start _, _, [] => .error (.unclosedEntity start size)
  | .outside, position, c :: rest =>
    let next := position + c.utf8Size
    if c = '&' then unescapeFrom size (.inside position []) next rest
    else (unescapeFrom size .outside next rest).map (c :: ·)
  | .inside start body, position, c :: rest =>
    let next := position + c.utf8Size
    if c = '&' then .error (.unclosedEntity start size)
    else if c = ';' then
      match entityChar (start + 1) position body.reverse with
      | .ok entity => (unescapeFrom size .outside next rest).map (entity :: ·)
      | .error fault => .error fault
    else unescapeFrom size (.inside start (c :: body)) next rest

/-- The number of bytes of a text. -/
def byteLength : List Char → Nat
  | [] => 0
  | c :: rest => c.utf8Size + byteLength rest

/-- The value that a raw value stands for. -/
def unescape (raw : List Char) : Except AttributeFault (List Char) :=
  unescapeFrom (byteLength raw) .outside 0 raw

theorem unescapeFrom_escapeChar (size position : Nat) (c : Char) (rest : List Char) :
    unescapeFrom size .outside position (escapeChar c ++ rest) =
      (unescapeFrom size .outside (position + byteLength (escapeChar c)) rest).map (c :: ·) := by
  unfold escapeChar
  split
  case h_6 => simp_all [unescapeFrom, byteLength]
  all_goals
    simp [unescapeFrom, entityChar, namedEntity?, byteLength, Char.utf8Size, Nat.add_assoc]

theorem unescapeFrom_escape (size position : Nat) (text : List Char) :
    unescapeFrom size .outside position (escape text) = .ok text := by
  induction text generalizing position with
  | nil => rfl
  | cons c rest ih =>
    have more := ih (position + byteLength (escapeChar c))
    simp only [escape, List.flatMap_cons] at more ⊢
    rw [unescapeFrom_escapeChar, more]
    rfl

/-- What is written reads back. -/
theorem unescape_escape (text : List Char) : unescape (escape text) = .ok text :=
  unescapeFrom_escape _ _ _

end FlightBlocks.Markup
