import FlightBlocks.Markup.Element
import FlightBlocks.Markup.Entity

/-!
Reading the attributes of a tag.

The reader goes through the content of the tag character by character. Positions in faults count
bytes of that content, the name of the element included. An attribute is checked in this order: its
key, the equals sign, whether the key is new, the quotes, and last the entities of the value.
-/

namespace FlightBlocks.Markup

/-- The blanks of markup: space, tab, line feed and carriage return. -/
def isSpace (c : Char) : Bool := c == ' ' || c == '\t' || c == '\n' || c == '\r'

/-- Where a reader of attributes is. Keys and values are in reverse order. -/
inductive AttributeMode where
  /-- Before a key. -/
  | between
  /-- In a key that began at a position. -/
  | key (start : Nat) (key : List Char)
  /-- Behind a key, before its equals sign. -/
  | afterKey (start : Nat) (key : List Char)
  /-- Behind the equals sign. -/
  | beforeValue (key : String)
  | value (key : String) (quote : Char) (raw : List Char)

/-- Goes on behind an equals sign, unless the key was there before. `seen` holds the keys so far
    with their positions. -/
def acceptKey (seen : List (String × Nat)) (start : Nat) (reversed : List Char) :
    Except AttributeFault (AttributeMode × List (String × Nat)) :=
  let key := String.ofList reversed.reverse
  match seen.lookup key with
  | some previous => .error (.duplicate start previous)
  | none => .ok (.beforeValue key, (key, start) :: seen)

/-- The attributes in the rest of a tag; `position` is the number of bytes before it. -/
def readAttributes : AttributeMode → (seen : List (String × Nat)) → (position : Nat) →
    List Char → Except AttributeFault (List Attribute)
  | .between, _, _, [] => .ok []
  | .key .., _, position, [] | .afterKey .., _, position, [] => .error (.missingEquals position)
  | .beforeValue _, _, position, [] => .error (.missingValue position)
  | .value _ quote _, _, position, [] => .error (.unclosedValue position quote)
  | mode, seen, position, c :: rest =>
    let next := position + c.utf8Size
    match mode with
    | .between =>
      if isSpace c then readAttributes .between seen next rest
      else readAttributes (.key position [c]) seen next rest
    | .key start key =>
      if c = '=' then
        match acceptKey seen start key with
        | .ok (mode, seen) => readAttributes mode seen next rest
        | .error fault => .error fault
      else if isSpace c then readAttributes (.afterKey start key) seen next rest
      else readAttributes (.key start (c :: key)) seen next rest
    | .afterKey start key =>
      if c = '=' then
        match acceptKey seen start key with
        | .ok (mode, seen) => readAttributes mode seen next rest
        | .error fault => .error fault
      else if isSpace c then readAttributes (.afterKey start key) seen next rest
      else .error (.missingEquals position)
    | .beforeValue key =>
      if isSpace c then readAttributes (.beforeValue key) seen next rest
      else if c = '"' ∨ c = '\'' then readAttributes (.value key c []) seen next rest
      else .error (.unquotedValue position)
    | .value key quote raw =>
      if c = quote then
        match unescape raw.reverse with
        | .ok value =>
          (readAttributes .between seen next rest).map ((key, String.ofList value) :: ·)
        | .error fault => .error fault
      else readAttributes (.value key quote (c :: raw)) seen next rest

end FlightBlocks.Markup
