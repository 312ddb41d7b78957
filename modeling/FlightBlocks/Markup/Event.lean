import FlightBlocks.Markup.Attributes
import FlightBlocks.Markup.Chunk

/-!
Events of a document: opening, closing and empty tags with their names and attributes.

Closing tags are held against the names that are open. The events of a document end at its end or
at the first fault, which comes with them.
-/

namespace FlightBlocks.Markup

/-- A tag of a document, or markup without a meaning for its tree. -/
inductive Event where
  | start (name : String) (attributes : List Attribute)
  | empty (name : String) (attributes : List Attribute)
  | stop (name : String)
  | other
  deriving DecidableEq, Repr

/-- The name at the beginning of a tag, and its attributes behind it. -/
def readTag (content : List Char) : Except MarkupError (String × List Attribute) :=
  let name := content.takeWhile (!isSpace ·)
  match readAttributes .between [] (byteLength name) (content.dropWhile (!isSpace ·)) with
  | .ok attributes => .ok (String.ofList name, attributes)
  | .error fault => .error (.attribute (String.ofList name) fault)

/-- The name in a closing tag. Blanks behind it do not count, unless there is nothing else. -/
def closingName (content : List Char) : String :=
  match content.reverse.dropWhile isSpace with
  | [] => String.ofList content
  | trimmed => String.ofList trimmed.reverse

/-- The event of a chunk, and the names that are open behind it, the innermost first. -/
def Event.ofChunk (names : List String) : Chunk → Except MarkupError (Event × List String)
  | .other => .ok (.other, names)
  | .tag ('/' :: content) =>
    let found := closingName content
    match names with
    | [] => .error (.malformed (.unmatchedEnd found))
    | expected :: outer =>
      if found = expected then .ok (.stop found, outer)
      else .error (.malformed (.mismatchedEnd expected found))
  | .tag content =>
    if content.getLast? = some '/' then
      (readTag content.dropLast).map fun (name, attributes) => (.empty name attributes, names)
    else (readTag content).map fun (name, attributes) => (.start name attributes, name :: names)

/-- The events of some chunks up to the first fault. -/
def Event.ofChunks : List String → List Chunk → List Event × Option MarkupError
  | _, [] => ([], none)
  | names, chunk :: rest =>
    match Event.ofChunk names chunk with
    | .ok (event, names) =>
      let (more, fault) := Event.ofChunks names rest
      (event :: more, fault)
    | .error fault => ([], some fault)

/-- The events of a text up to the first fault, and that fault. A byte order mark at the very
    beginning is dropped. -/
def Event.read (text : String) : List Event × Option MarkupError :=
  let input := match text.toList with
    | '\ufeff' :: rest => rest
    | input => input
  let (found, cut) := chunks .text input
  let (events, fault) := Event.ofChunks [] found
  (events, fault <|> cut.map .malformed)

end FlightBlocks.Markup
