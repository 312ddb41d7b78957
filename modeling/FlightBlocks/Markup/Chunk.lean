import FlightBlocks.Markup.Error

/-!
Cutting a document into chunks of markup.

Text between chunks carries no meaning and is passed over. A chunk begins at an opening angle
bracket; what follows it decides where the chunk ends. The content of a tag runs to the first
closing angle bracket outside quotes.
-/

namespace FlightBlocks.Markup

/-- A piece of markup. Of comments, character data, document types and processing instructions only
    their presence is kept. -/
inductive Chunk where
  /-- What stands between the angle brackets of a tag. -/
  | tag (content : List Char)
  | other
  deriving DecidableEq, Repr

/-- Where the cutting is. Contents are in reverse order and begin behind the angle bracket. -/
inductive ChunkMode where
  | text
  /-- Behind an opening angle bracket. -/
  | opened
  /-- In a tag, inside a quote if there is one. -/
  | tag (quote : Option Char) (content : List Char)
  /-- Behind an exclamation mark. -/
  | marked
  | comment (content : List Char)
  | characterData (content : List Char)
  /-- In a document type, with the number of angle brackets open in it. -/
  | doctype (depth : Nat) (content : List Char)
  | instruction (content : List Char)

/-- What a single character does. -/
inductive ChunkStep where
  | go (mode : ChunkMode)
  | emit (chunk : Chunk)
  | fail (fault : Malformation)

/-- A step in a tag: quotes hide the closing bracket. -/
def tagStep (quote : Option Char) (content : List Char) (c : Char) : ChunkStep :=
  match quote with
  | some q => .go (.tag (if c = q then none else quote) (c :: content))
  | none =>
    if c = '>' then .emit (.tag content.reverse)
    else .go (.tag (if c = '"' ∨ c = '\'' then some c else none) (c :: content))

/-- Whether a content in reverse order begins with a word. -/
def beginsWith (content : List Char) (word : String) : Bool :=
  word.toList.isPrefixOf content.reverse

/-- The end of a document type: its keyword in any case, and a name behind it. -/
def finishDoctype (content : List Char) : ChunkStep :=
  let content := content.reverse
  if (content.take 8).map Char.toLower != "!doctype".toList then .fail .unclosedDoctype
  else if (content.drop 8).all fun c => c == ' ' || c == '\t' || c == '\n' || c == '\r' then
    .fail .missingDoctypeName
  else .emit .other

/-- The step of a mode at a character. A comment needs four hyphens of its own, and a processing
    instruction two question marks. -/
def ChunkMode.step (c : Char) : ChunkMode → ChunkStep
  | .text => .go (if c = '<' then .opened else .text)
  | .opened =>
    if c = '!' then .go .marked
    else if c = '?' then .go (.instruction ['?'])
    else tagStep none [] c
  | .tag quote content => tagStep quote content c
  | .marked =>
    if c = '-' then .go (.comment ['-', '!'])
    else if c = '[' then .go (.characterData ['[', '!'])
    else if c = 'D' ∨ c = 'd' then .go (.doctype 0 [c, '!'])
    else .fail .unknownMarkup
  | .comment content =>
    if c = '>' ∧ 4 < content.length ∧ ['-', '-'].isPrefixOf content then
      if beginsWith content "!--" then .emit .other else .fail .unclosedComment
    else .go (.comment (c :: content))
  | .characterData content =>
    if c = '>' ∧ [']', ']'].isPrefixOf content then
      if beginsWith content "![CDATA[" then .emit .other else .fail .unclosedCharacterData
    else .go (.characterData (c :: content))
  | .doctype depth content =>
    if c = '<' then .go (.doctype (depth + 1) (c :: content))
    else if c = '>' then
      match depth with
      | 0 => finishDoctype content
      | depth + 1 => .go (.doctype depth (c :: content))
    else .go (.doctype depth (c :: content))
  | .instruction content =>
    if c = '>' ∧ content.head? = some '?' then
      if 1 < content.length then .emit .other else .fail .unclosedInstruction
    else .go (.instruction (c :: content))

/-- The fault of a document that ends in a mode. -/
def ChunkMode.endFault : ChunkMode → Option Malformation
  | .text => none
  | .opened | .tag .. => some .unclosedTag
  | .marked => some .unknownMarkup
  | .comment _ => some .unclosedComment
  | .characterData _ => some .unclosedCharacterData
  | .doctype .. => some .unclosedDoctype
  | .instruction _ => some .unclosedInstruction

/-- The chunks of a text up to the first fault, and that fault. -/
def chunks : ChunkMode → List Char → List Chunk × Option Malformation
  | mode, [] => ([], mode.endFault)
  | mode, c :: rest =>
    match mode.step c with
    | .go mode => chunks mode rest
    | .emit chunk =>
      let (more, fault) := chunks .text rest
      (chunk :: more, fault)
    | .fail fault => ([], some fault)

end FlightBlocks.Markup
