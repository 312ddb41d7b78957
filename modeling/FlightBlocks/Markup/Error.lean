/-!
What can be wrong with a document, and how it is put into words.
-/

namespace FlightBlocks.Markup

/-- A document that cannot be cut into tags, or whose tags do not pair up. -/
inductive Malformation where
  | unclosedTag
  | unclosedComment
  | unclosedCharacterData
  | unclosedDoctype
  | unclosedInstruction
  /-- An exclamation mark that begins nothing known. -/
  | unknownMarkup
  | missingDoctypeName
  | mismatchedEnd (expected found : String)
  | unmatchedEnd (found : String)
  /-- A closing tag in a sequence of events where no element is open. -/
  | unexpectedEnd (found : String)
  deriving DecidableEq, Repr

/-- A character reference without a character. -/
inductive ReferenceFault where
  | sign
  | empty
  | notADigit
  | tooLarge
  | nul
  | notACharacter (code : Nat)
  deriving DecidableEq, Repr

/-- Positions count bytes: in the content of the tag for the form of attributes, in the raw value
    for entities. -/
inductive AttributeFault where
  | missingEquals (position : Nat)
  | missingValue (position : Nat)
  | unquotedValue (position : Nat)
  | unclosedValue (position : Nat) (quote : Char)
  | duplicate (position previous : Nat)
  | unknownEntity (first last : Nat) (entity : String)
  | unclosedEntity (first last : Nat)
  | reference (fault : ReferenceFault)
  deriving DecidableEq, Repr

/-- Why a text is not a document with a single root element. -/
inductive MarkupError where
  | malformed (fault : Malformation)
  | attribute (element : String) (fault : AttributeFault)
  | mismatchedEnd (expected found : String)
  | unclosed (element : String)
  | noRoot
  | multipleRoots
  deriving DecidableEq, Repr

/-! ## Wording -/

def Malformation.message : Malformation → String
  | .unclosedTag => notClosed "tag" ">"
  | .unclosedComment => notClosed "comment" "-->"
  | .unclosedCharacterData => notClosed "CDATA" "]]>"
  | .unclosedDoctype => notClosed "DOCTYPE" ">"
  | .unclosedInstruction => notClosed "processing instruction or xml declaration" "?>"
  | .unknownMarkup => "syntax error: unknown or missed symbol in markup"
  | .missingDoctypeName =>
    "ill-formed document: `<!DOCTYPE>` declaration does not contain a name of a document type"
  | .mismatchedEnd expected found =>
    "ill-formed document: expected `</" ++ expected ++ ">`, but `</" ++ found ++ ">` was found"
  | .unmatchedEnd found =>
    "ill-formed document: close tag `</" ++ found ++ ">` does not match any open tag"
  | .unexpectedEnd found => "unexpected </" ++ found ++ ">"
where
  notClosed (what mark : String) : String :=
    "syntax error: " ++ what ++ " not closed: `" ++ mark ++ "` not found before end of input"

def ReferenceFault.message : ReferenceFault → String
  | .sign => "unexpected number sign"
  | .empty => "cannot parse integer from empty string"
  | .notADigit => "invalid digit found in string"
  | .tooLarge => "number too large to fit in target type"
  | .nul => "0x0 character is not permitted in XML"
  | .notACharacter code => "`" ++ toString code ++ "` is not a valid codepoint"

def AttributeFault.message : AttributeFault → String
  | .missingEquals position =>
    atPosition position "attribute key must be directly followed by `=` or space"
  | .missingValue position => atPosition position "`=` must be followed by an attribute value"
  | .unquotedValue position => atPosition position "attribute value must be enclosed in `\"` or `'`"
  | .unclosedValue position quote =>
    atPosition position ("missing closing quote `" ++ quote.toString ++ "` in attribute value")
  | .duplicate position previous =>
    atPosition position ("duplicated attribute, previous declaration at position " ++ toString previous)
  | .unknownEntity first last entity =>
    "at " ++ toString first ++ ".." ++ toString last ++ ": unrecognized entity `" ++ entity ++ "`"
  | .unclosedEntity first last =>
    "Error while escaping character at range " ++ toString first ++ ".." ++ toString last ++
      ": Cannot find ';' after '&'"
  | .reference fault => "invalid character reference: " ++ fault.message
where
  atPosition (position : Nat) (what : String) : String :=
    "position " ++ toString position ++ ": " ++ what

def MarkupError.message : MarkupError → String
  | .malformed fault => "malformed XML: " ++ fault.message
  | .attribute element fault => "malformed attribute on <" ++ element ++ ">: " ++ fault.message
  | .mismatchedEnd expected found =>
    "closing tag </" ++ found ++ "> does not match <" ++ expected ++ ">"
  | .unclosed element => "element <" ++ element ++ "> is never closed"
  | .noRoot => "document has no root element"
  | .multipleRoots => "document has more than one root element"

end FlightBlocks.Markup
