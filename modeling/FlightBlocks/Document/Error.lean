import FlightBlocks.Markup.Error
import FlightBlocks.Node.Type
import FlightBlocks.Program

/-!
Why a program cannot be loaded or saved.
-/

namespace FlightBlocks.Document

/-- Why an element is not a program. -/
inductive LoadError where
  | markup (e : Markup.MarkupError)
  | unexpectedElement (expected found : String)
  | unknownNode (tag : String)
  | wrongKind (tag : String) (expected found : NodeKind)
  | unexpectedBody (tag : String)
  deriving DecidableEq, Repr

/-- Why a program cannot be saved. -/
inductive SaveError where
  /-- A type without a tag in the registry. -/
  | unregistered (type : NodeType)
  | broken (link : BrokenLink)
  deriving DecidableEq, Repr

def kindWord : NodeKind → String
  | .expression => "Expression"
  | .instruction => "Instruction"

def LoadError.message : LoadError → String
  | .markup e => e.message
  | .unexpectedElement expected found =>
    "expected <" ++ expected ++ ">, found <" ++ found ++ ">"
  | .unknownNode tag => "unknown program node <" ++ tag ++ ">"
  | .wrongKind tag expected found =>
    "<" ++ tag ++ "> is an " ++ kindWord found ++ ", expected an " ++ kindWord expected
  | .unexpectedBody tag => "<" ++ tag ++ "> cannot contain nested instructions"

end FlightBlocks.Document
