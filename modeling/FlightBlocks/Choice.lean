import FlightBlocks.Markup.Element
import FlightBlocks.Text.Blank

/-!
Choices from a list of options.

A choice keeps the key it was given, so that a key without an option survives loading and saving.
What the key selects is read off it, up to case and surrounding blanks.
-/

namespace FlightBlocks

/-- The kind of result that an option leads to. -/
inductive ItemKind where
  | plain
  | number
  | text
  | degrees
  | radians
  | vector
  | list
  deriving DecidableEq, Repr

/-- How an option appears in an editor, and the key it is saved under. -/
structure ListItem where
  key : String
  label : String
  description : String
  kind : ItemKind
  deriving DecidableEq, Repr

/-- A type whose values are the options of a list. -/
class Selectable (α : Type) where
  /-- The options in the order of the list. -/
  options : List (α × ListItem)

namespace Selectable

variable {α : Type} [Selectable α]

/-- The option of a key. -/
def find? (key : String) : Option α :=
  let key := Text.trim key
  ((options (α := α)).find? fun o => Text.sameIgnoringCase o.2.key key).map (·.1)

/-- The key that an option is saved under. -/
def keyOf [DecidableEq α] (value : α) : String :=
  (((options (α := α)).find? fun o => o.1 = value).map (·.2.key)).getD ""

variable (α) in
/-- The list as an editor shows it. -/
def list : List ListItem := (options (α := α)).map (·.2)

end Selectable

/-- A choice by its key, if one was made. -/
structure Choice (α : Type) where
  key : Option String
  deriving DecidableEq, Repr

namespace Choice

variable {α : Type}

def unset : Choice α := ⟨none⟩

def ofKey (key : String) : Choice α := ⟨some key⟩

/-- The option that the key selects, if it is the key of one. -/
def selected [Selectable α] (c : Choice α) : Option α := c.key.bind Selectable.find?

/-- The choice saved under an attribute; without the attribute the key stays. -/
def load (c : Choice α) (e : Markup.Element) (slot : String) : Choice α :=
  ⟨e.attribute? slot <|> c.key⟩

/-- Saves the key under an attribute; without a key the attribute is removed. -/
def store (c : Choice α) (e : Markup.Element) (slot : String) : Markup.Element :=
  e.setOptional slot c.key

/-- The key as a message shows it. -/
def text (c : Choice α) : String := c.key.getD "<unset>"

end Choice

end FlightBlocks
