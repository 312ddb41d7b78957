import FlightBlocks.Palette.Toolbox

/-!
Toolboxes that are loaded from a named resource when they are first asked for.

A resource that is missing or malformed gives no toolbox, and the next access tries again. Once
loaded, a toolbox stays whatever becomes of the resource.
-/

namespace FlightBlocks.Palette

/-- Texts by name. -/
abbrev Resources := String → Option String

/-- The resources of a list. Of several entries with one name the last one counts. -/
def Resources.ofList (entries : List (String × String)) : Resources :=
  fun name => entries.reverse.lookup name

/-- A toolbox with the resource it comes from, as far as it was loaded. -/
structure Source where
  resource : String
  loaded : Option Toolbox

namespace Source

/-- A resource that nothing was loaded from yet. -/
def ofResource (resource : String) : Source := ⟨resource, none⟩

def isLoaded (s : Source) : Bool := s.loaded.isSome

/-- The source with its toolbox loaded, where it can be. -/
def load (s : Source) (resources : Resources) : Source :=
  match s.loaded with
  | some _ => s
  | none => { s with loaded := (resources s.resource).bind fun text => (Toolbox.parse text).toOption }

end Source

end FlightBlocks.Palette
