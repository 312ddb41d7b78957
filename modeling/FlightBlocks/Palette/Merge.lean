import FlightBlocks.Palette.Toolbox

/-!
Merging a toolbox into another one, and counting what changes on the way.

Colors and styles replace those of the same name. A category that the other toolbox lacks is added
as it is; otherwise its templates go to the end of the category that is there, apart from those
whose style that category has already.
-/

namespace FlightBlocks.Palette

/-- What a merge has changed. -/
structure MergeReport where
  colors : Nat := 0
  styles : Nat := 0
  categoriesAdded : Nat := 0
  templatesAdded : Nat := 0
  duplicatesSkipped : Nat := 0
  deriving DecidableEq, Repr

/-- A part of a merge, which goes on with the report of the parts before it. -/
abbrev Merging := StateM MergeReport

/-! ## Categories -/

/-- Takes over a template unless its style is there. -/
def Category.takeOver (c : Category) (t : Template) : Merging Category := do
  if c.hasStyle t.style then
    modify fun report => { report with duplicatesSkipped := report.duplicatesSkipped + 1 }
    return c
  else
    modify fun report => { report with templatesAdded := report.templatesAdded + 1 }
    return { c with templates := c.templates ++ [t] }

/-- Takes over the templates of another category in order. -/
def Category.absorb (c other : Category) : Merging Category := other.templates.foldlM Category.takeOver c

/-- Lets the first category of its name absorb a category, or adds it at the end. -/
def absorbCategory (categories : List Category) (c : Category) : Merging (List Category) := do
  match categories with
  | [] =>
    modify fun report => { report with categoriesAdded := report.categoriesAdded + 1 }
    return [c]
  | first :: rest =>
    if Text.sameIgnoringCase first.name c.name then return (← first.absorb c) :: rest
    else return first :: (← absorbCategory rest c)

/-! ## Toolboxes -/

/-- Puts the entries of a map into another one, and counts each of them. -/
def insertAll {β : Type} (m entries : Std.ExtTreeMap String β) (count : MergeReport → MergeReport) :
    Merging (Std.ExtTreeMap String β) :=
  entries.foldlM (fun m name value => do modify count; return m.insert name value) m

namespace Toolbox

/-- Merges another toolbox into this one: the colors, the styles, and then the categories in order. -/
def absorb (base other : Toolbox) : Merging Toolbox := do
  let colors ← insertAll base.colors other.colors fun report => { report with colors := report.colors + 1 }
  let styles ← insertAll base.styles other.styles fun report => { report with styles := report.styles + 1 }
  let categories ← other.categories.foldlM absorbCategory base.categories
  return { colors, styles, categories }

/-- This toolbox with another one merged into it. -/
def merge (base other : Toolbox) : Toolbox := ((base.absorb other).run {}).1

/-- What merging another toolbox into this one changes. -/
def mergeReport (base other : Toolbox) : MergeReport := ((base.absorb other).run {}).2

end Toolbox

end FlightBlocks.Palette
