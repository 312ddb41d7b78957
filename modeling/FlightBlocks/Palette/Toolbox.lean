import FlightBlocks.Markup.Document
import FlightBlocks.Markup.Render
import FlightBlocks.Palette.Color
import Std.Data.ExtTreeMap

/-!
Toolboxes: the blocks that an editor offers, with their colors and styles.

A toolbox is an element with three sections. Colors and styles have names, of which the last entry
counts; they are saved in the order of their names. Categories and their templates keep the order
they have.
-/

namespace FlightBlocks.Palette

open Markup (Attribute Element)

/-- How blocks of a style look. Attributes that are not known are kept. -/
structure Style where
  name : String
  color : Option String
  format : Option String
  tooltip : Option String
  extra : List Attribute
  deriving DecidableEq, Repr

/-- A block as it is offered, with the configuration it begins with. Templates of a category are told
    apart by the names of their styles. -/
structure Template where
  style : String
  element : Element
  deriving BEq, Repr

/-- The template of an element, which says what style it has. -/
def Template.ofElement (e : Element) : Template := ⟨(e.attribute? "style").getD "", e⟩

/-- A named group of templates. -/
structure Category where
  name : String
  color : Option String
  templates : List Template
  deriving BEq, Repr

/-- Whether a template of exactly this style is in the category. -/
def Category.hasStyle (c : Category) (style : String) : Bool :=
  c.templates.any fun t => t.style = style

/-- Colors and styles by name, and the categories in order. -/
structure Toolbox where
  colors : Std.ExtTreeMap String Color
  styles : Std.ExtTreeMap String Style
  categories : List Category
  deriving BEq

/-- Why an element is not a toolbox. -/
inductive ToolboxError where
  | markup (e : Markup.MarkupError)
  | notAToolbox (root : String)
  | missingSection (name : String)
  | missingAttribute (element slot : String)
  | invalidColor (name value : String)
  deriving DecidableEq, Repr

def ToolboxError.message : ToolboxError → String
  | .markup e => e.message
  | .notAToolbox root => "expected <Toolbox> root, found <" ++ root ++ ">"
  | .missingSection name => "toolbox is missing its <" ++ name ++ "> section"
  | .missingAttribute element slot =>
    "<" ++ element ++ "> is missing required attribute `" ++ slot ++ "`"
  | .invalidColor name value => "color `" ++ name ++ "` has malformed value `" ++ value ++ "`"

def toolboxTag : String := "Toolbox"
def colorsTag : String := "Colors"
def stylesTag : String := "Styles"
def categoriesTag : String := "Categories"

/-! ## Loading -/

/-- The value of an attribute that has to be there. -/
def required (e : Element) (slot : String) : Except ToolboxError String :=
  match e.attribute? slot with
  | some value => .ok value
  | none => .error (.missingAttribute e.name slot)

/-- A color with its name. -/
def loadColor (e : Element) : Except ToolboxError (String × Color) := do
  let name ← required e "name"
  let value ← required e "color"
  match Color.read? value with
  | some color => return (name, color)
  | none => throw (.invalidColor name value)

/-- The attributes that a style knows. -/
def styleSlots : List String := ["name", "color", "format", "tooltip"]

def loadStyle (e : Element) : Except ToolboxError Style := do
  let name ← required e "name"
  return { name
           color := e.attribute? "color"
           format := e.attribute? "format"
           tooltip := e.attribute? "tooltip"
           extra := e.attributes.filter fun a => a.1 ∉ styleSlots }

/-- Styles under their names. -/
def byName (styles : List Style) : Std.ExtTreeMap String Style :=
  .ofList (styles.map fun style => (style.name, style))

def loadCategory (e : Element) : Except ToolboxError Category := do
  let name ← required e "name"
  return ⟨name, e.attribute? "color", e.children.map Template.ofElement⟩

/-- What is in a section that has to be there. -/
def contents (root : Element) (tag : String) : Except ToolboxError (List Element) :=
  match root.child? tag with
  | some e => .ok e.children
  | none => .error (.missingSection tag)

namespace Toolbox

def empty : Toolbox := ⟨∅, ∅, []⟩

/-- The toolbox of an element. The sections are read one after the other, so that a fault in one
    counts before a later one that is missing. -/
def load (root : Element) : Except ToolboxError Toolbox := do
  if root.name ≠ toolboxTag then throw (.notAToolbox root.name)
  let colors ← (← contents root colorsTag).mapM loadColor
  let styles ← (← contents root stylesTag).mapM loadStyle
  let categories ← (← contents root categoriesTag).mapM loadCategory
  return ⟨.ofList colors, byName styles, categories⟩

/-- The toolbox of a text. -/
def parse (text : String) : Except ToolboxError Toolbox :=
  match Element.parse text with
  | .ok root => load root
  | .error e => .error (.markup e)

end Toolbox

/-! ## Saving -/

def saveColor (name : String) (color : Color) : Element :=
  ((Element.named "Color").set "name" name).set "color" color.write

def saveStyle (style : Style) : Element :=
  let e := (Element.named "Style").set "name" style.name
  let e := e.setOptional "color" style.color
  let e := e.setOptional "format" style.format
  let e := e.setOptional "tooltip" style.tooltip
  style.extra.foldl (fun e a => e.set a.1 a.2) e

def saveCategory (c : Category) : Element :=
  let e := ((Element.named "Category").set "name" c.name).setOptional "color" c.color
  { e with children := c.templates.map (·.element) }

namespace Toolbox

/-- The element of a toolbox. -/
def save (t : Toolbox) : Element :=
  let colors := t.colors.toList.map fun (name, color) => saveColor name color
  let styles := (t.styles.toList.map (·.2)).mergeSort fun a b => a.name ≤ b.name
  let categories := t.categories.map saveCategory
  ⟨toolboxTag, [],
    [⟨colorsTag, [], colors⟩, ⟨stylesTag, [], styles.map saveStyle⟩, ⟨categoriesTag, [], categories⟩]⟩

/-- The text of a toolbox. -/
def render (t : Toolbox) : String := t.save.toXml

/-- The first category of a name, up to the case of ASCII letters. -/
def category? (t : Toolbox) (name : String) : Option Category :=
  t.categories.find? fun c => Text.sameIgnoringCase c.name name

end Toolbox

end FlightBlocks.Palette
