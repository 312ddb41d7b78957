import FlightBlocks.Extension.Settings
import FlightBlocks.Node.Type
import FlightBlocks.Palette.Source

/-!
The toolbox that comes with the extension.

In a format, braces stand for the choice of a block and parentheses for its children.
-/

namespace FlightBlocks.Blocks

open Markup (Attribute Element)
open Palette (Category Color Resources Style Template Toolbox)

/-- A style with a color of the palette. -/
def look (name color format tooltip : String) : Style :=
  ⟨name, some color, some format, some tooltip, []⟩

/-- A constant with a number or a text. -/
def constant (slot value : String) : Element := ⟨NodeType.constant.name, [(slot, value)], []⟩

/-- A block of a type in a style. -/
def block (type : NodeType) (style : String) (attributes : List Attribute)
    (children : List Element) : Template :=
  .ofElement ⟨type.name, ("style", style) :: attributes, children⟩

def colors : List (String × Color) :=
  [("VizzyPlusPlus", .opaqueOf 0x7b 0x4f 0xd8), ("VizzyPlusPlusText", .opaqueOf 0xc2 0x48 0x8f)]

def styles : List Style :=
  [look "vpp-numeric-constant" "Operators" "|\x7b0\x7d|" "A well-known numeric constant.",
   look "vpp-unary-math" "Operators" "\x7b0\x7d of (1)"
      "Hyperbolic and exponential functions.",
   look "vpp-string-comparison" "VizzyPlusPlusText" "(0) \x7b1\x7d (2)"
      "Compares two pieces of text.",
   look "vpp-string-transform" "VizzyPlusPlusText" "\x7b0\x7d (1)"
      "Transforms a piece of text.",
   look "vpp-split" "VizzyPlusPlusText" "split (0) by (1)"
      "Splits text into a list on any of the separator characters.",
   look "vpp-orbital-element" "CraftInformation" "orbit \x7b0\x7d of (1)"
      "Classical orbital element of a craft or planet.",
   look "vpp-advanced-orbital-element" "CraftInformation" "orbit \x7b0\x7d of (1)"
      "Derived orbital quantity of a craft or planet.",
   look "vpp-state-vector" "CraftInformation" "\x7b0\x7d vector of (1)"
      "Cartesian state vector of a craft or planet.",
   look "vpp-craft-id" "CraftInformation" "\x7b0\x7d craft ID"
      "The ID of the current, targeted or active craft.",
   look "vpp-planet-info" "CraftInformation" "planet \x7b0\x7d of (1)"
      "Advanced information about a planet.",
   look "vpp-continue" "VizzyPlusPlus" "continue"
      "Skips to the next iteration of the innermost loop."]

def operators : Category :=
  ⟨"Operators", none,
    [block .numericConstant "vpp-numeric-constant" [("type", "pi")] [],
     block .unaryMath "vpp-unary-math" [("op", "sinh")] [constant "number" "0"]]⟩

def craftInformation : Category :=
  ⟨"Craft Information", none,
    [block .craftId "vpp-craft-id" [("type", "target")] [],
     block .orbitalElement "vpp-orbital-element" [("element", "inclination")]
       [constant "text" ""],
     block .advancedOrbitalElement "vpp-advanced-orbital-element" [("element", "apoapse")]
       [constant "text" ""],
     block .stateVector "vpp-state-vector" [("vector", "position")] [constant "text" ""],
     block .planetInformation "vpp-planet-info" [("info", "sea-level")]
       [constant "text" "Droo"]]⟩

def programFlow : Category :=
  ⟨"Program Flow", none, [block .continueLoop "vpp-continue" [] []]⟩

def text : Category :=
  ⟨"Text", some "VizzyPlusPlusText",
    [block .comparison "vpp-string-comparison" [("op", "equals")]
       [constant "text" "a", constant "text" "b"],
     block .transform "vpp-string-transform" [("op", "to-lower")] [constant "text" "Text"],
     block .split "vpp-split" [] [constant "text" "a,b,c", constant "text" ","]]⟩

/-- The toolbox of the extension. -/
def toolbox : Toolbox :=
  ⟨.ofList colors, Palette.byName styles, [operators, craftInformation, programFlow, text]⟩

/-- The resources that come with the extension: its toolbox alone. -/
def resources : Resources :=
  fun name => if name = Settings.bundledResource then some toolbox.render else none

end FlightBlocks.Blocks
