import FlightBlocks.Document.Save
import FlightBlocks.Extension.Blocks
import FlightBlocks.Extension.Craft
import FlightBlocks.Interpreter
import FlightBlocks.Palette.Merge

/-!
The extension as it is installed in a host: its settings, the registry it shares with the host, and
the resources its toolbox is loaded from.
-/

namespace FlightBlocks

/-- An installed extension. -/
structure Extension where
  settings : Settings
  registry : Registry
  resources : Palette.Resources

namespace Extension

/-- Installs the extension, which adds its tags to those of the host. -/
def install (settings : Settings) (registry : Registry) (resources : Palette.Resources) :
    Extension :=
  ⟨settings, registry.withExtension, resources⟩

/-- Lets a tag of the shared registry stand for a type. -/
def register (x : Extension) (tag : String) (type : NodeType) : Extension :=
  { x with registry := x.registry.register tag type }

/-! ## Toolbox -/

/-- The toolbox of the extension, where it can be loaded. -/
def toolbox? (x : Extension) : Option Palette.Toolbox :=
  ((Palette.Source.ofResource x.settings.toolboxResource).load x.resources).loaded

/-- The name of the interface in which programs are edited. -/
def editorInterface : String := "Vizzy"

/-- Merges the toolbox of the extension into that of the host when the editor is loaded. Gives
    nothing when there is nothing to merge. -/
def onInterfaceLoading (x : Extension) (interface : String) (host : Option Palette.Toolbox) :
    Option (Palette.MergeReport × Palette.Toolbox) :=
  if interface = editorInterface then do
    let own ← x.toolbox?
    let host ← host
    return (host.mergeReport own, host.merge own)
  else none

/-! ## Programs -/

/-- The program of a text. -/
def parse (x : Extension) (text : String) : Except Document.LoadError Program :=
  Document.parse x.registry text

/-- The text of a program. -/
def render (x : Extension) (p : Program) : Except Document.SaveError String :=
  Document.render x.registry p

/-- A fresh thread with the depth of the settings. -/
def thread (x : Extension) : Thread := .start x.settings.maxCallDepth

/-- Whether a program of a list uses the extension. -/
def anyUses : List Program → Except BrokenLink Bool
  | [] => .ok false
  | p :: rest => do if ← p.usesExtension then return true else anyUses rest

/-- Whether a flight program of a craft uses the extension. A program that cannot be read counts as
    one that does not. -/
def isRequiredFor (x : Extension) (c : Craft) : Except BrokenLink Bool :=
  anyUses (c.programs x.registry)

end Extension

end FlightBlocks
