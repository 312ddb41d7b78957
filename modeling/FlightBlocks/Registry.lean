import FlightBlocks.Node.Instruction
import Std.Data.ExtTreeMap

/-!
The registry: which type of node a tag stands for, and which tag a type is saved under.

Several tags may stand for one type; it is saved under the one that was registered last. When a tag
is taken over by another type, the old type falls back to another of its tags, if it has one.
-/

namespace FlightBlocks

/-- Types by tag, and for every type the tag it is saved under. -/
structure Registry where
  types : Std.ExtTreeMap String NodeType
  tag? : NodeType → Option String

namespace Registry

def empty : Registry := ⟨∅, fun _ => none⟩

/-- The type of a tag. -/
def type? (r : Registry) (tag : String) : Option NodeType := r.types[tag]?

/-- A fresh node of the type that a tag stands for. -/
def create? (r : Registry) (tag : String) : Option Node := (r.type? tag).map NodeType.fresh

def contains (r : Registry) (tag : String) : Bool := r.types.contains tag

def size (r : Registry) : Nat := r.types.size

/-- The tags in order. -/
def tags (r : Registry) : List String := r.types.keys

/-- The tag that a type is saved under, with the type that it stands for. -/
def entryOf? (r : Registry) (type : NodeType) : Option (String × NodeType) := do
  let tag ← r.tag? type
  let found ← r.type? tag
  return (tag, found)

/-- The first tag that stands for a type. -/
def firstTag? (types : Std.ExtTreeMap String NodeType) (type : NodeType) : Option String :=
  (types.toList.find? fun entry => entry.2 = type).map (·.1)

/-- Changes the tag that a type is saved under. -/
def retag (tag? : NodeType → Option String) (type : NodeType) (tag : Option String) :
    NodeType → Option String :=
  fun t => if t = type then tag else tag? t

/-- Lets a tag stand for a type, whatever it stood for before. -/
def register (r : Registry) (tag : String) (type : NodeType) : Registry :=
  let types := r.types.insert tag type
  let tag? := match r.type? tag with
    | some old =>
      if old ≠ type ∧ r.tag? old = some tag then retag r.tag? old (firstTag? types old) else r.tag?
    | none => r.tag?
  ⟨types, retag tag? type (some tag)⟩

/-- Registers a list of tags in order. -/
def registerAll (r : Registry) (entries : List (String × NodeType)) : Registry :=
  entries.foldl (fun r entry => r.register entry.1 entry.2) r

/-- The tags of the language itself. -/
def hostEntries : List (String × NodeType) := NodeType.hostTypes.map fun t => (t.name, t)

/-- A tag that older programs use for the id of the target. -/
def targetTag : String := "TargetCraftId"

/-- The tags of the extension. A craft id has two. -/
def extensionEntries : List (String × NodeType) :=
  NodeType.extensionTypes.flatMap fun t =>
    if t = .craftId then [(t.name, t), (targetTag, t)] else [(t.name, t)]

/-- The registry of the language itself. -/
def host : Registry := empty.registerAll hostEntries

/-- Adds the tags of the extension. -/
def withExtension (r : Registry) : Registry := r.registerAll extensionEntries

/-- The registry of the language with the extension. -/
def full : Registry := host.withExtension

end Registry

end FlightBlocks
