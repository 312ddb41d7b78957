import FlightBlocks.Markup.Element
import FlightBlocks.Markup.Entity

/-!
Writing an element as text.

Every tag stands on a line of its own, indented by two spaces a level. An element without children
is written as an empty tag.
-/

namespace FlightBlocks.Markup

/-- A name with its attributes, as both kinds of opening tag begin. -/
def renderOpening (name : String) (attributes : List Attribute) : List Char :=
  '<' :: name.toList ++ attributes.flatMap fun (key, value) =>
    ' ' :: key.toList ++ '=' :: '"' :: escape value.toList ++ ['"']

def indentation (depth : Nat) : List Char := List.replicate (2 * depth) ' '

mutual

/-- The lines of an element at a depth, before the characters that follow them. -/
def Element.render (depth : Nat) : Element → (rest : List Char) → List Char
  | ⟨name, attributes, []⟩, rest =>
    indentation depth ++ (renderOpening name attributes ++ ' ' :: '/' :: '>' :: '\n' :: rest)
  | ⟨name, attributes, child :: more⟩, rest =>
    let closing := indentation depth ++ '<' :: '/' :: name.toList ++ ['>', '\n']
    indentation depth ++ (renderOpening name attributes ++ '>' :: '\n' ::
      child.render (depth + 1) (renderAll (depth + 1) more (closing ++ rest)))

/-- The lines of some elements at a depth, before the characters that follow them. -/
def renderAll (depth : Nat) : List Element → (rest : List Char) → List Char
  | [], rest => rest
  | e :: others, rest => e.render depth (renderAll depth others rest)

end

/-- The text of an element. -/
def Element.toXml (e : Element) : String := String.ofList (e.render 0 [])

end FlightBlocks.Markup
