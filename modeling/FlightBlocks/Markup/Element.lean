/-!
Elements: trees with a name, attributes and children.

Attributes keep the order in which they were first set. Of several with one key the first one
counts; setting a key keeps its place, and removing it removes every one.
-/

namespace FlightBlocks.Markup

/-- A key with its value. -/
abbrev Attribute := String × String

/-- A name with attributes and children, both in document order. -/
structure Element where
  name : String
  attributes : List Attribute
  children : List Element
  deriving BEq, Repr

/-- Replaces the value of the first attribute with the key, or adds one at the end. -/
def setAttribute (key value : String) : List Attribute → List Attribute
  | [] => [(key, value)]
  | (k, v) :: rest => if k = key then (k, value) :: rest else (k, v) :: setAttribute key value rest

namespace Element

/-- An element with a name only. -/
def named (name : String) : Element := ⟨name, [], []⟩

instance : Inhabited Element := ⟨named ""⟩

/-- The value of the first attribute with the key. -/
def attribute? (e : Element) (key : String) : Option String :=
  e.attributes.lookup key

def set (e : Element) (key value : String) : Element :=
  { e with attributes := setAttribute key value e.attributes }

def remove (e : Element) (key : String) : Element :=
  { e with attributes := e.attributes.filter fun a => a.1 != key }

/-- Sets the value, or removes the key when there is none. -/
def setOptional (e : Element) (key : String) : Option String → Element
  | some value => e.set key value
  | none => e.remove key

def rename (e : Element) (name : String) : Element := { e with name }

def push (e : Element) (child : Element) : Element :=
  { e with children := e.children ++ [child] }

/-- The first child of a name. -/
def child? (e : Element) (name : String) : Option Element :=
  e.children.find? fun c => c.name = name

end Element

end FlightBlocks.Markup
