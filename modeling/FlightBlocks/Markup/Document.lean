import FlightBlocks.Markup.Event

/-!
Reading a document with a single root element.

`Element.ofEvents` builds the tree of a sequence of events, `Element.parse` that of a text. Both
fail at the first event that does not fit, and never return a part of a tree.
-/

namespace FlightBlocks.Markup

/-- A tree under construction: the open elements, the innermost first, and the root once it is
    closed. -/
structure Forest where
  opened : List Element
  root : Option Element

namespace Forest

def empty : Forest := ⟨[], none⟩

/-- Puts a finished element into the innermost open one; without one it becomes the root. -/
def attach (f : Forest) (e : Element) : Except MarkupError Forest :=
  match f.opened, f.root with
  | parent :: outer, _ => .ok { f with opened := parent.push e :: outer }
  | [], some _ => .error .multipleRoots
  | [], none => .ok { f with root := some e }

/-- The tree after one more event. -/
def step (f : Forest) : Event → Except MarkupError Forest
  | .other => .ok f
  | .start name attributes => .ok { f with opened := ⟨name, attributes, []⟩ :: f.opened }
  | .empty name attributes => f.attach ⟨name, attributes, []⟩
  | .stop found =>
    match f.opened with
    | [] => .error (.malformed (.unexpectedEnd found))
    | e :: outer =>
      if e.name = found then Forest.attach { f with opened := outer } e
      else .error (.mismatchedEnd e.name found)

/-- The tree after a sequence of events. -/
def steps (f : Forest) (events : List Event) : Except MarkupError Forest :=
  events.foldlM step f

/-- The root, once nothing is open any more. -/
def finish (f : Forest) : Except MarkupError Element :=
  match f.opened, f.root with
  | e :: _, _ => .error (.unclosed e.name)
  | [], none => .error .noRoot
  | [], some root => .ok root

end Forest

/-- The tree whose tags the events are. -/
def Element.ofEvents (events : List Event) : Except MarkupError Element := do
  (← Forest.empty.steps events).finish

/-- The root element of a text. An event that does not fit is reported before a fault behind it. -/
def Element.parse (text : String) : Except MarkupError Element := do
  let (events, fault) := Event.read text
  let forest ← Forest.empty.steps events
  match fault with
  | some fault => .error fault
  | none => forest.finish

end FlightBlocks.Markup
