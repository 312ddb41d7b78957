import FlightBlocks.Markup.Document

/-!
# Tags of a tree

A document has the tags of a tree when each element stands in it as an empty tag, or as an opening tag, the tags of
its children in order, and a closing tag of the same name (`Tags`). Reading keeps the open elements on a stack, and
what is on the stack is always a tree of which some closing tags are missing (`Forest.Holds`). So it gives an element
exactly where the tags are those of that element, and fails at everything else (`reads_exactly_trees`).
-/

namespace FlightBlocks.Markup

/-- Whether an event means something for the tree. -/
def Event.isTag : Event → Bool
  | .other => false
  | .start .. | .empty .. | .stop _ => true

/-- The events are the tags of some elements, one behind the other. -/
inductive Tags : List Event → List Element → Prop
  | nil : Tags [] []
  | empty {name : String} {attributes : List Attribute} {events : List Event} {elements : List Element}
      (behind : Tags events elements) :
      Tags (.empty name attributes :: events) (⟨name, attributes, []⟩ :: elements)
  | nested {name : String} {attributes : List Attribute} {inner events : List Event}
      {children elements : List Element} (inside : Tags inner children) (behind : Tags events elements) :
      Tags (.start name attributes :: (inner ++ .stop name :: events)) (⟨name, attributes, children⟩ :: elements)

variable {events more : List Event} {e : Element} {f g : Forest}

theorem Tags.append {elements others : List Element} (first : Tags events elements) (second : Tags more others) :
    Tags (events ++ more) (elements ++ others) := by
  induction first with
  | nil => exact second
  | empty _ ih => exact .empty ih
  | nested inside _ _ ih =>
    rw [List.cons_append, List.append_assoc, List.cons_append]
    exact .nested inside ih

/-! ## What a tree under construction holds -/

/-- The events since the outermost open element was opened, from the elements that are open now. -/
inductive Opening : List Event → List Element → Prop
  | nil : Opening [] []
  | cons {before inner : List Event} {e : Element} {outer : List Element} (outside : Opening before outer)
      (inside : Tags inner e.children) : Opening (before ++ .start e.name e.attributes :: inner) (e :: outer)

namespace Forest

/-- The events are those of the root, if it is closed, and of the elements that are open. -/
def Holds (f : Forest) (events : List Event) : Prop :=
  ∃ closed opened, events = closed ++ opened ∧ Tags closed f.root.toList ∧ Opening opened f.opened

theorem holds_empty : Forest.empty.Holds [] := ⟨[], [], rfl, .nil, .nil⟩

/-- An element that is finished adds its tags. -/
theorem Holds.attach (holds : f.Holds events) (tags : Tags more [e]) (attaches : f.attach e = .ok g) :
    g.Holds (events ++ more) := by
  obtain ⟨opened, root⟩ := f
  obtain ⟨first, rest, rfl, closed, opening⟩ := holds
  cases opening with
  | nil =>
    cases root with
    | some root => cases attaches
    | none =>
      cases attaches
      cases closed
      exact ⟨more, [], (List.append_nil _).symm, tags, .nil⟩
  | @cons before inner parent outer outside inside =>
    cases attaches
    refine ⟨first, before ++ .start parent.name parent.attributes :: (inner ++ more), ?_, closed, ?_⟩
    · simp only [List.append_assoc, List.cons_append]
    · exact .cons (e := parent.push e) outside (inside.append tags)

/-- Each event that is a tag is added to what is held. -/
theorem Holds.step {event : Event} (holds : f.Holds events) (tag : event.isTag = true)
    (steps : f.step event = .ok g) : g.Holds (events ++ [event]) := by
  cases event with
  | other => cases tag
  | start name attributes =>
    cases steps
    obtain ⟨first, rest, rfl, closed, opening⟩ := holds
    exact ⟨first, rest ++ [.start name attributes], List.append_assoc .., closed,
      .cons (e := ⟨name, attributes, []⟩) opening .nil⟩
  | empty name attributes => exact holds.attach (.empty .nil) steps
  | stop found =>
    obtain ⟨opened, root⟩ := f
    obtain ⟨first, rest, rfl, closed, opening⟩ := holds
    cases opening with
    | nil => cases steps
    | @cons before inner e outer outside inside =>
      obtain ⟨name, attributes, children⟩ := e
      have outer_holds : Forest.Holds ⟨outer, root⟩ (first ++ before) := ⟨first, before, rfl, closed, outside⟩
      simp only [Forest.step] at steps
      split at steps
      · rename_i same
        cases same
        simpa only [List.append_assoc, List.cons_append] using outer_holds.attach (.nested inside .nil) steps
      · cases steps

theorem Holds.steps (holds : f.Holds events) (tags : ∀ event ∈ more, event.isTag = true)
    (steps : f.steps more = .ok g) : g.Holds (events ++ more) := by
  induction more generalizing f events with
  | nil =>
    cases steps
    rwa [List.append_nil]
  | cons event rest ih =>
    obtain ⟨first, others⟩ := List.forall_mem_cons.mp tags
    rw [Forest.steps, List.foldlM_cons] at steps
    cases next : f.step event with
    | error fault => rw [next] at steps; cases steps
    | ok h =>
      rw [next] at steps
      simpa only [List.append_assoc, List.singleton_append] using ih (holds.step first next) others steps

theorem finish_eq_ok_iff : f.finish = .ok e ↔ f.opened = [] ∧ f.root = some e := by
  obtain ⟨opened, root⟩ := f
  cases opened <;> cases root <;> simp [finish]

/-- What is finished has the tags that were read. -/
theorem Holds.finish (holds : f.Holds events) (finishes : f.finish = .ok e) : Tags events [e] := by
  obtain ⟨opened, root⟩ := f
  obtain ⟨rfl, rfl⟩ := finish_eq_ok_iff.mp finishes
  obtain ⟨first, rest, rfl, closed, opening⟩ := holds
  cases opening
  rwa [List.append_nil]

end Forest

/-! ## Reading the tags of a tree -/

/-- The tags of some elements put them into the element that is open. -/
theorem Tags.steps_inside {elements : List Element} (tags : Tags events elements) {parent : Element}
    {outer : List Element} {root : Option Element} (rest : List Event) :
    Forest.steps ⟨parent :: outer, root⟩ (events ++ rest) =
      Forest.steps ⟨{ parent with children := parent.children ++ elements } :: outer, root⟩ rest := by
  induction tags generalizing parent outer rest with
  | nil =>
    cases parent
    rw [List.append_nil, List.nil_append]
  | @empty name attributes events elements _ ih =>
    change Forest.steps ⟨parent.push ⟨name, attributes, []⟩ :: outer, root⟩ (events ++ rest) = _
    simp [ih, Element.push]
  | @nested name attributes inner events children elements _ _ inside behind =>
    have closes : Forest.steps ⟨⟨name, attributes, children⟩ :: parent :: outer, root⟩ (.stop name :: (events ++ rest)) =
        Forest.steps ⟨parent.push ⟨name, attributes, children⟩ :: outer, root⟩ (events ++ rest) := by
      simp [Forest.steps, Forest.step, Forest.attach, bind, Except.bind]
    rw [List.cons_append, List.append_assoc, List.cons_append]
    change Forest.steps ⟨⟨name, attributes, []⟩ :: parent :: outer, root⟩ _ = _
    rw [inside, List.nil_append, closes, behind]
    simp [Element.push]

/-- The tags of an element put it where an element is to go. -/
theorem Tags.steps_eq (tags : Tags events [e]) (rest : List Event) :
    f.steps (events ++ rest) = f.attach e >>= (·.steps rest) := by
  cases tags with
  | empty behind =>
    cases behind
    rfl
  | @nested name attributes inner _ children _ inside behind =>
    cases behind
    rw [List.cons_append, List.append_assoc]
    change Forest.steps ⟨⟨name, attributes, []⟩ :: f.opened, f.root⟩ _ = _
    rw [inside.steps_inside]
    simp [Forest.steps, Forest.step]

/-- The tags of an element alone are read as this element. -/
theorem Tags.ofEvents_eq (tags : Tags events [e]) : Element.ofEvents events = .ok e := by
  rw [Element.ofEvents, ← List.append_nil events, tags.steps_eq]
  rfl

/-- Events that are no tags change nothing. -/
theorem Forest.steps_filter (f : Forest) (events : List Event) :
    f.steps (events.filter Event.isTag) = f.steps events := by
  induction events generalizing f with
  | nil => rfl
  | cons event rest ih =>
    cases event with
    | other => exact ih f
    | _ => exact bind_congr fun g => ih g

theorem Element.ofEvents_filter (events : List Event) :
    Element.ofEvents (events.filter Event.isTag) = Element.ofEvents events := by
  rw [Element.ofEvents, Forest.steps_filter, Element.ofEvents]

/-- Reading gives an element exactly for its tags. -/
theorem Element.ofEvents_eq_ok_iff : Element.ofEvents events = .ok e ↔ Tags (events.filter Event.isTag) [e] := by
  rw [← Element.ofEvents_filter]
  constructor
  · intro reads
    rw [Element.ofEvents] at reads
    cases steps : Forest.empty.steps (events.filter Event.isTag) with
    | error fault => rw [steps] at reads; cases reads
    | ok f =>
      rw [steps] at reads
      exact (Forest.holds_empty.steps (fun _ member => (List.mem_filter.mp member).2) steps).finish reads
  · exact Tags.ofEvents_eq

/-- A text is read up to its first fault, and what was read has to fit before a fault behind it counts. -/
theorem Element.parse_eq_ok_iff {text : String} :
    Element.parse text = .ok e ↔ (Event.read text).2 = none ∧ Element.ofEvents (Event.read text).1 = .ok e := by
  rw [Element.parse, Element.ofEvents]
  obtain ⟨events, fault⟩ := Event.read text
  cases steps : Forest.empty.steps events <;> cases fault <;> simp [steps, bind, Except.bind]

/-- Reading a sequence of events gives an element exactly when the tags among them, in order, are those of this
    element and nothing else, each of its parts opened and closed under its name; else it fails. Events that are no
    tags make no difference. A text is read as its events are, once there is no fault in them. -/
theorem reads_exactly_trees :
    (∀ events e, Element.ofEvents events = .ok e ↔ Tags (events.filter Event.isTag) [e]) ∧
    (∀ events, (∃ e, Tags (events.filter Event.isTag) [e]) ∨ ∃ fault, Element.ofEvents events = .error fault) ∧
    (∀ events, Element.ofEvents (events.filter Event.isTag) = Element.ofEvents events) ∧
    ∀ text e, Element.parse text = .ok e ↔
      (Event.read text).2 = none ∧ Tags ((Event.read text).1.filter Event.isTag) [e] := by
  refine ⟨fun events e => Element.ofEvents_eq_ok_iff, fun events => ?_, Element.ofEvents_filter, fun text e => ?_⟩
  · cases reads : Element.ofEvents events with
    | error fault => exact .inr ⟨fault, rfl⟩
    | ok e => exact .inl ⟨e, Element.ofEvents_eq_ok_iff.mp reads⟩
  · rw [Element.parse_eq_ok_iff, Element.ofEvents_eq_ok_iff]

/-- Both ways to write an element without children, and a comment. -/
example : Element.ofEvents [.other, .start "A" [("k", "v")], .empty "B" [], .other, .start "C" [], .stop "C", .stop "A"] =
    .ok ⟨"A", [("k", "v")], [⟨"B", [], []⟩, ⟨"C", [], []⟩]⟩ := by
  rfl

end FlightBlocks.Markup
