import FlightBlocks.Proofs.Loading
import FlightBlocks.Proofs.NodeRoundTrip
import Mathlib.Data.List.Lex

/-!
# What makes an element a program

Where an element stands decides what it has to be: an instruction, an expression, a body and so on (`Role`).
It is at fault when it is not (`Role.fault?`). A place is written as the indices of children on the way down
from the root, so that the order of lists is the order of the document.

Loading an element ends with its first fault in this order (`loads_unless_fault`), and what has no fault is a
program, as `Document.IsProgram` describes it from its sections down to its expressions.
-/

namespace FlightBlocks

open Markup (Element)

namespace NodeType

/-- Whether a body may be nested in instructions of the type. -/
def hasBody : NodeType → Bool
  | .branch | .loop => true
  | _ => false

end NodeType

theorem InstructionNode.hasBody_type (node : InstructionNode) : node.type.hasBody = node.hasBody := by
  cases node <;> rfl

namespace Document

/-! ## Programs as elements -/

/-- The tag of an element stands for expressions, and so do those of all elements in it. -/
inductive IsExpression (r : Registry) : Element → Prop where
  | intro {e : Element} {type : NodeType} (found : r.type? e.name = some type) (kind : type.kind = .expression)
      (children : ∀ c ∈ e.children, IsExpression r c) : IsExpression r e

/-- The tag of an element stands for instructions. In it there are bodies, if the instruction may have one,
    which hold instructions, and else expressions only. -/
inductive IsInstruction (r : Registry) : Element → Prop where
  | intro {e : Element} {type : NodeType} (found : r.type? e.name = some type) (kind : type.kind = .instruction)
      (nests : ∀ c ∈ e.children, c.name = instructionsTag → type.hasBody = true)
      (bodies : ∀ c ∈ e.children, c.name = instructionsTag → ∀ i ∈ c.children, IsInstruction r i)
      (expressions : ∀ c ∈ e.children, c.name ≠ instructionsTag → IsExpression r c) : IsInstruction r e

/-- An element is a program. Of sections with other names than these nothing is asked. -/
structure IsProgram (r : Registry) (root : Element) : Prop where
  name : root.name = programTag
  threads : ∀ s ∈ root.children, s.name = instructionsTag → ∀ e ∈ s.children, IsInstruction r e
  expressions : ∀ s ∈ root.children, s.name = expressionsTag → ∀ e ∈ s.children, IsExpression r e
  customInstructions : ∀ s ∈ root.children, s.name = customInstructionsTag →
    ∀ chain ∈ s.children, chain.name = instructionsTag ∧ ∀ e ∈ chain.children, IsInstruction r e
  customExpressions : ∀ s ∈ root.children, s.name = customExpressionsTag → ∀ e ∈ s.children, IsExpression r e

/-! ## Faults -/

/-- What an element has to be. -/
inductive Role where
  | program
  /-- A section of instructions. -/
  | thread
  /-- A section of expressions, free or custom. -/
  | expressions
  /-- A section of custom instructions. -/
  | customInstructions
  /-- The body of a custom instruction. -/
  | customBody
  | instruction
  /-- The body of an instruction with a tag. -/
  | body (owner : String)
  | expression
  /-- Part of a section that no program has. -/
  | ignored

namespace Role

/-- What a section of a name has to be. -/
def ofSection (name : String) : Role :=
  if name = instructionsTag then .thread
  else if name = expressionsTag then .expressions
  else if name = customInstructionsTag then .customInstructions
  else if name = customExpressionsTag then .expressions
  else .ignored

/-- What a child of a name has to be, in an element with a tag. -/
def child : Role → (tag name : String) → Role
  | .program, _, name => ofSection name
  | .thread, _, _ | .customBody, _, _ | .body _, _, _ => .instruction
  | .expressions, _, _ | .expression, _, _ => .expression
  | .customInstructions, _, _ => .customBody
  | .instruction, tag, name => if name = instructionsTag then .body tag else .expression
  | .ignored, _, _ => .ignored

/-- A tag has to stand for nodes of a kind. -/
def kindFault? (r : Registry) (expected : NodeKind) (tag : String) : Option LoadError :=
  match r.type? tag with
  | none => some (.unknownNode tag)
  | some type => if type.kind = expected then none else some (.wrongKind tag expected type.kind)

def nameFault? (expected tag : String) : Option LoadError :=
  if tag = expected then none else some (.unexpectedElement expected tag)

/-- What is wrong with an element of a tag, apart from what it holds. -/
def fault? (r : Registry) : Role → (tag : String) → Option LoadError
  | .program, tag => nameFault? programTag tag
  | .customBody, tag => nameFault? instructionsTag tag
  | .instruction, tag => kindFault? r .instruction tag
  | .expression, tag => kindFault? r .expression tag
  | .body owner, _ => if (r.type? owner).any NodeType.hasBody then none else some (.unexpectedBody owner)
  | .thread, _ | .expressions, _ | .customInstructions, _ | .ignored, _ => none

end Role

/-- A place in an element: the index of a child, of a child of that, and so on. As a list it comes before
    the places inside of it, and these before the places behind it. -/
abbrev Place := List Nat

/-- The fault at a place in an element, if there is such a place and a fault at it. -/
def faultAt (r : Registry) (role : Role) (e : Element) : Place → Option LoadError
  | [] => role.fault? r e.name
  | i :: place =>
    match e.children[i]? with
    | some c => faultAt r (role.child e.name c.name) c place
    | none => none

/-- A fault of an element in the role of a program, before which there is none in the document. -/
def IsFirstFault (r : Registry) (root : Element) (fault : LoadError) : Prop :=
  ∃ place, faultAt r .program root place = some fault ∧
    ∀ earlier, earlier < place → faultAt r .program root earlier = none

/-! ## The first fault -/

mutual

/-- The fault of an element itself, or else the first one inside of it. -/
def firstFault (r : Registry) : Element → Role → Option LoadError
  | ⟨tag, _, children⟩, role => (role.fault? r tag).or (firstFaultIn r children role tag)

/-- The first fault among the children of an element with a tag. -/
def firstFaultIn (r : Registry) : List Element → Role → (tag : String) → Option LoadError
  | [], _, _ => none
  | c :: rest, role, tag => (firstFault r c (role.child tag c.name)).or (firstFaultIn r rest role tag)

end

/-- Of the faults at all places one is the first, or there are none. -/
def IsFirst (found : Place → Option LoadError) : Option LoadError → Prop
  | none => ∀ place, found place = none
  | some fault => ∃ place, found place = some fault ∧ ∀ earlier, earlier < place → found earlier = none

/-- No two faults are the first. -/
theorem IsFirst.eq_some_iff {found : Place → Option LoadError} {first : Option LoadError} {fault : LoadError}
    (h : IsFirst found first) : first = some fault ↔
      ∃ place, found place = some fault ∧ ∀ earlier, earlier < place → found earlier = none := by
  constructor
  · rintro rfl
    exact h
  · rintro ⟨place, at_place, before⟩
    cases first with
    | none =>
      rw [h place] at at_place
      cases at_place
    | some other =>
      obtain ⟨place', at_place', before'⟩ := h
      rcases lt_trichotomy place place' with less | rfl | more
      · rw [before' place less] at at_place
        cases at_place
      · exact at_place'.symm.trans at_place
      · rw [before place' more] at at_place'
        cases at_place'

/-- The faults in the children of an element. -/
def faultIn (r : Registry) (role : Role) (tag : String) (children : List Element) : Place → Option LoadError
  | [] => none
  | i :: place =>
    match children[i]? with
    | some c => faultAt r (role.child tag c.name) c place
    | none => none

variable {r : Registry}

/-- The first fault of a child comes before those of the children behind it. -/
theorem IsFirst.cons {c : Element} {rest : List Element} {role : Role} {tag : String} {first more : Option LoadError}
    (inside : IsFirst (faultAt r (role.child tag c.name) c) first) (behind : IsFirst (faultIn r role tag rest) more) :
    IsFirst (faultIn r role tag (c :: rest)) (first.or more) := by
  cases first with
  | some fault =>
    obtain ⟨place, found, before⟩ := inside
    refine ⟨0 :: place, found, ?_⟩
    rintro (_ | ⟨i, earlier⟩) less
    · rfl
    · rcases List.cons_lt_cons_iff.mp less with smaller | ⟨rfl, inner⟩
      · exact absurd smaller (Nat.not_lt_zero i)
      · exact before earlier inner
  | none =>
    have no_fault : ∀ place, faultIn r role tag (c :: rest) (0 :: place) = none := inside
    rw [Option.none_or]
    cases more with
    | none =>
      rintro (_ | ⟨_ | i, place⟩)
      · rfl
      · exact no_fault place
      · exact behind (i :: place)
    | some fault =>
      obtain ⟨_ | ⟨i, place⟩, found, before⟩ := behind
      · cases found
      refine ⟨(i + 1) :: place, found, ?_⟩
      rintro (_ | ⟨_ | j, earlier⟩) less
      · rfl
      · exact no_fault earlier
      · refine before (j :: earlier) (List.cons_lt_cons_iff.mpr ?_)
        simpa using List.cons_lt_cons_iff.mp less

mutual

theorem firstFault_isFirst : ∀ (e : Element) (role : Role), IsFirst (faultAt r role e) (firstFault r e role)
  | ⟨tag, attributes, children⟩, role => by
    rw [firstFault]
    cases own : role.fault? r tag with
    | some fault => exact ⟨[], own, fun earlier less => absurd less (List.not_lt_nil earlier)⟩
    | none =>
      have same : faultAt r role ⟨tag, attributes, children⟩ = faultIn r role tag children := by
        funext place
        cases place with
        | nil => exact own
        | cons i place => rfl
      rw [same, Option.none_or]
      exact firstFaultIn_isFirst children role tag

theorem firstFaultIn_isFirst : ∀ (es : List Element) (role : Role) (tag : String),
    IsFirst (faultIn r role tag es) (firstFaultIn r es role tag)
  | [], role, tag => by
    rw [firstFaultIn]
    rintro (_ | ⟨i, place⟩) <;> rfl
  | c :: rest, role, tag => by
    rw [firstFaultIn]
    exact (firstFault_isFirst c _).cons (firstFaultIn_isFirst rest role tag)

end

/-! ## Reading up to the first fault -/

/-- A computation ends with a fault, or well when there is none. -/
def StopsAt {α : Type} (m : Except LoadError α) : Option LoadError → Prop
  | none => ∃ a, m = .ok a
  | some fault => m = .error fault

theorem StopsAt.bind {α β : Type} {m : Except LoadError α} {f : α → Except LoadError β}
    {first more : Option LoadError} (stops : StopsAt m first) (next : ∀ a, m = .ok a → StopsAt (f a) more) :
    StopsAt (m >>= f) (first.or more) := by
  cases first with
  | some fault =>
    obtain rfl : m = .error fault := stops
    rfl
  | none =>
    obtain ⟨a, rfl⟩ := stops
    exact next a rfl

theorem StopsAt.ok_iff {α : Type} {m : Except LoadError α} {fault : Option LoadError} (stops : StopsAt m fault) :
    (∃ a, m = .ok a) ↔ fault = none := by
  cases fault with
  | none => exact ⟨fun _ => rfl, fun _ => stops⟩
  | some fault =>
    obtain rfl : m = .error fault := stops
    simp

theorem StopsAt.error_iff {α : Type} {m : Except LoadError α} {first : Option LoadError} {fault : LoadError}
    (stops : StopsAt m first) : m = .error fault ↔ first = some fault := by
  cases first with
  | none =>
    obtain ⟨a, rfl⟩ := stops
    simp
  | some other =>
    obtain rfl : m = .error other := stops
    simp

/-- What is made of a result adds no fault. -/
theorem StopsAt.map {α β : Type} {m : Except LoadError α} {fault : Option LoadError} (stops : StopsAt m fault)
    (f : α → β) : StopsAt (m >>= fun a => pure (f a)) fault := by
  rw [← Option.or_none (o := fault)]
  exact stops.bind fun a _ => ⟨f a, rfl⟩

theorem expressionNode_stops (e : Element) : StopsAt (expressionNode r e) (Role.kindFault? r .expression e.name) := by
  unfold expressionNode Registry.create? Role.kindFault?
  cases r.type? e.name with
  | none => rfl
  | some type =>
    dsimp only [Option.map_some]
    rw [← type.kind_fresh]
    cases type.fresh with
    | expression node => exact ⟨_, rfl⟩
    | instruction node => rfl

theorem instructionNode_stops (e : Element) :
    StopsAt (instructionNode r e) (Role.kindFault? r .instruction e.name) := by
  unfold instructionNode Registry.create? Role.kindFault?
  cases r.type? e.name with
  | none => rfl
  | some type =>
    dsimp only [Option.map_some]
    rw [← type.kind_fresh]
    cases type.fresh with
    | expression node => rfl
    | instruction node => exact ⟨_, rfl⟩

theorem expectName_stops (e : Element) (expected : String) :
    StopsAt (expectName e expected) (Role.nameFault? expected e.name) := by
  unfold expectName Role.nameFault?
  split
  · exact ⟨(), rfl⟩
  · rfl

mutual

theorem readExpression_stops : ∀ (e : Element), StopsAt (readExpression r e) (firstFault r e .expression)
  | ⟨tag, attributes, children⟩ => by
    rw [readExpression, firstFault]
    refine (expressionNode_stops ⟨tag, attributes, children⟩).bind fun node _ => ?_
    exact (readExpressions_stops children .expression tag fun _ => rfl).map _

theorem readExpressions_stops : ∀ (es : List Element) (role : Role) (tag : String),
    (∀ name, role.child tag name = .expression) → StopsAt (readExpressions r es) (firstFaultIn r es role tag)
  | [], _, _, _ => by
    rw [readExpressions, firstFaultIn]
    exact ⟨_, rfl⟩
  | e :: rest, role, tag, inside => by
    rw [readExpressions, firstFaultIn, inside]
    refine (readExpression_stops e).bind fun tree _ => ?_
    exact (readExpressions_stops rest role tag inside).map _

end

mutual

theorem readInstruction_stops : ∀ (e : Element), StopsAt (readInstruction r e) (firstFault r e .instruction)
  | ⟨tag, attributes, children⟩ => by
    rw [readInstruction, firstFault]
    refine (instructionNode_stops ⟨tag, attributes, children⟩).bind fun node made => ?_
    refine StopsAt.map (readHeld_stops tag node.hasBody children ⟨[], []⟩ ?_) _
    rw [instructionNode_type made, ← node.hasBody_type]
    rfl

/-- What an instruction holds is read in order, whatever was read before. -/
theorem readHeld_stops (tag : String) (hasBody : Bool) : ∀ (es : List Element) (held : Held),
    (r.type? tag).any NodeType.hasBody = hasBody →
      StopsAt (readHeld r tag hasBody held es) (firstFaultIn r es .instruction tag)
  | [], held, _ => by
    rw [readHeld, firstFaultIn]
    exact ⟨held, rfl⟩
  | ⟨name, attributes, children⟩ :: rest, held, nests => by
    rw [readHeld, firstFaultIn, Role.child]
    by_cases body : name = instructionsTag
    · rw [if_pos body, if_pos body, firstFault, Role.fault?, nests]
      cases hasBody with
      | false => rfl
      | true =>
        refine (readInstructions_stops children (.body tag) name fun _ => rfl).bind fun trees _ => ?_
        exact readHeld_stops tag true rest _ nests
    · rw [if_neg body, if_neg body]
      refine (readExpression_stops ⟨name, attributes, children⟩).bind fun tree _ => ?_
      exact readHeld_stops tag hasBody rest _ nests

theorem readInstructions_stops : ∀ (es : List Element) (role : Role) (tag : String),
    (∀ name, role.child tag name = .instruction) → StopsAt (readInstructions r es) (firstFaultIn r es role tag)
  | [], _, _, _ => by
    rw [readInstructions, firstFaultIn]
    exact ⟨_, rfl⟩
  | e :: rest, role, tag, inside => by
    rw [readInstructions, firstFaultIn, inside]
    refine (readInstruction_stops e).bind fun tree _ => ?_
    exact (readInstructions_stops rest role tag inside).map _

end

theorem readCustomInstructions_stops (es : List Element) (tag : String) :
    StopsAt (readCustomInstructions r es) (firstFaultIn r es .customInstructions tag) := by
  induction es with
  | nil =>
    rw [firstFaultIn]
    exact ⟨[], rfl⟩
  | cons e rest ih =>
    obtain ⟨name, attributes, children⟩ := e
    rw [readCustomInstructions, firstFaultIn, Role.child, firstFault, Option.or_assoc]
    refine (expectName_stops ⟨name, attributes, children⟩ instructionsTag).bind fun _ _ => ?_
    refine (readInstructions_stops children .customBody name fun _ => rfl).bind fun chain _ => ?_
    exact ih.map _

mutual

theorem firstFault_ignored : ∀ (e : Element), firstFault r e .ignored = none
  | ⟨tag, attributes, children⟩ => by
    rw [firstFault, firstFaultIn_ignored children tag]
    rfl

theorem firstFaultIn_ignored : ∀ (es : List Element) (tag : String), firstFaultIn r es .ignored tag = none
  | [], _ => by rw [firstFaultIn]
  | e :: rest, tag => by
    rw [firstFaultIn, Role.child, firstFault_ignored e, firstFaultIn_ignored rest tag]
    rfl

end

theorem readSection_stops (e : Element) (t : ProgramTree) :
    StopsAt (readSection r t e) (firstFault r e (.ofSection e.name)) := by
  unfold readSection Role.ofSection
  split_ifs
  · obtain ⟨name, attributes, children⟩ := e
    exact (readInstructions_stops children .thread name fun _ => rfl).map _
  · obtain ⟨name, attributes, children⟩ := e
    exact (readExpressions_stops children .expressions name fun _ => rfl).map _
  · obtain ⟨name, attributes, children⟩ := e
    exact (readCustomInstructions_stops children name).map _
  · obtain ⟨name, attributes, children⟩ := e
    exact (readExpressions_stops children .expressions name fun _ => rfl).map _
  · rw [firstFault_ignored]
    exact ⟨t, rfl⟩

theorem readSections_stops (es : List Element) (t : ProgramTree) (tag : String) :
    StopsAt (es.foldlM (readSection r) t) (firstFaultIn r es .program tag) := by
  induction es generalizing t with
  | nil =>
    rw [firstFaultIn]
    exact ⟨t, rfl⟩
  | cons e rest ih =>
    rw [List.foldlM_cons, firstFaultIn]
    exact (readSection_stops e t).bind fun next _ => ih next

theorem read_stops (root : Element) : StopsAt (read r root) (firstFault r root .program) := by
  obtain ⟨name, attributes, children⟩ := root
  rw [read, firstFault]
  refine (expectName_stops ⟨name, attributes, children⟩ programTag).bind fun _ _ => ?_
  exact readSections_stops children _ name

/-- Loading stops where reading does. -/
theorem load_stops (root : Element) : StopsAt (load r root) (firstFault r root .program) := by
  have same := load_builds r root
  have stops := read_stops (r := r) root
  cases fault : firstFault r root .program with
  | none =>
    rw [fault] at stops
    obtain ⟨t, reads⟩ := stops
    rw [reads] at same
    obtain ⟨p, loads, -⟩ := same
    exact ⟨p, loads⟩
  | some fault' =>
    rw [fault] at stops
    rw [show read r root = .error fault' from stops] at same
    exact same

/-! ## Without a fault -/

theorem firstFaultIn_eq_none {es : List Element} {role : Role} {tag : String} :
    firstFaultIn r es role tag = none ↔ ∀ e ∈ es, firstFault r e (role.child tag e.name) = none := by
  induction es with
  | nil => simp [firstFaultIn]
  | cons e rest ih => rw [firstFaultIn, Option.or_eq_none_iff, ih, List.forall_mem_cons]

theorem firstFault_eq_none {e : Element} {role : Role} : firstFault r e role = none ↔
    role.fault? r e.name = none ∧ ∀ c ∈ e.children, firstFault r c (role.child e.name c.name) = none := by
  obtain ⟨tag, attributes, children⟩ := e
  rw [firstFault, Option.or_eq_none_iff, firstFaultIn_eq_none]

theorem Role.kindFault?_eq_none {kind : NodeKind} {tag : String} :
    Role.kindFault? r kind tag = none ↔ ∃ type, r.type? tag = some type ∧ type.kind = kind := by
  unfold Role.kindFault?
  cases r.type? tag <;> simp

theorem Role.nameFault?_eq_none {expected tag : String} : Role.nameFault? expected tag = none ↔ tag = expected := by
  simp [Role.nameFault?]

theorem IsExpression.faultless {e : Element} (is_expression : IsExpression r e) :
    firstFault r e .expression = none := by
  induction is_expression with
  | intro found kind _ ih => exact firstFault_eq_none.mpr ⟨Role.kindFault?_eq_none.mpr ⟨_, found, kind⟩, ih⟩

theorem isExpression_of_faultless : ∀ {e : Element}, firstFault r e .expression = none → IsExpression r e
  | ⟨tag, attributes, children⟩, faultless => by
    obtain ⟨own, inside⟩ := firstFault_eq_none.mp faultless
    obtain ⟨type, found, kind⟩ := Role.kindFault?_eq_none.mp own
    exact .intro found kind fun c member => isExpression_of_faultless (inside c member)

theorem isExpression_iff {e : Element} : firstFault r e .expression = none ↔ IsExpression r e :=
  ⟨isExpression_of_faultless, IsExpression.faultless⟩

/-- What the children of an instruction have to be, of those that are bodies and of all others. -/
theorem instruction_children_iff {tag : String} {children : List Element} :
    (∀ c ∈ children, firstFault r c (Role.instruction.child tag c.name) = none) ↔
      (∀ c ∈ children, c.name = instructionsTag → (r.type? tag).any NodeType.hasBody = true ∧
        ∀ i ∈ c.children, firstFault r i .instruction = none) ∧
      ∀ c ∈ children, c.name ≠ instructionsTag → IsExpression r c := by
  rw [← forall₂_and]
  refine forall₂_congr fun c _ => ?_
  rw [Role.child]
  by_cases body : c.name = instructionsTag
  · rw [if_pos body, firstFault_eq_none]
    simp [body, Role.fault?, Role.child]
  · rw [if_neg body, isExpression_iff]
    simp [body]

theorem IsInstruction.faultless {e : Element} (is_instruction : IsInstruction r e) :
    firstFault r e .instruction = none := by
  induction is_instruction with
  | intro found kind nests _ expressions ih =>
    refine firstFault_eq_none.mpr ⟨Role.kindFault?_eq_none.mpr ⟨_, found, kind⟩, ?_⟩
    refine instruction_children_iff.mpr ⟨fun c member body => ⟨?_, ih c member body⟩, expressions⟩
    rw [found]
    exact nests c member body

theorem isInstruction_of_faultless : ∀ {e : Element}, firstFault r e .instruction = none → IsInstruction r e
  | ⟨tag, attributes, children⟩, faultless => by
    obtain ⟨own, inside⟩ := firstFault_eq_none.mp faultless
    obtain ⟨type, found, kind⟩ := Role.kindFault?_eq_none.mp own
    obtain ⟨bodies, expressions⟩ := instruction_children_iff.mp inside
    refine .intro found kind ?_ ?_ expressions
    · intro c member body
      simpa [found] using (bodies c member body).1
    · intro c member body i within
      have smaller : sizeOf i < sizeOf children := by
        obtain ⟨name, _, instructions⟩ := c
        have inner := List.sizeOf_lt_of_mem within
        have outer := List.sizeOf_lt_of_mem member
        simp only [Element.mk.sizeOf_spec] at inner outer
        omega
      exact isInstruction_of_faultless ((bodies c member body).2 i within)
termination_by e => sizeOf e
decreasing_by
  simp only [Element.mk.sizeOf_spec]
  omega

theorem isInstruction_iff {e : Element} : firstFault r e .instruction = none ↔ IsInstruction r e :=
  ⟨isInstruction_of_faultless, IsInstruction.faultless⟩

/-- What a section has to hold, by its name. -/
theorem section_iff {s : Element} : firstFault r s (.ofSection s.name) = none ↔
    (s.name = instructionsTag → ∀ e ∈ s.children, IsInstruction r e) ∧
      (s.name = expressionsTag → ∀ e ∈ s.children, IsExpression r e) ∧
      (s.name = customInstructionsTag →
        ∀ chain ∈ s.children, chain.name = instructionsTag ∧ ∀ e ∈ chain.children, IsInstruction r e) ∧
      (s.name = customExpressionsTag → ∀ e ∈ s.children, IsExpression r e) := by
  unfold Role.ofSection
  split_ifs with thread free custom customExpression
  · rw [firstFault_eq_none]
    simp [thread, sectionTags_ne, Role.fault?, Role.child, isInstruction_iff]
  · rw [firstFault_eq_none]
    simp [free, sectionTags_ne, Role.fault?, Role.child, isExpression_iff]
  · rw [firstFault_eq_none]
    have chains : (∀ c ∈ s.children, firstFault r c .customBody = none) ↔ ∀ chain ∈ s.children,
        chain.name = instructionsTag ∧ ∀ e ∈ chain.children, IsInstruction r e := by
      refine forall₂_congr fun c _ => ?_
      rw [firstFault_eq_none, Role.fault?, Role.nameFault?_eq_none]
      simp only [Role.child, isInstruction_iff]
    simp [custom, sectionTags_ne, Role.fault?, Role.child, chains]
  · rw [firstFault_eq_none]
    simp [customExpression, sectionTags_ne, Role.fault?, Role.child, isExpression_iff]
  · simp [thread, free, custom, customExpression, firstFault_ignored]

theorem isProgram_iff {root : Element} : firstFault r root .program = none ↔ IsProgram r root := by
  rw [firstFault_eq_none]
  change Role.nameFault? programTag root.name = none ∧
    (∀ s ∈ root.children, firstFault r s (.ofSection s.name) = none) ↔ _
  simp only [Role.nameFault?_eq_none, section_iff]
  constructor
  · rintro ⟨name, sections⟩
    exact ⟨name, fun s member => (sections s member).1, fun s member => (sections s member).2.1,
      fun s member => (sections s member).2.2.1, fun s member => (sections s member).2.2.2⟩
  · rintro ⟨name, threads, expressions, customInstructions, customExpressions⟩
    exact ⟨name, fun s member => ⟨threads s member, expressions s member, customInstructions s member,
      customExpressions s member⟩⟩

end Document

/-- An element loads when it is a program: its root, all that stands in one of the four kinds of sections, and
    nothing else is looked at. If it is not, loading ends with the fault that comes first in the document. -/
theorem loads_unless_fault (r : Registry) (root : Element) :
    ((∃ p, Document.load r root = .ok p) ↔ Document.IsProgram r root) ∧
      ∀ fault, Document.load r root = .error fault ↔ Document.IsFirstFault r root fault := by
  have stops := Document.load_stops (r := r) root
  have first := Document.firstFault_isFirst (r := r) root .program
  exact ⟨stops.ok_iff.trans Document.isProgram_iff, fun fault => stops.error_iff.trans first.eq_some_iff⟩

/-- A log must not have a body, but the unknown expression in it comes first. -/
example : Document.firstFault .full ⟨"Program", [], [⟨"Instructions", [], [⟨"Log", [],
    [⟨"Speed", [], []⟩, ⟨"Instructions", [], []⟩]⟩]⟩]⟩ .program = some (.unknownNode "Speed") := by
  decide +kernel

end FlightBlocks
