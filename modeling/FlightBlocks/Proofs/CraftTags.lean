import FlightBlocks.Proofs.Discarding
import FlightBlocks.Proofs.Renaming
import FlightBlocks.Proofs.Requirement
import Mathlib.Logic.Equiv.Basic

/-!
# The two tags of craft ids

What an element loads as depends on the type that its tag stands for, and not on the tag. So a program is the same
when expressions are renamed from one tag of their type to another (`Document.load_renamed`), as it is with the two
tags of craft ids, wherever they stand. The program is saved under one of them, with the kind of craft that the element
had or with that of the target (`craft_tags_exchanged`).
-/

namespace FlightBlocks

open Markup (Element Renaming renamedAll renameTags)

/-- A node is configured by the attributes of its element. -/
theorem ExpressionNode.load_congr {e other : Element} (same : e.attributes = other.attributes)
    (node : ExpressionNode) : node.load e = node.load other := by
  obtain ⟨name, attributes, children⟩ := e
  obtain ⟨name', attributes', children'⟩ := other
  obtain rfl : attributes = attributes' := same
  cases node <;> rfl

namespace Document

variable {r : Registry} {rename : Renaming}

/-! ## Expressions under another tag -/

/-- Two tags stand for the same expressions, and neither of them is the name of a section or a body. -/
structure Interchangeable (r : Registry) (tag other : String) : Prop where
  same : r.type? tag = r.type? other
  expression : ∃ type, r.type? tag = some type ∧ type.kind = .expression
  no_frame : tag ∉ frameTags ∧ other ∉ frameTags

/-- Elements are only renamed from one tag of their expressions to another. -/
def KeepsTypes (r : Registry) (rename : Renaming) : Prop :=
  ∀ n name, rename n name = name ∨ Interchangeable r name (rename n name)

theorem KeepsTypes.frame_iff (keeps : KeepsTypes r rename) (n : Nat) {name tag : String} (frame : tag ∈ frameTags) :
    rename n name = tag ↔ name = tag := by
  rcases keeps n name with same | other
  · rw [same]
  · constructor
    · rintro rfl
      exact absurd frame other.no_frame.2
    · rintro rfl
      exact absurd frame other.no_frame.1

theorem expressionNode_renamed (keeps : KeepsTypes r rename) (n : Nat) {tag : String}
    {attributes : List Markup.Attribute} {children : List Element} {node : ExpressionNode}
    (made : expressionNode r ⟨tag, attributes, children⟩ = .ok node) (others : List Element) :
    expressionNode r ⟨rename n tag, attributes, others⟩ = .ok node := by
  obtain ⟨type, fresh, found, is_fresh, rfl⟩ := expressionNode_iff.mp made
  refine expressionNode_iff.mpr ⟨type, fresh, ?_, is_fresh, fresh.load_congr rfl⟩
  rcases keeps n tag with same | other
  · rwa [same]
  · rw [← other.same]
    exact found

/-- The element of an instruction is not renamed. -/
theorem tag_of_instructionNode (keeps : KeepsTypes r rename) (n : Nat) {e : Element} {node : InstructionNode}
    (made : instructionNode r e = .ok node) : rename n e.name = e.name := by
  rcases keeps n e.name with same | other
  · exact same
  · obtain ⟨type, found, is_expression⟩ := other.expression
    obtain ⟨type', fresh, found', is_fresh, -⟩ := instructionNode_iff.mp made
    obtain rfl := Option.some.inj (found.symm.trans found')
    have kind := type.kind_fresh
    rw [is_fresh, is_expression] at kind
    cases kind

/-- The node of an instruction does not depend on what its element holds. -/
theorem instructionNode_children {tag : String} {attributes : List Markup.Attribute} {children : List Element}
    {node : InstructionNode} (made : instructionNode r ⟨tag, attributes, children⟩ = .ok node)
    (others : List Element) : instructionNode r ⟨tag, attributes, others⟩ = .ok node := by
  obtain ⟨type, fresh, found, is_fresh, rfl⟩ := instructionNode_iff.mp made
  refine instructionNode_iff.mpr ⟨type, fresh, found, is_fresh, ?_⟩
  cases fresh <;> rfl

/-! ## Loading under another tag -/

mutual

theorem loadExpression_renamed (keeps : KeepsTypes r rename) : ∀ (e : Element) (n : Nat) {p : Program}
    {result : ExpressionId × Program}, loadExpression r p e = .ok result →
    loadExpression r p (e.renamed rename n) = .ok result
  | ⟨tag, attributes, children⟩, n, p, result, loads => by
    unfold loadExpression at loads
    obtain ⟨node, made, loads⟩ := bind_ok_iff.mp loads
    obtain ⟨inner, below, loads⟩ := bind_ok_iff.mp loads
    rw [Element.renamed, loadExpression]
    exact bind_ok_iff.mpr ⟨node, expressionNode_renamed keeps n made _,
      bind_ok_iff.mpr ⟨inner, loadExpressions_renamed keeps children (n + 1) below, loads⟩⟩

theorem loadExpressions_renamed (keeps : KeepsTypes r rename) : ∀ (es : List Element) (n : Nat) {p : Program}
    {result : List ExpressionId × Program}, loadExpressions r p es = .ok result →
    loadExpressions r p (renamedAll rename n es) = .ok result
  | [], _, _, _, loads => loads
  | e :: rest, n, p, result, loads => by
    unfold loadExpressions at loads
    obtain ⟨first, begins, loads⟩ := bind_ok_iff.mp loads
    obtain ⟨others, more, loads⟩ := bind_ok_iff.mp loads
    rw [renamedAll, loadExpressions]
    exact bind_ok_iff.mpr ⟨first, loadExpression_renamed keeps e n begins,
      bind_ok_iff.mpr ⟨others, loadExpressions_renamed keeps rest _ more, loads⟩⟩

end

mutual

theorem loadInstruction_renamed (keeps : KeepsTypes r rename) : ∀ (e : Element) (n : Nat) {p : Program}
    {result : InstructionId × Program}, loadInstruction r p e = .ok result →
    loadInstruction r p (e.renamed rename n) = .ok result
  | ⟨tag, attributes, children⟩, n, p, result, loads => by
    unfold loadInstruction at loads
    obtain ⟨node, made, loads⟩ := bind_ok_iff.mp loads
    obtain ⟨inner, below, loads⟩ := bind_ok_iff.mp loads
    rw [Element.renamed, show rename n tag = tag from tag_of_instructionNode keeps n made, loadInstruction]
    exact bind_ok_iff.mpr ⟨node, instructionNode_children made _,
      bind_ok_iff.mpr ⟨inner, loadParts_renamed keeps tag node.hasBody children (n + 1) below, loads⟩⟩

theorem loadParts_renamed (keeps : KeepsTypes r rename) (tag : String) (hasBody : Bool) : ∀ (es : List Element)
    (n : Nat) {parts : Parts} {p : Program} {result : Parts × Program},
    loadParts r tag hasBody parts p es = .ok result →
    loadParts r tag hasBody parts p (renamedAll rename n es) = .ok result
  | [], _, _, _, _, loads => by
    rwa [renamedAll]
  | ⟨name, attributes, children⟩ :: rest, n, parts, p, result, loads => by
    have body_iff : rename n name = instructionsTag ↔ name = instructionsTag := keeps.frame_iff n (by decide)
    unfold loadParts at loads
    rw [renamedAll, Element.renamed, loadParts]
    by_cases body : name = instructionsTag
    · rw [if_pos body] at loads
      rw [if_pos (body_iff.mpr body)]
      cases hasBody with
      | false => cases loads
      | true =>
        obtain ⟨chain, inside, loads⟩ := bind_ok_iff.mp loads
        exact bind_ok_iff.mpr ⟨chain, loadInstructions_renamed keeps children (n + 1) inside,
          loadParts_renamed keeps tag true rest _ loads⟩
    · rw [if_neg body] at loads
      rw [if_neg (body_iff.not.mpr body)]
      obtain ⟨first, begins, loads⟩ := bind_ok_iff.mp loads
      have begins' := loadExpression_renamed keeps _ n begins
      rw [Element.renamed] at begins'
      exact bind_ok_iff.mpr ⟨first, begins', loadParts_renamed keeps tag hasBody rest _ loads⟩

theorem loadInstructions_renamed (keeps : KeepsTypes r rename) : ∀ (es : List Element) (n : Nat) {p : Program}
    {result : List InstructionId × Program}, loadInstructions r p es = .ok result →
    loadInstructions r p (renamedAll rename n es) = .ok result
  | [], _, _, _, loads => by
    rwa [renamedAll]
  | e :: rest, n, p, result, loads => by
    unfold loadInstructions at loads
    obtain ⟨first, begins, loads⟩ := bind_ok_iff.mp loads
    obtain ⟨others, more, loads⟩ := bind_ok_iff.mp loads
    rw [renamedAll, loadInstructions]
    exact bind_ok_iff.mpr ⟨first, loadInstruction_renamed keeps e n begins,
      bind_ok_iff.mpr ⟨others, loadInstructions_renamed keeps rest _ more, loads⟩⟩

end

/-- An element that has to have the name of a section has it still. -/
theorem expectName_renamed (keeps : KeepsTypes r rename) (n : Nat) {name expected : String}
    {attributes : List Markup.Attribute} {children : List Element} {named : Unit} (frame : expected ∈ frameTags)
    (meets : expectName ⟨name, attributes, children⟩ expected = .ok named) (others : List Element) :
    expectName ⟨rename n name, attributes, others⟩ expected = .ok named := by
  unfold expectName at meets ⊢
  split_ifs at meets with same
  rw [if_pos ((keeps.frame_iff n frame).mpr same)]

theorem loadChain_renamed (keeps : KeepsTypes r rename) (es : List Element) (n : Nat) {p : Program}
    {result : Option InstructionId × Program} (loads : loadChain r p es = .ok result) :
    loadChain r p (renamedAll rename n es) = .ok result := by
  unfold loadChain at loads ⊢
  obtain ⟨row, inside, loads⟩ := bind_ok_iff.mp loads
  exact bind_ok_iff.mpr ⟨row, loadInstructions_renamed keeps es n inside, loads⟩

theorem loadCustomInstructions_renamed (keeps : KeepsTypes r rename) (es : List Element) (n : Nat) {p q : Program}
    (loads : loadCustomInstructions r p es = .ok q) : loadCustomInstructions r p (renamedAll rename n es) = .ok q := by
  induction es generalizing n p with
  | nil => exact loads
  | cons e rest ih =>
    obtain ⟨name, attributes, children⟩ := e
    unfold loadCustomInstructions at loads
    obtain ⟨named, expected, loads⟩ := bind_ok_iff.mp loads
    obtain ⟨chain, inside, loads⟩ := bind_ok_iff.mp loads
    have expected' := expectName_renamed keeps n (by decide) expected (renamedAll rename (n + 1) children)
    rw [renamedAll, Element.renamed, loadCustomInstructions]
    exact bind_ok_iff.mpr ⟨named, expected', bind_ok_iff.mpr ⟨chain, loadChain_renamed keeps children (n + 1) inside,
      ih _ loads⟩⟩

theorem loadSection_renamed (keeps : KeepsTypes r rename) (e : Element) (n : Nat) {p q : Program}
    (loads : loadSection r p e = .ok q) : loadSection r p (e.renamed rename n) = .ok q := by
  obtain ⟨name, attributes, children⟩ := e
  unfold loadSection at loads ⊢
  have frames : ∀ tag ∈ frameTags, rename n name = tag ↔ name = tag := fun tag frame => keeps.frame_iff n frame
  have thread := frames instructionsTag (by decide)
  have free := frames expressionsTag (by decide)
  have custom := frames customInstructionsTag (by decide)
  have customExpression := frames customExpressionsTag (by decide)
  simp only [Element.renamed, thread, free, custom, customExpression] at loads ⊢
  split_ifs at loads ⊢
  · obtain ⟨chain, inside, loads⟩ := bind_ok_iff.mp loads
    exact bind_ok_iff.mpr ⟨chain, loadChain_renamed keeps children (n + 1) inside, loads⟩
  · obtain ⟨row, inside, loads⟩ := bind_ok_iff.mp loads
    exact bind_ok_iff.mpr ⟨row, loadExpressions_renamed keeps children (n + 1) inside, loads⟩
  · exact loadCustomInstructions_renamed keeps children (n + 1) loads
  · obtain ⟨row, inside, loads⟩ := bind_ok_iff.mp loads
    exact bind_ok_iff.mpr ⟨row, loadExpressions_renamed keeps children (n + 1) inside, loads⟩
  · exact loads

theorem loadSections_renamed (keeps : KeepsTypes r rename) (es : List Element) (n : Nat) {p q : Program}
    (loads : es.foldlM (loadSection r) p = .ok q) : (renamedAll rename n es).foldlM (loadSection r) p = .ok q := by
  induction es generalizing n p with
  | nil => exact loads
  | cons e rest ih =>
    rw [List.foldlM_cons] at loads
    obtain ⟨next, first, loads⟩ := bind_ok_iff.mp loads
    rw [renamedAll, List.foldlM_cons]
    exact bind_ok_iff.mpr ⟨next, loadSection_renamed keeps e n first, ih _ loads⟩

/-- A program is the same under other tags of the same expressions. -/
theorem load_renamed (keeps : KeepsTypes r rename) {root : Element} (n : Nat) {p : Program}
    (loads : load r root = .ok p) : load r (root.renamed rename n) = .ok p := by
  obtain ⟨name, attributes, children⟩ := root
  unfold load at loads ⊢
  obtain ⟨named, expected, loads⟩ := bind_ok_iff.mp loads
  have expected' := expectName_renamed keeps n (by decide) expected (renamedAll rename (n + 1) children)
  exact bind_ok_iff.mpr ⟨named, expected', loadSections_renamed keeps children (n + 1) loads⟩

end Document

/-! ## The tags of craft ids -/

open Registry (full targetTag)
open Document (Occurrences)

/-- The chosen elements get the one tag of craft ids in place of the other. -/
def otherCraftTag (chosen : Nat → Bool) : Renaming := fun n name =>
  if chosen n then Equiv.swap NodeType.craftId.name targetTag name else name

/-- A text in which the two tags of craft ids are exchanged on the chosen elements. Elements are numbered in the order
    in which they begin. -/
def exchangeCraftTags (chosen : Nat → Bool) (text : String) : String := renameTags (otherCraftTag chosen) text

/-- Nothing but the two tags is renamed, each to the other. -/
theorem otherCraftTag_cases (chosen : Nat → Bool) (n : Nat) (name : String) :
    otherCraftTag chosen n name = name ∨
      (name = NodeType.craftId.name ∧ otherCraftTag chosen n name = targetTag) ∨
        name = targetTag ∧ otherCraftTag chosen n name = NodeType.craftId.name := by
  unfold otherCraftTag
  split_ifs
  · by_cases own : name = NodeType.craftId.name
    · subst own
      exact .inr (.inl ⟨rfl, Equiv.swap_apply_left _ _⟩)
    by_cases target : name = targetTag
    · subst target
      exact .inr (.inr ⟨rfl, Equiv.swap_apply_right _ _⟩)
    · exact .inl (Equiv.swap_apply_of_ne_of_ne own target)
  · exact .inl rfl

theorem otherCraftTag_proper (chosen : Nat → Bool) : (otherCraftTag chosen).Proper := by
  intro n name
  rcases otherCraftTag_cases chosen n name with same | ⟨rfl, other⟩ | ⟨rfl, other⟩
  · exact .inl same
  · rw [other]
    exact .inr ⟨by decide, by decide⟩
  · rw [other]
    exact .inr ⟨by decide, by decide⟩

theorem otherCraftTag_keepsTypes (chosen : Nat → Bool) : Document.KeepsTypes full (otherCraftTag chosen) := by
  have own : full.type? NodeType.craftId.name = some .craftId := by decide +kernel
  have target : full.type? targetTag = some .craftId := by decide +kernel
  intro n name
  rcases otherCraftTag_cases chosen n name with same | ⟨rfl, other⟩ | ⟨rfl, other⟩
  · exact .inl same
  · rw [other]
    exact .inr ⟨own.trans target.symm, ⟨_, own, rfl⟩, by decide⟩
  · rw [other]
    exact .inr ⟨target.trans own.symm, ⟨_, target, rfl⟩, by decide⟩

/-- What is written for an element with a tag of craft ids: the kind that it has, or that of the target. -/
def craftHeading? (e : Element) : Option Heading :=
  if e.name = NodeType.craftId.name ∨ e.name = targetTag then
    some (NodeType.craftId.name, [("type", (e.attribute? "type").getD "target")])
  else none

/-- What is written for a node that is a craft id. -/
def craftHeadingOf? (made : Except Document.LoadError Node) : Option Heading :=
  (made.toOption.filter fun node => decide (node.type = .craftId)).map full.heading

theorem craftId_iff {tag : String} :
    full.type? tag = some .craftId ↔ tag = NodeType.craftId.name ∨ tag = targetTag := by
  have only : ∀ tag ∈ full.tags, full.type? tag = some .craftId → tag = NodeType.craftId.name ∨ tag = targetTag := by
    decide +kernel
  constructor
  · exact fun stands => only tag (Registry.mem_tags_iff.mpr ⟨_, stands⟩) stands
  · rintro (rfl | rfl) <;> decide +kernel

theorem savedName_iff (type : NodeType) : full.savedName type = NodeType.craftId.name ↔ type = .craftId := by
  have all : ∀ type ∈ NodeType.all, full.savedName type = NodeType.craftId.name ↔ type = .craftId := by
    decide +kernel
  exact all type type.mem_all

/-- No type is saved under the tag of the target. -/
theorem savedName_ne_targetTag (type : NodeType) : full.savedName type ≠ targetTag := by
  have all : ∀ type ∈ NodeType.all, full.savedName type ≠ targetTag := by
    decide +kernel
  exact all type type.mem_all

theorem craftHeadingOf?_expression (e : Element) :
    craftHeadingOf? ((Document.expressionNode full e).map .expression) = craftHeading? e := by
  unfold craftHeading?
  by_cases craft : e.name = NodeType.craftId.name ∨ e.name = targetTag
  · have made : Document.expressionNode full e = .ok (ExpressionNode.load e (.craftId .unset)) :=
      Document.expressionNode_iff.mpr ⟨.craftId, .craftId .unset, craftId_iff.mpr craft, rfl, rfl⟩
    have setting : (ExpressionNode.load e (.craftId .unset)).setting =
        some ("type", (e.attribute? "type").getD "target") := by
      rw [ExpressionNode.load, ExpressionNode.loadCraftKind, Choice.load, ExpressionNode.setting]
      cases e.attribute? "type" <;> rfl
    rw [if_pos craft, made]
    change some (full.heading (.expression _)) = _
    rw [Registry.heading, Node.setting, setting]
    rfl
  · rw [if_neg craft]
    cases made : Document.expressionNode full e with
    | error fault => rfl
    | ok node =>
      have other : node.type ≠ .craftId := by
        intro same
        exact craft (craftId_iff.mp (same ▸ Document.expressionNode_type made))
      simp [craftHeadingOf?, Except.map, Except.toOption, other]

theorem craftHeadingOf?_instruction (e : Element) :
    craftHeadingOf? ((Document.instructionNode full e).map .instruction) = none := by
  cases made : Document.instructionNode full e with
  | error fault => rfl
  | ok node =>
    have other : node.type ≠ .craftId := by cases node <;> simp [InstructionNode.type]
    simp [craftHeadingOf?, Except.map, Except.toOption, other]

/-- The craft ids that are kept, by their elements. -/
theorem craftHeadings_of_occurrences (o : Occurrences) :
    (o.nodes full).filterMap craftHeadingOf? = ↑((Occurrences.keptIn o.expressions).filterMap craftHeading?) := by
  rw [Occurrences.nodes, Multiset.filterMap_add, Multiset.filterMap_coe, Multiset.filterMap_coe, List.filterMap_map,
    List.filterMap_map]
  have instructions : craftHeadingOf? ∘ (fun e => (Document.instructionNode full e).map Node.instruction) =
      fun _ => none := funext craftHeadingOf?_instruction
  have expressions : craftHeadingOf? ∘ (fun e => (Document.expressionNode full e).map Node.expression) =
      craftHeading? := funext craftHeadingOf?_expression
  rw [instructions, expressions]
  simp

/-- The craft ids that are written, by their nodes. -/
theorem craftHeadings_of_written {nodes : Multiset Node} {written : Multiset Heading}
    (h : Written full nodes written) : written.filter (·.1 = NodeType.craftId.name) =
      (nodes.map Except.ok).filterMap craftHeadingOf? := by
  obtain ⟨frames, rfl, framed⟩ := h
  have no_frame : frames.filter (·.1 = NodeType.craftId.name) = 0 := by
    rw [Multiset.filter_eq_nil]
    intro heading member same
    exact absurd (same ▸ framed heading member) (by decide)
  rw [Multiset.filter_add, no_frame, add_zero]
  rw [← Multiset.filterMap_eq_filter, ← Multiset.filterMap_eq_map, ← Multiset.filterMap_eq_map,
    Multiset.filterMap_filterMap, Multiset.filterMap_filterMap]
  congr 1
  funext node
  have named : (full.heading node).1 = NodeType.craftId.name ↔ node.type = .craftId := savedName_iff node.type
  by_cases craft : node.type = .craftId <;>
    simp [craftHeadingOf?, Except.toOption, Option.guard, named, craft]

/-- Of what is written nothing has the tag of the target. -/
theorem ne_targetTag_of_written {nodes : Multiset Node} {written : Multiset Heading} (h : Written full nodes written) :
    ∀ heading ∈ written, heading.1 ≠ targetTag := by
  obtain ⟨frames, rfl, framed⟩ := h
  intro heading member
  rcases Multiset.mem_add.mp member with saved | frame
  · obtain ⟨node, -, rfl⟩ := Multiset.mem_map.mp saved
    exact savedName_ne_targetTag node.type
  · intro same
    exact absurd (same ▸ framed heading frame) (by decide)

/-! ## Texts with either tag -/

/-- A text that loads with the extension loads as the same program when the two tags of craft ids are exchanged on any
    of its elements: each of them is read with the other name and nothing else has changed. What is written for the
    program has no element with the tag of the target. The elements with the other tag stand for the elements with
    either tag that are kept, one for each, and have their kind of craft, or that of the target where there was
    none. -/
theorem craft_tags_exchanged {text : String} {p : Program} (loads : Document.parse full text = .ok p) :
    (∀ chosen, Document.parse full (exchangeCraftTags chosen text) = .ok p) ∧
    ∃ root saved written, Element.parse text = .ok root ∧
      (∀ chosen, Element.parse (exchangeCraftTags chosen text) = .ok (root.renamed (otherCraftTag chosen) 0)) ∧
      Document.render full p = .ok saved ∧ Element.parse saved = .ok written ∧
      (∀ heading ∈ headings written, heading.1 ≠ targetTag) ∧
      (headings written).filter (·.1 = NodeType.craftId.name) =
        ↑((Occurrences.keptIn (Occurrences.ofProgram root).expressions).filterMap craftHeading?) := by
  obtain ⟨root, parses, loads⟩ := Document.parse_iff.mp loads
  obtain ⟨t, reads, builds⟩ := Document.read_of_load loads
  have exchanged : ∀ chosen,
      Element.parse (exchangeCraftTags chosen text) = .ok (root.renamed (otherCraftTag chosen) 0) :=
    fun chosen => Markup.parse_renameTags (otherCraftTag_proper chosen) parses
  refine ⟨fun chosen => ?_, root, (Document.element full t).toXml, Document.element full t, parses, exchanged, ?_, ?_,
    ?_, ?_⟩
  · exact Document.parse_iff.mpr
      ⟨_, exchanged chosen, Document.load_renamed (otherCraftTag_keepsTypes chosen) 0 loads⟩
  · rw [Document.render, Document.save_shows builds.shows (Document.read_tagged Registry.full_built reads)]
    rfl
  · exact Markup.parse_toXml (Document.element_wellFormed (Document.read_every Registry.full_faithful reads))
  · exact ne_targetTag_of_written (element_written t)
  · rw [craftHeadings_of_written (element_written t), ← Document.read_nodes reads, craftHeadings_of_occurrences]

/-- A text with both tags: under an instruction without a kind, and in a section with one. -/
def bothCraftTags : String :=
  "<Program><Instructions><Log><TargetCraftId/></Log></Instructions><Expressions>" ++
    "<GetCraftId type='active'></GetCraftId ></Expressions></Program>"

/-- The same text with the tags the other way round. -/
def otherCraftTags : String :=
  "<Program><Instructions><Log><GetCraftId/></Log></Instructions><Expressions>" ++
    "<TargetCraftId type='active'></TargetCraftId ></Expressions></Program>"

/-- Both texts load as one program, in which the craft id that had no kind is written as that of the target. -/
theorem craft_tags_exchanged_of_both : ∃ p saved written, Document.parse full bothCraftTags = .ok p ∧
    Document.parse full otherCraftTags = .ok p ∧ Document.render full p = .ok saved ∧
    Element.parse saved = .ok written ∧ (headings written).filter (·.1 = NodeType.craftId.name) =
      {(NodeType.craftId.name, [("type", "target")]), (NodeType.craftId.name, [("type", "active")])} := by
  have exchanged : exchangeCraftTags (fun _ => true) bothCraftTags = otherCraftTags := by decide +kernel
  have checked : ((Element.parse bothCraftTags).toOption.any fun root => (Document.load full root).toOption.isSome &&
      decide ((Occurrences.keptIn (Occurrences.ofProgram root).expressions).filterMap craftHeading? =
        [(NodeType.craftId.name, [("type", "target")]), (NodeType.craftId.name, [("type", "active")])])) = true := by
    decide +kernel
  cases parses : Element.parse bothCraftTags with
  | error fault => simp [parses, Except.toOption] at checked
  | ok root =>
    cases loads : Document.load full root with
    | error fault => simp [parses, loads, Except.toOption] at checked
    | ok p =>
      have kinds : (Occurrences.keptIn (Occurrences.ofProgram root).expressions).filterMap craftHeading? =
          [(NodeType.craftId.name, [("type", "target")]), (NodeType.craftId.name, [("type", "active")])] := by
        simpa [parses, loads, Except.toOption] using checked
      have parsed : Document.parse full bothCraftTags = .ok p := Document.parse_iff.mpr ⟨root, parses, loads⟩
      obtain ⟨same, root', saved, written, parses', -, renders, reads, -, craft⟩ := craft_tags_exchanged parsed
      obtain rfl : root = root' := Except.ok.inj (parses.symm.trans parses')
      refine ⟨p, saved, written, parsed, exchanged ▸ same fun _ => true, renders, reads, ?_⟩
      rw [craft, kinds]
      rfl

end FlightBlocks
