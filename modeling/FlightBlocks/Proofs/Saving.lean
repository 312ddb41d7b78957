import FlightBlocks.Proofs.Settled

/-!
# What is saved

A program that shows a tree is saved as an element that depends on that tree alone (`save_shows`), and
reading this element gives the tree back (`read_element`). Saving takes place in another order than
loading did, bodies move behind the expressions, and nodes that nothing leads to are left out. None of
this changes the tree. What has to be known of the nodes for it is that they were loaded, and that the
numbers among them are written so that they read back.
-/

namespace FlightBlocks

open Markup (Element)

/-! ## The element of a tree -/

namespace Document

mutual

/-- What an expression is saved as. -/
def expressionElement (r : Registry) : ExpressionTree → Element
  | ⟨node, children⟩ => ⟨r.savedName node.type, node.setting.toList, expressionElements r children⟩

def expressionElements (r : Registry) : List ExpressionTree → List Element
  | [] => []
  | tree :: rest => expressionElement r tree :: expressionElements r rest

end

/-- A chain as an element. -/
def chainElement (elements : List Element) : Element := ⟨instructionsTag, [], elements⟩

mutual

/-- What an instruction is saved as. -/
def instructionElement (r : Registry) : InstructionTree → Element
  | ⟨node, expressions, body⟩ =>
    ⟨r.savedName node.type, node.setting.toList, expressionElements r expressions ++
      if body.isEmpty then [] else [chainElement (instructionElements r body)]⟩

def instructionElements (r : Registry) : List InstructionTree → List Element
  | [] => []
  | tree :: rest => instructionElement r tree :: instructionElements r rest

end

def chainElements (r : Registry) (chains : List (List InstructionTree)) : List Element :=
  chains.map fun chain => chainElement (instructionElements r chain)

/-- What a program is saved as. -/
def element (r : Registry) (t : ProgramTree) : Element :=
  ⟨programTag, [("name", t.name)], chainElements r t.threads ++
    [⟨expressionsTag, [], expressionElements r t.expressions⟩,
     ⟨customInstructionsTag, [], chainElements r t.customInstructions⟩,
     ⟨customExpressionsTag, [], expressionElements r t.customExpressions⟩]⟩

/-! ## Saving gives the element of the tree -/

variable {r : Registry} {p : Program}

theorem follow_expression {id : ExpressionId} {slot : ExpressionSlot} (at_id : p.expressions[id]? = some slot) :
    follow (p.expression id) = .ok slot := by
  rw [Program.expression, at_id]
  rfl

theorem follow_instruction {id : InstructionId} {slot : InstructionSlot} (at_id : p.instructions[id]? = some slot) :
    follow (p.instruction id) = .ok slot := by
  rw [Program.instruction, at_id]
  rfl

mutual

theorem saveExpression_holds : ∀ {depth id : Nat} (tree : ExpressionTree), id < depth → p.HoldsExpression id tree →
    tree.Every (LoadedExpression r.HasTag) → saveExpression r p depth id = .ok (expressionElement r tree)
  | 0, _, _, below, _, _ => absurd below (Nat.not_lt_zero _)
  | depth + 1, id, ⟨node, children⟩, below, ⟨ids, at_id, ordered, holds⟩, ⟨settled, every⟩ => by
    have shallow : ∀ child ∈ ids, child < depth := by
      intro child member
      exact Nat.lt_of_lt_of_le (ordered child member) (Nat.lt_succ_iff.mp below)
    obtain ⟨e, tagged, saved⟩ := tagged_expression settled.2
    have inner := saveExpressions_holds children shallow holds every
    simp only [saveExpression, follow_expression at_id, tagged, inner, saved, bind, Except.bind, pure, Except.pure,
      expressionElement]

theorem saveExpressions_holds : ∀ {depth : Nat} {ids : List ExpressionId} (trees : List ExpressionTree),
    (∀ id ∈ ids, id < depth) → p.HoldsExpressions ids trees → EveryExpression (LoadedExpression r.HasTag) trees →
      ids.mapM (saveExpression r p depth) = .ok (expressionElements r trees)
  | _, _, [], _, holds, _ => by
    cases holds
    rfl
  | depth, _, tree :: rest, shallow, ⟨id, others, same, first, more⟩, every => by
    subst same
    rw [List.mapM_cons, saveExpression_holds tree (shallow id (by simp)) first every.1,
      saveExpressions_holds rest (fun other member => shallow other (by simp [member])) more every.2]
    rfl

end

theorem saveRoot_holds {id : ExpressionId} (tree : ExpressionTree) (holds : p.HoldsExpression id tree)
    (every : tree.Every (LoadedExpression r.HasTag)) : saveRoot r p id = .ok (expressionElement r tree) := by
  refine saveExpression_holds tree ?_ holds every
  obtain ⟨node, children⟩ := tree
  obtain ⟨ids, at_id, -⟩ := holds
  exact Nat.lt_succ_of_lt (Array.getElem?_eq_some_iff.mp at_id).1

theorem saveRoots_shown {ids : List ExpressionId} {trees : List ExpressionTree}
    (shown : List.Forall₂ p.HoldsExpression ids trees) (every : EveryExpression (LoadedExpression r.HasTag) trees) :
    ids.mapM (saveRoot r p) = .ok (expressionElements r trees) := by
  induction shown with
  | nil => rfl
  | cons first _ ih =>
    rw [List.mapM_cons, saveRoot_holds _ first every.1, ih every.2]
    rfl

/-- What is written behind the expressions of an instruction. -/
def saveBody (r : Registry) (p : Program) (depth : Nat) (slot : InstructionSlot) : Except SaveError (List Element) :=
  match slot.node.hasBody, slot.body with
  | true, some first => do
    let elements ← saveFrom r p depth first
    pure [chainElement elements]
  | _, _ => pure []

/-- What is written behind an instruction. -/
def saveNext (r : Registry) (p : Program) (depth : Nat) (slot : InstructionSlot) : Except SaveError (List Element) :=
  match slot.next with
  | some next => saveFrom r p depth next
  | none => pure []

theorem saveFrom_succ {depth id : Nat} {slot : InstructionSlot} (at_id : p.instructions[id]? = some slot) :
    saveFrom r p (depth + 1) id = do
      let e ← tagged r slot.node.type
      let expressions ← slot.expressions.mapM (saveRoot r p)
      let body ← saveBody r p depth slot
      let rest ← saveNext r p depth slot
      let e := slot.node.save e
      return { e with children := expressions ++ body } :: rest := by
  rw [saveFrom, show follow (p.instruction id) = pure slot from follow_instruction at_id, pure_bind]
  unfold saveBody saveNext chainElement
  cases slot.node.hasBody <;> cases slot.body <;> cases slot.next <;> simp only [bind_assoc, pure_bind]

theorem saveBody_holds {depth low high : Nat} {slot : InstructionSlot} {body : List InstructionTree}
    (holds : p.HoldsChain low high slot.body body) (bodiless : slot.node.hasBody = false → body = [])
    (nested : ∀ first, slot.body = some first → saveFrom r p depth first = .ok (instructionElements r body)) :
    saveBody r p depth slot = .ok (if body.isEmpty then [] else [chainElement (instructionElements r body)]) := by
  unfold saveBody
  cases body with
  | nil =>
    rw [show slot.body = none from holds]
    cases slot.node.hasBody <;> rfl
  | cons tree rest =>
    obtain ⟨first, _, begins, -⟩ := holds
    have nests : slot.node.hasBody = true := by simpa using bodiless
    rw [begins, nests]
    dsimp only
    rw [nested first begins]
    rfl

theorem saveNext_holds {depth low high : Nat} {slot : InstructionSlot} {rest : List InstructionTree}
    (holds : p.HoldsChain low high slot.next rest)
    (follows : ∀ next, slot.next = some next → saveFrom r p depth next = .ok (instructionElements r rest)) :
    saveNext r p depth slot = .ok (instructionElements r rest) := by
  unfold saveNext
  cases rest with
  | nil =>
    rw [show slot.next = none from holds]
    rfl
  | cons tree others =>
    obtain ⟨next, _, begins, -⟩ := holds
    rw [begins]
    exact follows next begins

/-- A chain is saved with all that its instructions hold. What an instruction holds lies below it and
    what follows it above, so that the positions from `low` to `high` bound how far links lead. -/
theorem saveFrom_holds : ∀ {depth low high id : Nat} (trees : List InstructionTree), high ≤ low + depth →
    p.HoldsChain low high (some id) trees →
    EveryInstruction (LoadedInstruction r.HasTag) (LoadedExpression r.HasTag) trees →
      saveFrom r p depth id = .ok (instructionElements r trees)
  | _, _, _, _, [], _, holds, _ => by cases holds
  | 0, low, high, id, _ :: _, room, ⟨_, _, _, above, below, _⟩, _ => by omega
  | depth + 1, low, high, id, ⟨node, expressions, body⟩ :: rest, room, holds, every => by
    obtain ⟨_, next, same, above, below, ⟨ids, first, at_id, holds, inside⟩, more⟩ := holds
    cases same
    obtain ⟨⟨⟨has_tag, bodiless⟩, every_expression, every_body⟩, every_rest⟩ := every
    obtain ⟨e, tag, saved⟩ := tagged_instruction has_tag
    have values : ids.mapM (saveRoot r p) = .ok (expressionElements r expressions) :=
      saveRoots_shown holds.forall₂ every_expression
    have nested : saveBody r p depth ⟨node, ids, next, first⟩ = .ok _ := saveBody_holds inside bodiless (by
      rintro start rfl
      exact saveFrom_holds body (by omega) inside every_body)
    have follows : saveNext r p depth ⟨node, ids, next, first⟩ = .ok _ := saveNext_holds more (by
      rintro start rfl
      exact saveFrom_holds rest (by omega) more every_rest)
    simp only [saveFrom_succ at_id, tag, values, nested, follows, saved, bind, Except.bind, pure, Except.pure,
      instructionElements, instructionElement]

theorem saveChains_shown {heads : List InstructionId} {chains : List (List InstructionTree)}
    (shown : List.Forall₂ (fun id chain => p.Holds (some id) chain) heads chains)
    (every : ∀ chain ∈ chains, EveryInstruction (LoadedInstruction r.HasTag) (LoadedExpression r.HasTag) chain) :
    heads.mapM (saveChain r p) = .ok (chainElements r chains) := by
  induction shown with
  | nil => rfl
  | cons first _ ih =>
    have saved := saveFrom_holds _ (by omega : _ ≤ 0 + (p.instructions.size + 1)) first (every _ (by simp))
    rw [List.mapM_cons, saveChain, saved, ih fun chain member => every chain (by simp [member])]
    rfl

/-- A program that shows a tree is saved as the element of the tree. -/
theorem save_shows {t : ProgramTree} (shows : p.Shows t)
    (every : t.Every (LoadedInstruction r.HasTag) (LoadedExpression r.HasTag)) :
    save r p = .ok (element r t) := by
  have threads := saveChains_shown shows.threads every.threads
  have expressions := saveRoots_shown shows.expressions every.expressions
  have customInstructions := saveChains_shown shows.customInstructions every.customInstructions
  have customExpressions := saveRoots_shown shows.customExpressions every.customExpressions
  rw [save, threads, expressions, customInstructions, customExpressions, shows.name]
  rfl

/-! ## The element of a tree reads back -/

mutual

theorem readExpression_element : ∀ (tree : ExpressionTree),
    tree.Every (Settled r) → tree.Every ExpressionNode.ReadsBack →
    readExpression r (expressionElement r tree) = .ok tree
  | ⟨node, children⟩, ⟨⟨settled, saves⟩, every⟩, ⟨number, numbers⟩ => by
    rw [expressionElement, readExpression, expressionNode_saved saves settled number,
      readExpressions_elements children every numbers]
    rfl

theorem readExpressions_elements : ∀ (trees : List ExpressionTree), EveryExpression (Settled r) trees →
    EveryExpression ExpressionNode.ReadsBack trees → readExpressions r (expressionElements r trees) = .ok trees
  | [], _, _ => rfl
  | tree :: rest, ⟨first, every⟩, ⟨number, numbers⟩ => by
    rw [expressionElements, readExpressions, readExpression_element tree first number,
      readExpressions_elements rest every numbers]
    rfl

end

/-- The expressions of an instruction are read in front of its body. -/
theorem readHeld_elements (tag : String) (hasBody : Bool) (trees : List ExpressionTree) {held : Held}
    (rest : List Element) (every : EveryExpression (Settled r) trees)
    (numbers : EveryExpression ExpressionNode.ReadsBack trees) :
    readHeld r tag hasBody held (expressionElements r trees ++ rest) =
      readHeld r tag hasBody { held with expressions := held.expressions ++ trees } rest := by
  induction trees generalizing held with
  | nil => rw [expressionElements, List.nil_append, List.append_nil]
  | cons tree others ih =>
    have first := readExpression_element tree every.1 numbers.1
    obtain ⟨node, children⟩ := tree
    rw [expressionElement] at first
    rw [expressionElements, expressionElement, List.cons_append, readHeld, if_neg every.1.1.2.no_chain, first]
    change readHeld r tag hasBody _ _ = _
    rw [ih every.2 numbers.2, List.append_assoc, List.singleton_append]

mutual

theorem readInstruction_element : ∀ (tree : InstructionTree), tree.Every (SettledInstruction r) (Settled r) →
    tree.Every (fun _ => True) ExpressionNode.ReadsBack → readInstruction r (instructionElement r tree) = .ok tree
  | ⟨node, expressions, body⟩, ⟨⟨saves, bodiless⟩, every, every_body⟩, ⟨_, numbers, numbers_body⟩ => by
    have inner := readInstructions_elements body every_body numbers_body
    rw [instructionElement, readInstruction, instructionNode_saved saves]
    change (readHeld r _ node.hasBody ⟨[], []⟩ _ >>= _) = _
    rw [readHeld_elements _ _ _ _ every numbers, List.nil_append]
    cases body with
    | nil => rfl
    | cons first rest =>
      have nests : node.hasBody = true := by simpa using bodiless
      rw [nests]
      simp [chainElement, readHeld, inner]
      rfl

theorem readInstructions_elements : ∀ (trees : List InstructionTree),
    EveryInstruction (SettledInstruction r) (Settled r) trees →
    EveryInstruction (fun _ => True) ExpressionNode.ReadsBack trees →
      readInstructions r (instructionElements r trees) = .ok trees
  | [], _, _ => by
    rw [instructionElements, readInstructions]
  | tree :: rest, ⟨first, every⟩, ⟨number, numbers⟩ => by
    rw [instructionElements, readInstructions, readInstruction_element tree first number,
      readInstructions_elements rest every numbers]
    rfl

end

theorem nonempty_of_ne_nil {chain : List InstructionTree} (some_instruction : chain ≠ []) :
    nonempty chain = [chain] := by
  cases chain with
  | nil => exact absurd rfl some_instruction
  | cons tree rest => rfl

theorem readThreads_elements (chains : List (List InstructionTree)) (t : ProgramTree) (rest : List Element)
    (back : ∀ chain ∈ chains, chain ≠ [] ∧ readInstructions r (instructionElements r chain) = .ok chain) :
    (chainElements r chains ++ rest).foldlM (readSection r) t =
      rest.foldlM (readSection r) { t with threads := t.threads ++ chains } := by
  induction chains generalizing t with
  | nil =>
    rw [List.append_nil]
    rfl
  | cons chain others ih =>
    obtain ⟨⟨begun, read_chain⟩, back⟩ := List.forall_mem_cons.mp back
    have first : readSection r t (chainElement (instructionElements r chain)) =
        .ok { t with threads := t.threads ++ [chain] } := by
      rw [readSection, chainElement, if_pos rfl, read_chain, ← nonempty_of_ne_nil begun]
      rfl
    rw [chainElements, List.map_cons, List.cons_append, List.foldlM_cons, first]
    change (chainElements r others ++ rest).foldlM (readSection r) _ = _
    rw [ih _ back, List.append_assoc, List.singleton_append]

theorem readCustomInstructions_elements (chains : List (List InstructionTree))
    (back : ∀ chain ∈ chains, chain ≠ [] ∧ readInstructions r (instructionElements r chain) = .ok chain) :
    readCustomInstructions r (chainElements r chains) = .ok chains := by
  induction chains with
  | nil => rfl
  | cons chain others ih =>
    obtain ⟨⟨begun, read_chain⟩, back⟩ := List.forall_mem_cons.mp back
    have more := ih back
    rw [chainElements] at more
    rw [chainElements, List.map_cons, readCustomInstructions, chainElement, expectName, if_pos rfl, read_chain, more]
    change Except.ok (nonempty chain ++ others) = _
    rw [nonempty_of_ne_nil begun, List.singleton_append]

/-- Reading the element of a tree gives the tree, provided that its chains all begin. -/
theorem read_element {t : ProgramTree} (begun : ∀ chain ∈ t.threads ++ t.customInstructions, chain ≠ [])
    (every : t.Every (SettledInstruction r) (Settled r)) (numbers : t.Every (fun _ => True) ExpressionNode.ReadsBack) :
    read r (element r t) = .ok t := by
  have expressions := readExpressions_elements t.expressions every.expressions numbers.expressions
  have threads : ∀ chain ∈ t.threads, chain ≠ [] ∧ readInstructions r (instructionElements r chain) = .ok chain :=
    fun chain member => ⟨begun chain (List.mem_append_left _ member),
      readInstructions_elements chain (every.threads chain member) (numbers.threads chain member)⟩
  have customInstructions := readCustomInstructions_elements t.customInstructions fun chain member =>
    ⟨begun chain (List.mem_append_right _ member), readInstructions_elements chain
      (every.customInstructions chain member) (numbers.customInstructions chain member)⟩
  have customExpressions := readExpressions_elements t.customExpressions every.customExpressions
    numbers.customExpressions
  rw [read, element, expectName, if_pos rfl]
  change (chainElements r t.threads ++ _).foldlM (readSection r) { name := t.name } = _
  rw [readThreads_elements t.threads _ _ threads]
  simp [readSection, sectionTags_ne, expressions, customInstructions, customExpressions, bind, Except.bind, pure, Except.pure]

/-! ## The element of a tree can be written -/

mutual

theorem expressionElement_wellFormed : ∀ (tree : ExpressionTree), tree.Every (Settled r) →
    (expressionElement r tree).WellFormed
  | ⟨node, children⟩, ⟨⟨_, saves⟩, every⟩ => by
    refine ⟨saves.is_name, ?_, ?_, expressionElements_wellFormed children every⟩
    · intro a member
      exact node.isName_setting a (Option.mem_toList.mp member)
    · cases node.setting <;> simp

theorem expressionElements_wellFormed : ∀ (trees : List ExpressionTree), EveryExpression (Settled r) trees →
    Markup.AllWellFormed (expressionElements r trees)
  | [], _ => trivial
  | tree :: rest, ⟨first, every⟩ =>
    ⟨expressionElement_wellFormed tree first, expressionElements_wellFormed rest every⟩

end

/-- A section has no attributes. -/
theorem section_wellFormed {name : String} {elements : List Element} (is_name : Markup.IsName name)
    (inside : Markup.AllWellFormed elements) : (Element.mk name [] elements).WellFormed :=
  ⟨is_name, by simp, by simp, inside⟩

mutual

theorem instructionElement_wellFormed : ∀ (tree : InstructionTree),
    tree.Every (SettledInstruction r) (Settled r) → (instructionElement r tree).WellFormed
  | ⟨node, expressions, body⟩, ⟨⟨saves, _⟩, every, every_body⟩ => by
    have inner := instructionElements_wellFormed body every_body
    refine ⟨saves.is_name, ?_, ?_, (expressionElements_wellFormed expressions every).append ?_⟩
    · intro a member
      exact node.isName_setting a (Option.mem_toList.mp member)
    · cases node.setting <;> simp
    · split
      · trivial
      · exact ⟨section_wellFormed (by decide) inner, trivial⟩

theorem instructionElements_wellFormed : ∀ (trees : List InstructionTree),
    EveryInstruction (SettledInstruction r) (Settled r) trees → Markup.AllWellFormed (instructionElements r trees)
  | [], _ => by
    rw [instructionElements]
    trivial
  | tree :: rest, ⟨first, every⟩ => by
    rw [instructionElements]
    exact ⟨instructionElement_wellFormed tree first, instructionElements_wellFormed rest every⟩

end

theorem chainElements_wellFormed (chains : List (List InstructionTree))
    (every : ∀ chain ∈ chains, EveryInstruction (SettledInstruction r) (Settled r) chain) :
    Markup.AllWellFormed (chainElements r chains) := by
  induction chains with
  | nil => trivial
  | cons chain others ih =>
    obtain ⟨first, every⟩ := List.forall_mem_cons.mp every
    exact ⟨section_wellFormed (by decide) (instructionElements_wellFormed chain first), ih every⟩

theorem element_wellFormed {t : ProgramTree} (every : t.Every (SettledInstruction r) (Settled r)) :
    (element r t).WellFormed := by
  have named : Markup.IsName "name" := by decide
  refine ⟨by decide, by simp [named], by simp, (chainElements_wellFormed t.threads every.threads).append ?_⟩
  exact ⟨section_wellFormed (by decide) (expressionElements_wellFormed _ every.expressions),
    section_wellFormed (by decide) (chainElements_wellFormed _ every.customInstructions),
    section_wellFormed (by decide) (expressionElements_wellFormed _ every.customExpressions), trivial⟩

end Document

/-! ## Saving and loading again -/

/-- Every number in a program is the one that its text writes. -/
def Program.NumbersReadBack (p : Program) : Prop := ∀ slot ∈ p.expressions, slot.node.ReadsBack

instance (p : Program) : Decidable p.NumbersReadBack :=
  inferInstanceAs (Decidable (∀ slot ∈ p.expressions, slot.node.ReadsBack))

namespace Document

variable {r : Registry} {p : Program}

/-- What is known of the tree of a program that was loaded and whose numbers read back. -/
structure Saveable (r : Registry) (t : ProgramTree) : Prop where
  begun : ∀ chain ∈ t.threads ++ t.customInstructions, chain ≠ []
  every : t.Every (SettledInstruction r) (Settled r)
  numbers : t.Every (fun _ => True) ExpressionNode.ReadsBack

theorem saveable_of_load (faithful : r.Faithful) {root : Element} (loads : load r root = .ok p)
    (numbers : p.NumbersReadBack) : ∃ t, p.Shows t ∧ Saveable r t := by
  obtain ⟨t, reads, builds⟩ := read_of_load loads
  have shows := builds.shows
  have threads := Program.shown_chains_every numbers shows.threads
  have customInstructions := Program.shown_chains_every numbers shows.customInstructions
  refine ⟨t, shows, ?_, read_every faithful reads, ?_⟩
  · intro chain member
    rcases List.mem_append.mp member with thread | custom
    · exact (threads chain thread).1
    · exact (customInstructions chain custom).1
  · exact ⟨fun chain member => (threads chain member).2, Program.shown_expressions_every numbers shows.expressions,
      fun chain member => (customInstructions chain member).2,
      Program.shown_expressions_every numbers shows.customExpressions⟩

theorem saveable_of_parse (faithful : r.Faithful) {text : String} (loads : parse r text = .ok p)
    (numbers : p.NumbersReadBack) : ∃ t, p.Shows t ∧ Saveable r t := by
  unfold parse at loads
  split at loads
  case h_1 root _ => exact saveable_of_load faithful loads numbers
  case h_2 => cases loads

namespace Saveable

variable {t : ProgramTree} (h : Saveable r t)

include h

/-- Whatever shows the tree is saved as the same text. -/
theorem render (shows : p.Shows t) : render r p = .ok (element r t).toXml := by
  have tagged : t.Every (LoadedInstruction r.HasTag) (LoadedExpression r.HasTag) :=
    .imp (fun _ loaded => ⟨loaded.1.tagged, loaded.2⟩) (fun _ loaded => ⟨loaded.1, loaded.2.tagged⟩) h.every
  rw [Document.render, save_shows shows tagged]
  rfl

/-- The text loads as a program that shows the tree. -/
theorem parse : ∃ q, parse r (element r t).toXml = .ok q ∧ q.Shows t := by
  have same := load_builds r (element r t)
  rw [read_element h.begun h.every h.numbers] at same
  obtain ⟨q, loads, builds⟩ := same
  refine ⟨q, ?_, builds.shows⟩
  rw [Document.parse, Markup.parse_toXml (element_wellFormed h.every)]
  exact loads

end Saveable

/-- A program that was loaded is saved as a text, and the program that this text loads as shows the
    same tree. -/
theorem parse_render (faithful : r.Faithful) {text : String} (loads : parse r text = .ok p)
    (numbers : p.NumbersReadBack) :
    ∃ t saved p', p.Shows t ∧ render r p = .ok saved ∧ parse r saved = .ok p' ∧ p'.Shows t := by
  obtain ⟨t, shows, saveable⟩ := saveable_of_parse faithful loads numbers
  obtain ⟨q, parses, shows'⟩ := saveable.parse
  exact ⟨t, _, q, shows, saveable.render shows, parses, shows'⟩

end Document

end FlightBlocks
