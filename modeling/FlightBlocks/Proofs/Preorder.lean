import FlightBlocks.Proofs.Acyclic
import FlightBlocks.Proofs.StackSearch

/-!
# The order of a search

Where links do not run in a circle, the nodes below a position can be listed: each before those below it, and these
in the order of the links (`Program.preorder`). An instruction comes before its expressions, they come before its
body if it counts, and the body before what follows. What several links lead to is listed several times.

A search for the extension gives the first of its nodes in this list (`finds_first_in_preorder`), whether it calls
itself or keeps stacks.
-/

namespace FlightBlocks

/-! ## Lists -/

theorem findSome?_flatMap {α β γ : Type} (parts : α → List β) (f : β → Option γ) (xs : List α) :
    (xs.flatMap parts).findSome? f = xs.findSome? fun x => (parts x).findSome? f := by
  induction xs with
  | nil => rfl
  | cons x rest ih =>
    rw [List.flatMap_cons, List.findSome?_append, List.findSome?_cons, ih]
    cases (parts x).findSome? f <;> rfl

/-- A search that ends at each entry of a list gives what the first of them with a result gives. -/
theorem findSomeM?_eq_findSome? {α β ε : Type} {f : α → Except ε (Option β)} {g : α → Option β} {xs : List α}
    (each : ∀ x ∈ xs, f x = .ok (g x)) : xs.findSomeM? f = .ok (xs.findSome? g) := by
  induction xs with
  | nil => rfl
  | cons x rest ih =>
    obtain ⟨first, others⟩ := List.forall_mem_cons.mp each
    rw [List.findSomeM?, first, List.findSome?_cons, ih others]
    cases g x <;> rfl

namespace Program

variable {p : Program}

/-! ## The nodes below a position -/

/-- The use of the extension at a position, if its node is one of the extension. -/
def useAt? (p : Program) : Position → Option ExtensionUse
  | .expression id => p.expressions[id]?.bind fun slot =>
    if slot.node.type.IsHost then none else some (.expression id)
  | .instruction id => p.instructions[id]?.bind fun slot =>
    if slot.node.type.IsHost then none else some (.instruction id)

/-- The positions right below a position, in order: children, or else expressions, the body if it counts, and what
    follows. -/
def below (p : Program) : Position → List Position
  | .expression id => p.expressions[id]?.elim [] fun slot => slot.children.map .expression
  | .instruction id => p.instructions[id]?.elim [] fun slot =>
    slot.expressions.map .expression ++ (followed slot).map .instruction

theorem below_expression {id : ExpressionId} {slot : ExpressionSlot} (at_id : p.expressions[id]? = some slot) :
    p.below (.expression id) = slot.children.map .expression := by
  rw [below, at_id, Option.elim_some]

theorem below_instruction {id : InstructionId} {slot : InstructionSlot} (at_id : p.instructions[id]? = some slot) :
    p.below (.instruction id) = slot.expressions.map .expression ++ (followed slot).map .instruction := by
  rw [below, at_id, Option.elim_some]

theorem link_of_mem_followed {id next : InstructionId} {slot : InstructionSlot}
    (at_id : p.instructions[id]? = some slot) (member : next ∈ followed slot) :
    p.Link (.instruction id) (.instruction next) := by
  rcases List.mem_append.mp member with first | follows
  · by_cases nests : slot.node.hasBody
    · rw [if_pos nests, Option.mem_toList] at first
      exact .body at_id first
    · rw [if_neg nests] at first
      cases first
  · exact .next at_id (Option.mem_toList.mp follows)

theorem link_of_mem_below {x y : Position} (member : y ∈ p.below x) : p.Link x y := by
  cases x with
  | expression id =>
    cases at_id : p.expressions[id]? with
    | none => simp [below, at_id] at member
    | some slot =>
      rw [below_expression at_id] at member
      obtain ⟨child, child_member, rfl⟩ := List.mem_map.mp member
      exact .child at_id child_member
  | instruction id =>
    cases at_id : p.instructions[id]? with
    | none => simp [below, at_id] at member
    | some slot =>
      rw [below_instruction at_id] at member
      rcases List.mem_append.mp member with argument | onward
      · obtain ⟨e, e_member, rfl⟩ := List.mem_map.mp argument
        exact .argument at_id e_member
      · obtain ⟨next, next_member, rfl⟩ := List.mem_map.mp onward
        exact link_of_mem_followed at_id next_member

/-- Every way along links ends. -/
def Ends (p : Program) : Prop := WellFounded fun y x => p.Link x y

theorem Acyclic.ends (acyclic : p.Acyclic) (in_range : p.InRange) : p.Ends := by
  obtain ⟨expression_rank, bounded, expressions_fall⟩ := acyclic.expression_rank in_range
  obtain ⟨instruction_rank, -, instructions_fall⟩ := acyclic.instruction_rank in_range
  -- No link leads from an expression to an instruction, so all instructions rank above all expressions.
  let rank : Position → Nat
    | .expression id => expression_rank id
    | .instruction id => p.expressions.size + 1 + instruction_rank id
  have falls : ∀ {y x}, p.Link x y → rank y < rank x := by
    intro y x link
    cases link with
    | child at_id member => exact expressions_fall _ _ (.child at_id member)
    | @argument id argument slot at_id member =>
      have low := bounded argument
      simp only [rank]
      omega
    | next at_id follows => exact Nat.add_lt_add_left (instructions_fall _ _ (.next at_id follows)) _
    | body at_id begins => exact Nat.add_lt_add_left (instructions_fall _ _ (.body at_id begins)) _
  exact Subrelation.wf falls (InvImage.wf rank Nat.lt_wfRel.wf)

/-- The positions that are met from a position on, each before those below it. -/
noncomputable def preorder (p : Program) (ends : p.Ends) : Position → List Position :=
  ends.fix fun x from_below => x :: (p.below x).attach.flatMap fun y => from_below y.1 (link_of_mem_below y.2)

theorem preorder_eq (ends : p.Ends) (x : Position) :
    p.preorder ends x = x :: (p.below x).flatMap (p.preorder ends) := by
  have unfolded := ends.fix_eq (fun x from_below => x :: (p.below x).attach.flatMap fun y =>
    from_below y.1 (link_of_mem_below y.2)) x
  calc p.preorder ends x
    _ = x :: (p.below x).attach.flatMap fun y => p.preorder ends y.1 := unfolded
    _ = x :: (p.below x).flatMap (p.preorder ends) := by
      rw [List.flatMap_subtype (g := p.preorder ends) fun _ _ => rfl, List.unattach_attach]

/-- The first use of the extension from a position on. -/
noncomputable def firstUse? (p : Program) (ends : p.Ends) (x : Position) : Option ExtensionUse :=
  (p.preorder ends x).findSome? p.useAt?

theorem firstUse?_of_use {ends : p.Ends} {x : Position} {use : ExtensionUse} (here : p.useAt? x = some use) :
    p.firstUse? ends x = some use := by
  rw [firstUse?, preorder_eq, List.findSome?_cons, here]

theorem firstUse?_of_none {ends : p.Ends} {x : Position} (nothing : p.useAt? x = none) :
    p.firstUse? ends x = (p.below x).findSome? (p.firstUse? ends) := by
  rw [firstUse?, preorder_eq, List.findSome?_cons, nothing, findSome?_flatMap]
  rfl

/-! ## Searches that call themselves -/

section Recursive

variable (ends : p.Ends) (in_range : p.InRange)

include in_range

theorem findInExpression_eq {rank : ExpressionId → Nat}
    (falls : ∀ a b, p.Link (.expression a) (.expression b) → rank b < rank a) {depth : Nat} {id : ExpressionId}
    (inside : id < p.expressions.size) (room : rank id < depth) :
    p.findInExpression depth id = .ok (p.firstUse? ends (.expression id)) := by
  induction depth generalizing id with
  | zero => exact absurd room (Nat.not_lt_zero _)
  | succ depth ih =>
    obtain ⟨slot, at_id⟩ : ∃ slot, p.expressions[id]? = some slot := ⟨_, Array.getElem?_eq_getElem inside⟩
    by_cases host : slot.node.type.IsHost
    · have nothing : p.useAt? (.expression id) = none := by simp [useAt?, at_id, host]
      rw [findInExpression_host at_id host, firstUse?_of_none nothing, below_expression at_id, List.findSome?_map]
      refine findSomeM?_eq_findSome? fun child member => ?_
      have link : p.Link (.expression id) (.expression child) := .child at_id member
      exact ih (in_range.links _ _ link) (Nat.lt_of_lt_of_le (falls _ _ link) (Nat.lt_succ_iff.mp room))
    · have here : p.useAt? (.expression id) = some (.expression id) := by simp [useAt?, at_id, host]
      rw [findInExpression_extension at_id host, firstUse?_of_use here]

theorem findInExpressions_eq (acyclic : p.Acyclic) (ids : List ExpressionId)
    (inside : ∀ id ∈ ids, id < p.expressions.size) :
    p.findInExpressions ids = .ok ((ids.map .expression).findSome? (p.firstUse? ends)) := by
  obtain ⟨rank, bounded, falls⟩ := acyclic.expression_rank in_range
  rw [List.findSome?_map]
  refine findSomeM?_eq_findSome? fun id member => ?_
  exact findInExpression_eq ends in_range falls (inside id member) (Nat.lt_succ_of_le (bounded id))

theorem findInInstruction_eq (acyclic : p.Acyclic) {rank : InstructionId → Nat}
    (falls : ∀ a b, p.Link (.instruction a) (.instruction b) → rank b < rank a) {depth : Nat} {id : InstructionId}
    (inside : id < p.instructions.size) (room : rank id < depth) :
    p.findInInstruction depth id = .ok (p.firstUse? ends (.instruction id)) := by
  induction depth generalizing id with
  | zero => exact absurd room (Nat.not_lt_zero _)
  | succ depth ih =>
    obtain ⟨slot, at_id⟩ : ∃ slot, p.instructions[id]? = some slot := ⟨_, Array.getElem?_eq_getElem inside⟩
    by_cases host : slot.node.type.IsHost
    · have nothing : p.useAt? (.instruction id) = none := by simp [useAt?, at_id, host]
      have arguments := findInExpressions_eq ends in_range acyclic slot.expressions
        fun e member => in_range.links _ _ (.argument at_id member)
      have onward : (followed slot).findSomeM? (p.findInInstruction depth) =
          .ok (((followed slot).map .instruction).findSome? (p.firstUse? ends)) := by
        rw [List.findSome?_map]
        refine findSomeM?_eq_findSome? fun next member => ?_
        have link := link_of_mem_followed at_id member
        exact ih (in_range.links _ _ link) (Nat.lt_of_lt_of_le (falls _ _ link) (Nat.lt_succ_iff.mp room))
      rw [findInInstruction_host at_id host, arguments, firstUse?_of_none nothing, below_instruction at_id,
        List.findSome?_append]
      cases (slot.expressions.map Position.expression).findSome? (p.firstUse? ends) with
      | some found => rfl
      | none => exact onward
    · have here : p.useAt? (.instruction id) = some (.instruction id) := by simp [useAt?, at_id, host]
      rw [findInInstruction_extension at_id host, firstUse?_of_use here]

theorem findInInstructions_eq (acyclic : p.Acyclic) (ids : List InstructionId)
    (inside : ∀ id ∈ ids, id < p.instructions.size) :
    p.findInInstructions ids = .ok ((ids.map .instruction).findSome? (p.firstUse? ends)) := by
  obtain ⟨rank, bounded, falls⟩ := acyclic.instruction_rank in_range
  rw [List.findSome?_map]
  refine findSomeM?_eq_findSome? fun id member => ?_
  exact findInInstruction_eq ends in_range acyclic falls (inside id member) (Nat.lt_succ_of_le (bounded id))

end Recursive

/-! ## Programs -/

/-- Where a search begins, in this order. -/
def searchHeads (threads : List InstructionId) (expressions customExpressions : List ExpressionId)
    (customInstructions : List InstructionId) : List Position :=
  threads.map .instruction ++ (expressions.map .expression ++ (customExpressions.map .expression ++
    customInstructions.map .instruction))

theorem findExtensionFrom_eq (ends : p.Ends) (in_range : p.InRange) (acyclic : p.Acyclic)
    {threads customInstructions : List InstructionId} {expressions customExpressions : List ExpressionId}
    (inside : ∀ x ∈ searchHeads threads expressions customExpressions customInstructions, p.HasPosition x) :
    p.findExtensionFrom threads expressions customExpressions customInstructions =
      .ok ((searchHeads threads expressions customExpressions customInstructions).findSome? (p.firstUse? ends)) := by
  have in_threads := findInInstructions_eq ends in_range acyclic threads
    fun id member => inside (.instruction id) (by simp [searchHeads, member])
  have in_expressions := findInExpressions_eq ends in_range acyclic expressions
    fun id member => inside (.expression id) (by simp [searchHeads, member])
  have in_custom := findInExpressions_eq ends in_range acyclic customExpressions
    fun id member => inside (.expression id) (by simp [searchHeads, member])
  have in_bodies := findInInstructions_eq ends in_range acyclic customInstructions
    fun id member => inside (.instruction id) (by simp [searchHeads, member])
  rw [searchHeads, List.findSome?_append, List.findSome?_append, List.findSome?_append, findExtensionFrom, in_threads,
    in_expressions, in_custom, in_bodies]
  cases (threads.map Position.instruction).findSome? (p.firstUse? ends) with
  | some use => rfl
  | none =>
    cases (expressions.map Position.expression).findSome? (p.firstUse? ends) with
    | some use => rfl
    | none => cases (customExpressions.map Position.expression).findSome? (p.firstUse? ends) <;> rfl

/-- The positions met in a search, each as often as links lead to it. -/
noncomputable def enumeration (p : Program) (ends : p.Ends) (heads : List Position) : List Position :=
  heads.flatMap (p.preorder ends)

theorem findSome?_enumeration {ends : p.Ends} {heads : List Position} :
    (p.enumeration ends heads).findSome? p.useAt? = heads.findSome? (p.firstUse? ends) :=
  findSome?_flatMap _ _ heads

end Program

/-- Where all links stay in the tables and none of them runs in a circle, a search finds the first node of the
    extension in preorder, whether it calls itself or keeps stacks: first below the threads, then below free
    expressions, custom expressions and custom instructions. Below roots of any kind it finds something just when
    one of the positions below them has a node of the extension. -/
theorem finds_first_in_preorder (p : Program) (in_range : p.InRange) (acyclic : p.Acyclic) :
    (∃ found, found = (p.enumeration (acyclic.ends in_range) (Program.searchHeads p.rootInstructions p.rootExpressions
          p.customExpressions p.customInstructions)).findSome? p.useAt? ∧
      p.findExtension = .ok found ∧ p.scanExtension = pure found) ∧
    ∀ threads expressions customExpressions customInstructions,
      (∀ x ∈ Program.searchHeads threads expressions customExpressions customInstructions, p.HasPosition x) →
      ∃ uses, (p.findExtensionFrom threads expressions customExpressions customInstructions).map Option.isSome =
          .ok uses ∧
        p.scanUsage threads expressions customExpressions customInstructions = pure uses ∧
        (uses = true ↔ ∃ x ∈ p.enumeration (acyclic.ends in_range)
          (Program.searchHeads threads expressions customExpressions customInstructions), (p.useAt? x).isSome) := by
  have ends := acyclic.ends in_range
  constructor
  · have own : ∀ x ∈ Program.searchHeads p.rootInstructions p.rootExpressions p.customExpressions p.customInstructions,
        p.HasPosition x := by
      intro x member
      refine in_range.roots x ?_
      simp only [Program.searchHeads, Program.roots, List.mem_append] at member ⊢
      tauto
    have finds := Program.findExtensionFrom_eq ends in_range acyclic own
    exact ⟨_, Program.findSome?_enumeration.symm, finds, Program.scanExtension_eq_pure_iff.mpr finds⟩
  · intro threads expressions customExpressions customInstructions inside
    have finds := Program.findExtensionFrom_eq ends in_range acyclic inside
    refine ⟨_, by rw [finds]; rfl, Program.scanUsage_eq_pure_iff.mpr (by rw [finds]; rfl), ?_⟩
    rw [← Program.findSome?_enumeration, List.findSome?_isSome_iff]

/-- Both sides of the condition are one craft id, and all that the branch holds is listed again below the log that
    follows it. The search meets the craft id as the first expression of the condition. -/
theorem finds_first_in_preorder_of_sharing :
    ∃ ends, (sharing (.craftId ⟨none⟩)).preorder ends (.instruction 2) = [.instruction 2, .expression 1,
      .expression 0, .expression 0, .instruction 1, .expression 0, .instruction 1, .expression 0] ∧
    (sharing (.craftId ⟨none⟩)).findExtension = .ok (some (.expression 0)) ∧
    (sharing (.craftId ⟨none⟩)).scanExtension = pure (some (.expression 0)) ∧
    (sharing (.craftId ⟨none⟩)).scanUsage [1] [] [] [] = pure true := by
  have backward : (sharing (.craftId ⟨none⟩)).Backward := backward_sharing (.inl rfl)
  obtain ⟨⟨found, found_eq, finds, scans⟩, anywhere⟩ := finds_first_in_preorder _ backward.inRange backward.acyclic
  have ends := backward.acyclic.ends backward.inRange
  obtain rfl : some (.expression 0) = found := Except.ok.inj ((show _ = _ from rfl).symm.trans finds)
  obtain ⟨uses, searched, scanned, -⟩ := anywhere [1] [] [] []
    (by simp [Program.searchHeads, Program.HasPosition, sharing])
  obtain rfl : true = uses := Except.ok.inj ((show _ = _ from rfl).symm.trans searched)
  refine ⟨ends, ?_, finds, scans, scanned⟩
  have below_condition : (sharing (.craftId ⟨none⟩)).below (.expression 1) = [.expression 0, .expression 0] := rfl
  have below_log : (sharing (.craftId ⟨none⟩)).below (.instruction 1) = [.expression 0] := rfl
  have below_branch : (sharing (.craftId ⟨none⟩)).below (.instruction 2) =
    [.expression 1, .instruction 1, .instruction 1] := rfl
  have craft_id : (sharing (.craftId ⟨none⟩)).preorder ends (.expression 0) = [.expression 0] := by
    rw [Program.preorder_eq]
    rfl
  have condition : (sharing (.craftId ⟨none⟩)).preorder ends (.expression 1) =
      [.expression 1, .expression 0, .expression 0] := by
    simp [Program.preorder_eq ends (.expression 1), below_condition, craft_id]
  have log : (sharing (.craftId ⟨none⟩)).preorder ends (.instruction 1) = [.instruction 1, .expression 0] := by
    simp [Program.preorder_eq ends (.instruction 1), below_log, craft_id]
  simp [Program.preorder_eq ends (.instruction 2), below_branch, condition, log]

end FlightBlocks
