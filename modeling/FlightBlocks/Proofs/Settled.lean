import FlightBlocks.Proofs.Loading
import FlightBlocks.Proofs.NodeRoundTrip

/-!
# What is known of loaded nodes

Every node of a tree that was read was made from an element, so that it can be saved again
(`Document.read_every`). What holds of all expression nodes in the table of a program holds of the
trees that the program shows (`Program.shown_expressions_every`, `Program.shown_chains_every`).
-/

namespace FlightBlocks

open Markup (Element)

/-! ## Trees of good nodes -/

mutual

/-- Every node of an expression is good. -/
def ExpressionTree.Every (good : ExpressionNode → Prop) : ExpressionTree → Prop
  | ⟨node, children⟩ => good node ∧ EveryExpression good children

def EveryExpression (good : ExpressionNode → Prop) : List ExpressionTree → Prop
  | [] => True
  | tree :: rest => tree.Every good ∧ EveryExpression good rest

end

mutual

/-- Every instruction in a tree is good, and so is every expression node. -/
def InstructionTree.Every (good : InstructionTree → Prop) (good_node : ExpressionNode → Prop) :
    InstructionTree → Prop
  | ⟨node, expressions, body⟩ => good ⟨node, expressions, body⟩ ∧ EveryExpression good_node expressions ∧
      EveryInstruction good good_node body

def EveryInstruction (good : InstructionTree → Prop) (good_node : ExpressionNode → Prop) :
    List InstructionTree → Prop
  | [] => True
  | tree :: rest => tree.Every good good_node ∧ EveryInstruction good good_node rest

end

structure ProgramTree.Every (good : InstructionTree → Prop) (good_node : ExpressionNode → Prop) (t : ProgramTree) :
    Prop where
  threads : ∀ chain ∈ t.threads, EveryInstruction good good_node chain
  expressions : EveryExpression good_node t.expressions
  customInstructions : ∀ chain ∈ t.customInstructions, EveryInstruction good good_node chain
  customExpressions : EveryExpression good_node t.customExpressions

theorem EveryExpression.append {good : ExpressionNode → Prop} {trees more : List ExpressionTree}
    (first : EveryExpression good trees) (second : EveryExpression good more) :
    EveryExpression good (trees ++ more) := by
  induction trees with
  | nil => exact second
  | cons tree rest ih => exact ⟨first.1, ih first.2⟩

section Weaker

variable {good better : ExpressionNode → Prop} {good_tree better_tree : InstructionTree → Prop}

mutual

theorem ExpressionTree.Every.imp (weaker : ∀ node, good node → better node) :
    ∀ (tree : ExpressionTree), tree.Every good → tree.Every better
  | ⟨node, children⟩, ⟨first, more⟩ => ⟨weaker node first, EveryExpression.imp weaker children more⟩

theorem EveryExpression.imp (weaker : ∀ node, good node → better node) :
    ∀ (trees : List ExpressionTree), EveryExpression good trees → EveryExpression better trees
  | [], _ => trivial
  | tree :: rest, ⟨first, more⟩ => ⟨ExpressionTree.Every.imp weaker tree first, EveryExpression.imp weaker rest more⟩

end

mutual

theorem InstructionTree.Every.imp (weaker_tree : ∀ tree, good_tree tree → better_tree tree)
    (weaker : ∀ node, good node → better node) :
    ∀ (tree : InstructionTree), tree.Every good_tree good → tree.Every better_tree better
  | ⟨_, expressions, body⟩, ⟨first, inside, nested⟩ =>
    ⟨weaker_tree _ first, EveryExpression.imp weaker expressions inside,
      EveryInstruction.imp weaker_tree weaker body nested⟩

theorem EveryInstruction.imp (weaker_tree : ∀ tree, good_tree tree → better_tree tree)
    (weaker : ∀ node, good node → better node) :
    ∀ (trees : List InstructionTree), EveryInstruction good_tree good trees →
      EveryInstruction better_tree better trees
  | [], _ => trivial
  | tree :: rest, ⟨first, more⟩ =>
    ⟨InstructionTree.Every.imp weaker_tree weaker tree first, EveryInstruction.imp weaker_tree weaker rest more⟩

end

theorem ProgramTree.Every.imp {t : ProgramTree} (weaker_tree : ∀ tree, good_tree tree → better_tree tree)
    (weaker : ∀ node, good node → better node) (h : t.Every good_tree good) : t.Every better_tree better where
  threads chain member := EveryInstruction.imp weaker_tree weaker chain (h.threads chain member)
  expressions := EveryExpression.imp weaker t.expressions h.expressions
  customInstructions chain member := EveryInstruction.imp weaker_tree weaker chain (h.customInstructions chain member)
  customExpressions := EveryExpression.imp weaker t.customExpressions h.customExpressions

end Weaker

/-! ## What is loaded is good -/

namespace Document

theorem bind_ok_iff {ε α β : Type} {m : Except ε α} {f : α → Except ε β} {b : β} :
    m >>= f = .ok b ↔ ∃ a, m = .ok a ∧ f a = .ok b := by
  constructor
  · intro succeeds
    cases m with
    | error e => cases succeeds
    | ok a => exact ⟨a, rfl, succeeds⟩
  · rintro ⟨a, rfl, succeeds⟩
    exact succeeds

theorem map_ok_iff {ε α β : Type} {m : Except ε α} {f : α → β} {b : β} :
    m.map f = .ok b ↔ ∃ a, m = .ok a ∧ f a = b := by
  cases m <;> simp [Except.map]

/-- A list is made entry by entry. -/
theorem mapM_ok_iff {ε α β : Type} {f : α → Except ε β} {xs : List α} {ys : List β} :
    xs.mapM f = .ok ys ↔ List.Forall₂ (fun x y => f x = .ok y) xs ys := by
  induction xs generalizing ys with
  | nil =>
    rw [List.forall₂_nil_left_iff]
    exact ⟨fun made => (Except.ok.inj made).symm, fun none => none ▸ rfl⟩
  | cons x rest ih =>
    rw [List.mapM_cons, bind_ok_iff, List.forall₂_cons_left_iff]
    constructor
    · rintro ⟨y, first, made⟩
      obtain ⟨others, more, made⟩ := bind_ok_iff.mp made
      exact ⟨y, others, first, ih.mp more, (Except.ok.inj made).symm⟩
    · rintro ⟨y, others, first, more, rfl⟩
      exact ⟨y, first, bind_ok_iff.mpr ⟨others, ih.mpr more, rfl⟩⟩

/-- What every step of a fold keeps, of what is left of the list and of the result so far. -/
theorem foldlM_invariant {ε α β : Type} {step : β → α → Except ε β} (good : List α → β → Prop)
    (keeps : ∀ {a rest b c}, good (a :: rest) b → step b a = .ok c → good rest c) {as : List α} {b c : β}
    (begins : good as b) (folds : as.foldlM step b = .ok c) : good [] c := by
  induction as generalizing b with
  | nil =>
    cases folds
    exact begins
  | cons a rest ih =>
    rw [List.foldlM_cons] at folds
    obtain ⟨next, first, folds⟩ := bind_ok_iff.mp folds
    exact ih (keeps begins first) folds

/-- A node that was loaded, of a good type. -/
def LoadedExpression (good : NodeType → Prop) (node : ExpressionNode) : Prop := node.Settled ∧ good node.type

/-- An instruction that was loaded, of a good type: only where a body may be nested there is one. -/
def LoadedInstruction (good : NodeType → Prop) (tree : InstructionTree) : Prop :=
  good tree.node.type ∧ (tree.node.hasBody = false → tree.body = [])

/-- A node that was loaded, of a type that can be saved. -/
def Settled (r : Registry) : ExpressionNode → Prop := LoadedExpression r.Saves

/-- An instruction that was loaded, of a type that can be saved. -/
def SettledInstruction (r : Registry) : InstructionTree → Prop := LoadedInstruction r.Saves

variable {r : Registry} {good : NodeType → Prop}

mutual

theorem readExpression_every (known : r.Every good) : ∀ (e : Element) {tree : ExpressionTree},
    readExpression r e = .ok tree → tree.Every (LoadedExpression good)
  | ⟨tag, attributes, children⟩, tree, reads => by
    unfold readExpression at reads
    obtain ⟨node, made, reads⟩ := bind_ok_iff.mp reads
    obtain ⟨trees, below, reads⟩ := bind_ok_iff.mp reads
    cases reads
    exact ⟨expressionNode_settled known made, readExpressions_every known children below⟩

theorem readExpressions_every (known : r.Every good) : ∀ (es : List Element) {trees : List ExpressionTree},
    readExpressions r es = .ok trees → EveryExpression (LoadedExpression good) trees
  | [], _, reads => by
    cases reads
    trivial
  | e :: rest, trees, reads => by
    unfold readExpressions at reads
    obtain ⟨tree, first, reads⟩ := bind_ok_iff.mp reads
    obtain ⟨others, more, reads⟩ := bind_ok_iff.mp reads
    cases reads
    exact ⟨readExpression_every known e first, readExpressions_every known rest more⟩

end

mutual

theorem readInstruction_every (known : r.Every good) : ∀ (e : Element) {tree : InstructionTree},
    readInstruction r e = .ok tree → tree.Every (LoadedInstruction good) (LoadedExpression good)
  | ⟨tag, attributes, children⟩, tree, reads => by
    unfold readInstruction at reads
    obtain ⟨node, made, reads⟩ := bind_ok_iff.mp reads
    obtain ⟨held, below, reads⟩ := bind_ok_iff.mp reads
    cases reads
    obtain ⟨expressions, body, bodiless⟩ :=
      readHeld_every known tag node.hasBody children below trivial trivial (fun _ => rfl)
    exact ⟨⟨instructionNode_known known made, bodiless⟩, expressions, body⟩

theorem readHeld_every (known : r.Every good) (tag : String) (hasBody : Bool) :
    ∀ (es : List Element) {held after : Held},
    readHeld r tag hasBody held es = .ok after → EveryExpression (LoadedExpression good) held.expressions →
    EveryInstruction (LoadedInstruction good) (LoadedExpression good) held.body → (hasBody = false → held.body = []) →
    EveryExpression (LoadedExpression good) after.expressions ∧
      EveryInstruction (LoadedInstruction good) (LoadedExpression good) after.body ∧ (hasBody = false → after.body = [])
  | [], _, _, reads, expressions, body, bodiless => by
    cases reads
    exact ⟨expressions, body, bodiless⟩
  | ⟨name, attributes, children⟩ :: rest, held, after, reads, expressions, body, bodiless => by
    unfold readHeld at reads
    by_cases chain : name = instructionsTag
    · rw [if_pos chain] at reads
      cases hasBody with
      | false => cases reads
      | true =>
        obtain ⟨trees, below, reads⟩ := bind_ok_iff.mp reads
        exact readHeld_every known tag true rest reads expressions (readInstructions_every known children below) nofun
    · rw [if_neg chain] at reads
      obtain ⟨tree, below, reads⟩ := bind_ok_iff.mp reads
      have settled : tree.Every (LoadedExpression good) := readExpression_every known _ below
      exact readHeld_every known tag hasBody rest reads (expressions.append ⟨settled, trivial⟩) body bodiless

theorem readInstructions_every (known : r.Every good) : ∀ (es : List Element) {trees : List InstructionTree},
    readInstructions r es = .ok trees → EveryInstruction (LoadedInstruction good) (LoadedExpression good) trees
  | [], _, reads => by
    unfold readInstructions at reads
    cases reads
    trivial
  | e :: rest, trees, reads => by
    unfold readInstructions at reads
    obtain ⟨tree, first, reads⟩ := bind_ok_iff.mp reads
    obtain ⟨others, more, reads⟩ := bind_ok_iff.mp reads
    cases reads
    exact ⟨readInstruction_every known e first, readInstructions_every known rest more⟩

end

theorem of_mem_nonempty {chain trees : List InstructionTree} (member : chain ∈ nonempty trees) :
    chain = trees ∧ trees ≠ [] := by
  cases trees with
  | nil => cases member
  | cons tree rest => exact ⟨List.mem_singleton.mp member, List.cons_ne_nil _ _⟩

theorem readCustomInstructions_every (known : r.Every good) (es : List Element) {chains : List (List InstructionTree)}
    (reads : readCustomInstructions r es = .ok chains) :
    ∀ chain ∈ chains, EveryInstruction (LoadedInstruction good) (LoadedExpression good) chain := by
  induction es generalizing chains with
  | nil =>
    cases reads
    simp
  | cons e rest ih =>
    unfold readCustomInstructions at reads
    obtain ⟨-, -, reads⟩ := bind_ok_iff.mp reads
    obtain ⟨trees, below, reads⟩ := bind_ok_iff.mp reads
    obtain ⟨others, more, reads⟩ := bind_ok_iff.mp reads
    cases reads
    intro chain member
    rcases List.mem_append.mp member with first | later
    · obtain ⟨rfl, -⟩ := of_mem_nonempty first
      exact readInstructions_every known _ below
    · exact ih more chain later

theorem readSection_every (known : r.Every good) (e : Element) {t after : ProgramTree}
    (reads : readSection r t e = .ok after) (every : t.Every (LoadedInstruction good) (LoadedExpression good)) :
    after.Every (LoadedInstruction good) (LoadedExpression good) := by
  unfold readSection at reads
  by_cases thread : e.name = instructionsTag
  · rw [if_pos thread] at reads
    obtain ⟨trees, below, reads⟩ := bind_ok_iff.mp reads
    cases reads
    refine { every with threads := ?_ }
    intro chain member
    rcases List.mem_append.mp member with earlier | last
    · exact every.threads chain earlier
    · obtain ⟨rfl, -⟩ := of_mem_nonempty last
      exact readInstructions_every known _ below
  rw [if_neg thread] at reads
  by_cases free : e.name = expressionsTag
  · rw [if_pos free] at reads
    obtain ⟨trees, below, reads⟩ := bind_ok_iff.mp reads
    cases reads
    exact { every with expressions := every.expressions.append (readExpressions_every known _ below) }
  rw [if_neg free] at reads
  by_cases custom : e.name = customInstructionsTag
  · rw [if_pos custom] at reads
    obtain ⟨chains, below, reads⟩ := bind_ok_iff.mp reads
    cases reads
    refine { every with customInstructions := ?_ }
    intro chain member
    rcases List.mem_append.mp member with earlier | last
    · exact every.customInstructions chain earlier
    · exact readCustomInstructions_every known _ below chain last
  rw [if_neg custom] at reads
  by_cases customExpression : e.name = customExpressionsTag
  · rw [if_pos customExpression] at reads
    obtain ⟨trees, below, reads⟩ := bind_ok_iff.mp reads
    cases reads
    exact { every with customExpressions := every.customExpressions.append (readExpressions_every known _ below) }
  · rw [if_neg customExpression] at reads
    cases reads
    exact every

/-- Every node that was read can be saved. -/
theorem read_every (known : r.Every good) {root : Element} {t : ProgramTree} (reads : read r root = .ok t) :
    t.Every (LoadedInstruction good) (LoadedExpression good) := by
  obtain ⟨-, -, reads⟩ := bind_ok_iff.mp reads
  refine foldlM_invariant (fun _ t => t.Every (LoadedInstruction good) (LoadedExpression good)) ?_ ?_ reads
  · exact fun every reads => readSection_every known _ reads every
  · exact ⟨by simp, trivial, by simp, trivial⟩

end Document

/-! ## What a program holds is good -/

namespace Program

variable {p : Program} {good : ExpressionNode → Prop}

mutual

theorem holdsExpression_every (slots : ∀ slot ∈ p.expressions, good slot.node) :
    ∀ {id : ExpressionId} (tree : ExpressionTree), p.HoldsExpression id tree → tree.Every good
  | _, ⟨_, children⟩, ⟨_, at_id, _, holds⟩ =>
    ⟨slots _ (Array.mem_of_getElem? at_id), holdsExpressions_every slots children holds⟩

theorem holdsExpressions_every (slots : ∀ slot ∈ p.expressions, good slot.node) :
    ∀ {ids : List ExpressionId} (trees : List ExpressionTree), p.HoldsExpressions ids trees →
      EveryExpression good trees
  | _, [], _ => trivial
  | _, tree :: rest, ⟨_, _, _, first, more⟩ =>
    ⟨holdsExpression_every slots tree first, holdsExpressions_every slots rest more⟩

end

mutual

theorem holdsInstruction_every (slots : ∀ slot ∈ p.expressions, good slot.node) :
    ∀ {low id : Nat} {next : Option InstructionId} (tree : InstructionTree), p.HoldsInstruction low id next tree →
      tree.Every (fun _ => True) good
  | _, _, _, ⟨_, expressions, body⟩, ⟨_, _, _, holds, inside⟩ =>
    ⟨trivial, holdsExpressions_every slots expressions holds, holdsChain_every slots body inside⟩

theorem holdsChain_every (slots : ∀ slot ∈ p.expressions, good slot.node) :
    ∀ {low high : Nat} {head : Option InstructionId} (trees : List InstructionTree),
      p.HoldsChain low high head trees → EveryInstruction (fun _ => True) good trees
  | _, _, _, [], _ => trivial
  | _, _, _, tree :: rest, ⟨_, _, _, _, _, first, more⟩ =>
    ⟨holdsInstruction_every slots tree first, holdsChain_every slots rest more⟩

end

theorem shown_expressions_every (slots : ∀ slot ∈ p.expressions, good slot.node) {ids : List ExpressionId}
    {trees : List ExpressionTree} (shown : List.Forall₂ p.HoldsExpression ids trees) : EveryExpression good trees := by
  induction shown with
  | nil => trivial
  | cons first _ ih => exact ⟨holdsExpression_every slots _ first, ih⟩

/-- A chain that begins somewhere is not empty, and its nodes are those of the program. -/
theorem shown_chains_every (slots : ∀ slot ∈ p.expressions, good slot.node) {heads : List InstructionId}
    {chains : List (List InstructionTree)}
    (shown : List.Forall₂ (fun id chain => p.Holds (some id) chain) heads chains) :
    ∀ chain ∈ chains, chain ≠ [] ∧ EveryInstruction (fun _ => True) good chain := by
  intro chain member
  induction shown with
  | nil => cases member
  | cons first _ ih =>
    rcases List.mem_cons.mp member with rfl | later
    · refine ⟨?_, holdsChain_every slots _ first⟩
      rintro rfl
      cases first
    · exact ih later

end Program

end FlightBlocks
