import FlightBlocks.Proofs.Links
import FlightBlocks.Proofs.Tree

/-!
# Programs that grow

Nodes are only ever added behind those that a program has, so the trees that it holds stay
(`holdsExpression_mono`, `holdsChain_frame`). Linking a row of instructions turns it into a chain
(`withChain_holds`). `AddsExpressions`, `AddsRow` and `AddsChain` say what was added between two
programs and that nothing names it yet.
-/

namespace FlightBlocks.Program

/-! ## Programs that grow -/

/-- The nodes of a program are kept; others may have been added behind them. -/
structure Keeps (p q : Program) : Prop where
  expression : ∀ {id : ExpressionId} {slot}, p.expressions[id]? = some slot → q.expressions[id]? = some slot
  instruction : ∀ {id : InstructionId}, id < p.instructions.size → q.instructions[id]? = p.instructions[id]?
  size_le : p.instructions.size ≤ q.instructions.size

/-- Nodes were added behind those of a program, and its roots stayed. -/
structure Grows (p q : Program) : Prop extends p.Keeps q where
  name : q.name = p.name
  rootInstructions : q.rootInstructions = p.rootInstructions
  rootExpressions : q.rootExpressions = p.rootExpressions
  customInstructions : q.customInstructions = p.customInstructions
  customExpressions : q.customExpressions = p.customExpressions

/-- Programs with the same tables. -/
theorem Keeps.of_tables {p q : Program} (expressions : q.expressions = p.expressions)
    (instructions : q.instructions = p.instructions) : p.Keeps q where
  expression h := by rwa [expressions]
  instruction _ := by rw [instructions]
  size_le := Nat.le_of_eq (by rw [instructions])

theorem Grows.refl (p : Program) : p.Grows p :=
  ⟨⟨fun h => h, fun _ => rfl, Nat.le_refl _⟩, rfl, rfl, rfl, rfl, rfl⟩

theorem Grows.trans {p q r : Program} (first : p.Grows q) (second : q.Grows r) : p.Grows r where
  expression h := second.expression (first.expression h)
  instruction inside :=
    (second.instruction (Nat.lt_of_lt_of_le inside first.size_le)).trans (first.instruction inside)
  size_le := Nat.le_trans first.size_le second.size_le
  name := second.name.trans first.name
  rootInstructions := second.rootInstructions.trans first.rootInstructions
  rootExpressions := second.rootExpressions.trans first.rootExpressions
  customInstructions := second.customInstructions.trans first.customInstructions
  customExpressions := second.customExpressions.trans first.customExpressions

theorem grows_addExpression (p : Program) (node : ExpressionNode) (ids : List ExpressionId) :
    p.Grows (p.addExpression node ids).2 := by
  refine ⟨⟨fun {id slot} h => ?_, fun _ => rfl, Nat.le_refl _⟩, rfl, rfl, rfl, rfl, rfl⟩
  have inside := (Array.getElem?_eq_some_iff.mp h).1
  simp only [addExpression, Array.getElem?_push_lt inside, ← h]
  exact (Array.getElem?_eq_getElem inside).symm

theorem grows_addInstruction (p : Program) (node : InstructionNode) (ids : List ExpressionId)
    (body : Option InstructionId) : p.Grows (p.addInstruction node ids body).2 := by
  refine ⟨⟨fun h => h, fun {id} inside => ?_, ?_⟩, rfl, rfl, rfl, rfl, rfl⟩
  · simp only [addInstruction, Array.getElem?_push_lt inside]
    exact (Array.getElem?_eq_getElem inside).symm
  · simp [addInstruction]

theorem foldl_addRootExpression (p : Program) (ids : List ExpressionId) :
    ids.foldl addRootExpression p = { p with rootExpressions := p.rootExpressions ++ ids } := by
  induction ids generalizing p with
  | nil => simp
  | cons id rest ih => simp [ih, addRootExpression]

theorem foldl_addCustomExpression (p : Program) (ids : List ExpressionId) :
    ids.foldl addCustomExpression p = { p with customExpressions := p.customExpressions ++ ids } := by
  induction ids generalizing p with
  | nil => simp
  | cons id rest ih => simp [ih, addCustomExpression]

/-! ## Trees stay -/

mutual

theorem holdsExpression_mono {p q : Program}
    (kept : ∀ {id : ExpressionId} {slot}, p.expressions[id]? = some slot → q.expressions[id]? = some slot) :
    ∀ {id : ExpressionId} (tree : ExpressionTree), p.HoldsExpression id tree → q.HoldsExpression id tree
  | _, ⟨_, children⟩, ⟨ids, at_id, below, holds⟩ =>
    ⟨ids, kept at_id, below, holdsExpressions_mono kept children holds⟩

theorem holdsExpressions_mono {p q : Program}
    (kept : ∀ {id : ExpressionId} {slot}, p.expressions[id]? = some slot → q.expressions[id]? = some slot) :
    ∀ {ids : List ExpressionId} (trees : List ExpressionTree),
      p.HoldsExpressions ids trees → q.HoldsExpressions ids trees
  | _, [], h => h
  | _, tree :: rest, ⟨id, others, same, first, more⟩ =>
    ⟨id, others, same, holdsExpression_mono kept tree first, holdsExpressions_mono kept rest more⟩

end

mutual

/-- What an instruction holds is kept with the instructions from `low` on up to it. -/
theorem holdsInstruction_frame {p q : Program}
    (kept : ∀ {id : ExpressionId} {slot}, p.expressions[id]? = some slot → q.expressions[id]? = some slot) :
    ∀ {low id : Nat} {next : Option InstructionId} (tree : InstructionTree),
      (∀ i, low ≤ i → i ≤ id → q.instructions[i]? = p.instructions[i]?) → low ≤ id →
      p.HoldsInstruction low id next tree → q.HoldsInstruction low id next tree
  | _, id, _, ⟨_, expressions, body⟩, same, ordered, ⟨ids, first, at_id, holds, inside⟩ =>
    ⟨ids, first, (same id ordered (Nat.le_refl id)).trans at_id, holdsExpressions_mono kept expressions holds,
      holdsChain_frame kept body (fun i above below => same i above (Nat.le_of_lt below)) inside⟩

theorem holdsChain_frame {p q : Program}
    (kept : ∀ {id : ExpressionId} {slot}, p.expressions[id]? = some slot → q.expressions[id]? = some slot) :
    ∀ {low high : Nat} {head : Option InstructionId} (trees : List InstructionTree),
      (∀ i, low ≤ i → i < high → q.instructions[i]? = p.instructions[i]?) →
      p.HoldsChain low high head trees → q.HoldsChain low high head trees
  | _, _, _, [], _, h => h
  | low, high, _, tree :: rest, same, ⟨id, next, head, above, below, first, more⟩ => by
    refine ⟨id, next, head, above, below, ?_, ?_⟩
    · refine holdsInstruction_frame kept tree ?_ above first
      intro i at_least at_most
      exact same i at_least (by omega)
    · refine holdsChain_frame kept rest ?_ more
      intro i at_least at_most
      exact same i (by omega) at_most

end

mutual

theorem holdsInstruction_widen {p : Program} : ∀ {low lower id : Nat} {next : Option InstructionId}
    (tree : InstructionTree), lower ≤ low → p.HoldsInstruction low id next tree →
      p.HoldsInstruction lower id next tree
  | _, _, _, _, ⟨_, _, body⟩, less, ⟨ids, first, at_id, holds, inside⟩ =>
    ⟨ids, first, at_id, holds, holdsChain_widen body less (Nat.le_refl _) inside⟩

theorem holdsChain_widen {p : Program} : ∀ {low lower high higher : Nat} {head : Option InstructionId}
    (trees : List InstructionTree), lower ≤ low → high ≤ higher → p.HoldsChain low high head trees →
      p.HoldsChain lower higher head trees
  | _, _, _, _, _, [], _, _, h => h
  | _, _, _, _, _, tree :: rest, less, more, ⟨id, next, head, above, below, first, others⟩ =>
    ⟨id, next, head, Nat.le_trans less above, Nat.lt_of_lt_of_le below more,
      holdsInstruction_widen tree less first, holdsChain_widen rest (Nat.le_refl _) more others⟩

end

theorem HoldsExpressions.inside {p : Program} {ids : List ExpressionId} {trees : List ExpressionTree}
    (h : p.HoldsExpressions ids trees) : ∀ id ∈ ids, id < p.expressions.size := by
  induction trees generalizing ids with
  | nil =>
    cases h
    simp
  | cons tree rest ih =>
    obtain ⟨first, others, rfl, holds, more⟩ := h
    intro id member
    rcases List.mem_cons.mp member with rfl | later
    · obtain ⟨node, children⟩ := tree
      obtain ⟨below, at_id, -⟩ := holds
      exact (Array.getElem?_eq_some_iff.mp at_id).1
    · exact ih more id later

theorem HoldsExpressions.append {p : Program} {ids others : List ExpressionId} {trees more : List ExpressionTree}
    (first : p.HoldsExpressions ids trees) (second : p.HoldsExpressions others more) :
    p.HoldsExpressions (ids ++ others) (trees ++ more) := by
  induction trees generalizing ids with
  | nil =>
    cases first
    exact second
  | cons tree rest ih =>
    obtain ⟨id, tail, rfl, holds, later⟩ := first
    exact ⟨id, tail ++ others, rfl, holds, ih later⟩

theorem HoldsExpressions.forall₂ {p : Program} {ids : List ExpressionId} {trees : List ExpressionTree}
    (h : p.HoldsExpressions ids trees) : List.Forall₂ p.HoldsExpression ids trees := by
  induction trees generalizing ids with
  | nil =>
    cases h
    exact .nil
  | cons tree rest ih =>
    obtain ⟨id, others, rfl, holds, more⟩ := h
    exact .cons holds (ih more)

theorem Keeps.holds {p q : Program} (h : p.Keeps q) {head : Option InstructionId} {chain : List InstructionTree}
    (holds : p.Holds head chain) : q.Holds head chain :=
  holdsChain_widen chain (Nat.le_refl _) h.size_le
    (holdsChain_frame h.expression chain (fun _ _ inside => h.instruction inside) holds)

/-! ## Chains from rows -/

/-- Instructions that are not linked yet, in ascending order, each with a tree. -/
def HoldsRow (p : Program) (low high : Nat) (ids : List InstructionId) : List InstructionTree → Prop
  | [] => ids = []
  | tree :: rest => ∃ (id : Nat) (others : List InstructionId), ids = id :: others ∧ low ≤ id ∧ id < high ∧
      p.HoldsInstruction low id none tree ∧ p.HoldsRow (id + 1) high others rest

theorem HoldsRow.widen {p : Program} {low lower high higher : Nat} {ids : List InstructionId}
    {trees : List InstructionTree} (h : p.HoldsRow low high ids trees) (less : lower ≤ low)
    (more : high ≤ higher) : p.HoldsRow lower higher ids trees := by
  induction trees generalizing low lower ids with
  | nil => exact h
  | cons tree rest ih =>
    obtain ⟨id, others, shape, above, below, first, later⟩ := h
    exact ⟨id, others, shape, Nat.le_trans less above, Nat.lt_of_lt_of_le below more,
      holdsInstruction_widen tree less first, ih later (Nat.le_refl _)⟩

theorem HoldsRow.frame {p q : Program} {low high : Nat} {ids : List InstructionId} {trees : List InstructionTree}
    (h : p.HoldsRow low high ids trees)
    (kept : ∀ {id : ExpressionId} {slot}, p.expressions[id]? = some slot → q.expressions[id]? = some slot)
    (same : ∀ i, low ≤ i → i < high → q.instructions[i]? = p.instructions[i]?) : q.HoldsRow low high ids trees := by
  induction trees generalizing low ids with
  | nil => exact h
  | cons tree rest ih =>
    obtain ⟨id, others, shape, above, below, first, more⟩ := h
    refine ⟨id, others, shape, above, below, ?_, ?_⟩
    · refine holdsInstruction_frame kept tree ?_ above first
      intro i at_least at_most
      exact same i at_least (by omega)
    · refine ih more ?_
      intro i at_least at_most
      exact same i (by omega) at_most

/-- The positions of a row ascend from `low` on and stay below `high`. -/
theorem HoldsRow.ascending {p : Program} {low high : Nat} {ids : List InstructionId}
    {trees : List InstructionTree} (h : p.HoldsRow low high ids trees) :
    ids.Pairwise (· < ·) ∧ ∀ id ∈ ids, low ≤ id ∧ id < high := by
  induction trees generalizing low ids with
  | nil =>
    cases h
    simp
  | cons tree rest ih =>
    obtain ⟨id, others, rfl, above, below, -, more⟩ := h
    obtain ⟨ordered, bounded⟩ := ih more
    refine ⟨List.pairwise_cons.mpr ⟨fun other member => (bounded other member).1, ordered⟩, ?_⟩
    intro other member
    rcases List.mem_cons.mp member with rfl | later
    · exact ⟨above, below⟩
    · exact ⟨Nat.le_trans above (Nat.le_of_succ_le (bounded other later).1), (bounded other later).2⟩

theorem withNext_other (p : Program) (id : InstructionId) (next : Option InstructionId) {i : InstructionId}
    (other : i ≠ id) : (p.withNext id next).instructions[i]? = p.instructions[i]? := by
  simp [withNext, Array.getElem?_modify, Ne.symm other]

/-- Linking changes the table of instructions and nothing else. -/
theorem withChain_eq (p : Program) (ids : List InstructionId) :
    ∃ xs, p.withChain ids = { p with instructions := xs } ∧ xs.size = p.instructions.size := by
  fun_induction withChain p ids with
  | case1 p first second rest ih => simpa [withNext] using ih
  | case2 => exact ⟨_, rfl, rfl⟩

@[simp] theorem withChain_expressions (p : Program) (ids : List InstructionId) :
    (p.withChain ids).expressions = p.expressions := by
  obtain ⟨xs, same, -⟩ := p.withChain_eq ids
  rw [same]

@[simp] theorem withChain_size (p : Program) (ids : List InstructionId) :
    (p.withChain ids).instructions.size = p.instructions.size := by
  obtain ⟨xs, same, size⟩ := p.withChain_eq ids
  rw [same, size]

/-- Linking a row turns it into a chain and touches nothing below it. -/
theorem withChain_holds {p : Program} {low high : Nat} {ids : List InstructionId} {trees : List InstructionTree}
    (h : p.HoldsRow low high ids trees) :
    (p.withChain ids).HoldsChain low high ids.head? trees ∧
      ∀ i, i < low → (p.withChain ids).instructions[i]? = p.instructions[i]? := by
  induction trees generalizing p low ids with
  | nil =>
    cases h
    exact ⟨rfl, fun _ _ => rfl⟩
  | cons tree rest ih =>
    obtain ⟨id, others, rfl, above, below, first, more⟩ := h
    cases others with
    | nil =>
      cases rest with
      | nil => exact ⟨⟨id, none, rfl, above, below, first, rfl⟩, fun _ _ => rfl⟩
      | cons tree' rest =>
        obtain ⟨_, _, impossible, -⟩ := more
        cases impossible
    | cons second others =>
      have row : (p.withNext id (some second)).HoldsRow (id + 1) high (second :: others) rest :=
        more.frame (fun h => h) fun i above _ => withNext_other p id _ (Nat.ne_of_gt above)
      obtain ⟨chain, untouched⟩ := ih row
      change ((p.withNext id (some second)).withChain (second :: others)).HoldsChain _ _ _ _ ∧
        ∀ i, i < low → ((p.withNext id (some second)).withChain (second :: others)).instructions[i]? = _
      have same : ∀ i, i < id → ((p.withNext id (some second)).withChain (second :: others)).instructions[i]? =
          p.instructions[i]? := fun i less =>
        (untouched i (Nat.lt_succ_of_lt less)).trans (withNext_other p id _ (Nat.ne_of_lt less))
      refine ⟨⟨id, some second, rfl, above, below, ?_, chain⟩, fun i less => same i (by omega)⟩
      obtain ⟨node, expressions, body⟩ := tree
      obtain ⟨xs, start, at_id, holds, inside⟩ := first
      refine ⟨xs, start, ?_, ?_, ?_⟩
      · rw [untouched id (Nat.lt_succ_self id)]
        simp [withNext, Array.getElem?_modify, at_id]
      · exact holdsExpressions_mono (by simp [withNext]) expressions holds
      · exact holdsChain_frame (by simp [withNext]) body (fun i _ less => same i less) inside

/-! ## What loading adds -/

/-- Expressions with everything below them were added, and nothing names them yet. -/
structure AddsExpressions (p q : Program) (ids : List ExpressionId) (trees : List ExpressionTree) : Prop where
  grows : p.Grows q
  instructions : q.instructions = p.instructions
  linked : ∀ {openE openI}, p.Linked openE openI → q.Linked (ids ++ openE) openI
  holds : q.HoldsExpressions ids trees

/-- Instructions with everything that they hold were added, not linked to one another yet. -/
structure AddsRow (p q : Program) (ids : List InstructionId) (trees : List InstructionTree) : Prop where
  grows : p.Grows q
  linked : ∀ {openE openI}, p.Linked openE openI → q.Linked openE (ids ++ openI)
  row : q.HoldsRow p.instructions.size q.instructions.size ids trees

/-- A chain was added, and nothing names its head yet. -/
structure AddsChain (p q : Program) (head : Option InstructionId) (trees : List InstructionTree) : Prop where
  grows : p.Grows q
  linked : ∀ {openE openI}, p.Linked openE openI → q.Linked openE (head.toList ++ openI)
  chain : q.HoldsChain p.instructions.size q.instructions.size head trees

theorem AddsExpressions.single {p q : Program} {ids : List ExpressionId} {trees : List ExpressionTree}
    (h : p.AddsExpressions q ids trees) (node : ExpressionNode) :
    p.AddsExpressions (q.addExpression node ids).2 [(q.addExpression node ids).1] [⟨node, trees⟩] where
  grows := h.grows.trans (grows_addExpression q node ids)
  instructions := h.instructions
  linked linked := (h.linked linked).addExpression node
  holds := by
    refine ⟨_, [], rfl, ⟨ids, ?_, h.holds.inside, ?_⟩, rfl⟩
    · simp [addExpression]
    · exact holdsExpressions_mono (grows_addExpression q node ids).expression trees h.holds

theorem AddsExpressions.cons {p q r : Program} {id : ExpressionId} {ids : List ExpressionId}
    {tree : ExpressionTree} {trees : List ExpressionTree} (first : p.AddsExpressions q [id] [tree])
    (more : q.AddsExpressions r ids trees) : p.AddsExpressions r (id :: ids) (tree :: trees) where
  grows := first.grows.trans more.grows
  instructions := more.instructions.trans first.instructions
  linked linked := (more.linked (first.linked linked)).of_subperm
    (by simpa using List.perm_middle.symm.subperm) (List.Subperm.refl _)
  holds := (holdsExpressions_mono more.grows.expression [tree] first.holds).append more.holds

theorem AddsRow.cons {p q r : Program} {id : InstructionId} {ids : List InstructionId}
    {tree : InstructionTree} {trees : List InstructionTree} (first : p.AddsRow q [id] [tree])
    (more : q.AddsRow r ids trees) : p.AddsRow r (id :: ids) (tree :: trees) where
  grows := first.grows.trans more.grows
  linked linked := (more.linked (first.linked linked)).of_subperm (List.Subperm.refl _)
    (by simpa using List.perm_middle.symm.subperm)
  row := by
    obtain ⟨_, _, shape, above, below, holds, -⟩ := first.row
    cases shape
    refine ⟨id, ids, rfl, above, Nat.lt_of_lt_of_le below more.grows.size_le, ?_, more.row.widen below (Nat.le_refl _)⟩
    refine holdsInstruction_frame more.grows.expression tree ?_ above holds
    intro j _ at_most
    exact more.grows.instruction (Nat.lt_of_le_of_lt at_most below)

theorem AddsRow.link {p q : Program} {ids : List InstructionId} {trees : List InstructionTree}
    (h : p.AddsRow q ids trees) : p.AddsChain (q.withChain ids) ids.head? trees where
  grows := by
    have untouched := (withChain_holds h.row).2
    obtain ⟨xs, same, size⟩ := q.withChain_eq ids
    rw [same] at untouched ⊢
    exact { h.grows with
      instruction := fun inside => (untouched _ inside).trans (h.grows.instruction inside)
      size_le := size ▸ h.grows.size_le }
  linked := by
    intro openE openI linked
    have added := h.linked linked
    cases ids with
    | nil => exact added
    | cons first rest =>
      have reordered : q.Linked openE (rest ++ first :: openI) :=
        added.of_subperm (List.Subperm.refl _) List.perm_middle.subperm
      exact reordered.withChain h.row.ascending.1
  chain := by
    rw [withChain_size]
    exact (withChain_holds h.row).1

end FlightBlocks.Program
