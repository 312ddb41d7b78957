import FlightBlocks.Proofs.Settled
import FlightBlocks.Usage

/-!
# The search for nodes of the extension

A search that ends with nothing has looked at a node, at all that the node holds and at all that
follows it (`Program.Clear`). In a program that shows a tree the search always ends, and it finds
nothing just when all nodes of the tree are those of the language itself
(`Program.findExtension_shows`).
-/

namespace FlightBlocks

/-! ## Searching a list -/

section Search

variable {α β ε : Type} {f : α → Except ε (Option β)}

/-- A search ends, and it finds nothing just when all is clear. -/
def Answers (search : Except ε (Option β)) (clear : Prop) : Prop := ∃ found, search = .ok found ∧ (found = none ↔ clear)

theorem findSomeM?_eq_none_iff {xs : List α} : xs.findSomeM? f = .ok none ↔ ∀ x ∈ xs, f x = .ok none := by
  induction xs with
  | nil => simp [List.findSomeM?, pure, Except.pure]
  | cons x rest ih =>
    rw [List.findSomeM?, List.forall_mem_cons, ← ih]
    cases first : f x with
    | error e => simp [bind, Except.bind]
    | ok found => cases found <;> simp [bind, Except.bind, pure, Except.pure]

/-- A search that goes on elsewhere when it has found nothing so far. -/
theorem Answers.bind {search : Except ε (Option β)} {next : Option β → Except ε (Option β)} {clear clear_too : Prop}
    (first : Answers search clear) (second : Answers (next none) clear_too)
    (ends : ∀ b, next (some b) = .ok (some b)) : Answers (search >>= next) (clear ∧ clear_too) := by
  obtain ⟨found, rfl, nothing⟩ := first
  cases found with
  | some found =>
    have something : ¬clear := by simpa using nothing
    exact ⟨some found, ends found, by simp [something]⟩
  | none =>
    obtain ⟨other, ends_with, nothing_else⟩ := second
    have holds : clear := by simpa using nothing
    exact ⟨other, ends_with, by simp [holds, nothing_else]⟩

theorem Answers.nil : Answers (([] : List α).findSomeM? f) True := ⟨none, rfl, by simp⟩

theorem Answers.congr {search : Except ε (Option β)} {clear clear_too : Prop} (answers : Answers search clear)
    (same : clear ↔ clear_too) : Answers search clear_too := by
  rwa [← same]

theorem Answers.cons {x : α} {rest : List α} {clear clear_too : Prop} (first : Answers (f x) clear)
    (more : Answers (rest.findSomeM? f) clear_too) : Answers ((x :: rest).findSomeM? f) (clear ∧ clear_too) :=
  first.bind more fun _ => rfl

theorem findSomeM?_append (xs ys : List α) : (xs ++ ys).findSomeM? f =
    xs.findSomeM? f >>= fun | some found => .ok (some found) | none => ys.findSomeM? f := by
  induction xs with
  | nil => rfl
  | cons x rest ih =>
    rw [List.cons_append, List.findSomeM?, List.findSomeM?, ih]
    cases f x with
    | error e => rfl
    | ok found => cases found <;> rfl

theorem Answers.append {xs ys : List α} {clear clear_too : Prop} (first : Answers (xs.findSomeM? f) clear)
    (second : Answers (ys.findSomeM? f) clear_too) : Answers ((xs ++ ys).findSomeM? f) (clear ∧ clear_too) := by
  rw [findSomeM?_append]
  exact first.bind second fun _ => rfl

end Search

/-! ## Searching a program -/

namespace NodeType

/-- The type is one that the language itself supplies. -/
def IsHost (type : NodeType) : Prop := type.origin = .host

instance (type : NodeType) : Decidable type.IsHost := inferInstanceAs (Decidable (type.origin = .host))

theorem extension_iff {type : NodeType} : type.origin = .extension ↔ ¬type.IsHost := by
  unfold IsHost
  cases type.origin <;> simp

end NodeType

/-- All nodes of a tree are those of the language itself. -/
def ProgramTree.AllHost (t : ProgramTree) : Prop := t.Every (·.node.type.IsHost) (·.type.IsHost)

namespace Program

variable {p : Program}

/-! ### One step of the search -/

theorem findInExpression_missing {depth id : Nat} (at_id : p.expressions[id]? = none) :
    p.findInExpression (depth + 1) id = .error (.noExpression id) := by
  simp only [findInExpression, expression, at_id, bind, Except.bind]

theorem findInExpression_host {depth id : Nat} {slot : ExpressionSlot} (at_id : p.expressions[id]? = some slot)
    (host : slot.node.type.IsHost) :
    p.findInExpression (depth + 1) id = slot.children.findSomeM? (p.findInExpression depth) := by
  have supplied : slot.node.type.origin = .host := host
  unfold findInExpression expression
  simp [at_id, supplied, bind, Except.bind]

theorem findInExpression_extension {depth id : Nat} {slot : ExpressionSlot} (at_id : p.expressions[id]? = some slot)
    (extension : ¬slot.node.type.IsHost) : p.findInExpression (depth + 1) id = .ok (some (.expression id)) := by
  unfold findInExpression expression
  simp [at_id, NodeType.extension_iff.mpr extension, bind, Except.bind, pure, Except.pure]

theorem findInInstruction_missing {depth id : Nat} (at_id : p.instructions[id]? = none) :
    p.findInInstruction (depth + 1) id = .error (.noInstruction id) := by
  simp only [findInInstruction, instruction, at_id, bind, Except.bind]

/-- Where the search goes on from an instruction. -/
def followed (slot : InstructionSlot) : List InstructionId :=
  (if slot.node.hasBody then slot.body else none).toList ++ slot.next.toList

theorem findInInstruction_host {depth id : Nat} {slot : InstructionSlot} (at_id : p.instructions[id]? = some slot)
    (host : slot.node.type.IsHost) : p.findInInstruction (depth + 1) id =
      p.findInExpressions slot.expressions >>= fun
        | some found => .ok (some found)
        | none => (followed slot).findSomeM? (p.findInInstruction depth) := by
  have supplied : slot.node.type.origin = .host := host
  unfold findInInstruction instruction
  simp only [at_id, supplied, bind, Except.bind]
  rfl

theorem findInInstruction_extension {depth id : Nat} {slot : InstructionSlot}
    (at_id : p.instructions[id]? = some slot) (extension : ¬slot.node.type.IsHost) :
    p.findInInstruction (depth + 1) id = .ok (some (.instruction id)) := by
  unfold findInInstruction instruction
  simp [at_id, NodeType.extension_iff.mpr extension, bind, Except.bind, pure, Except.pure]

/-! ### Searches that end with nothing -/

/-- What the search has seen of an expression when it ends with nothing. -/
theorem findInExpression_none {depth id : Nat} (nothing : p.findInExpression (depth + 1) id = .ok none) :
    ∃ slot, p.expressions[id]? = some slot ∧ slot.node.type.IsHost ∧
      ∀ child ∈ slot.children, p.findInExpression depth child = .ok none := by
  cases at_id : p.expressions[id]? with
  | none =>
    rw [findInExpression_missing at_id] at nothing
    cases nothing
  | some slot =>
    by_cases host : slot.node.type.IsHost
    · rw [findInExpression_host at_id host] at nothing
      exact ⟨slot, rfl, host, findSomeM?_eq_none_iff.mp nothing⟩
    · rw [findInExpression_extension at_id host] at nothing
      cases nothing

/-- The search that begins at an instruction ends with nothing. -/
def Clear (p : Program) (id : InstructionId) : Prop := ∃ depth, p.findInInstruction depth id = .ok none

/-- An instruction is one of the language itself, and the searches that begin at its expressions, its
    body and the instruction behind it end with nothing. -/
structure ClearSlot (p : Program) (slot : InstructionSlot) : Prop where
  host : slot.node.type.IsHost
  expressions : p.findInExpressions slot.expressions = .ok none
  body : slot.node.hasBody = true → ∀ id ∈ slot.body, p.Clear id
  next : ∀ id ∈ slot.next, p.Clear id

/-- What the search has seen of an instruction when it ends with nothing. -/
theorem Clear.slot {id : InstructionId} (clear : p.Clear id) :
    ∃ slot, p.instructions[id]? = some slot ∧ p.ClearSlot slot := by
  obtain ⟨depth, nothing⟩ := clear
  cases depth with
  | zero => cases nothing
  | succ depth =>
    cases at_id : p.instructions[id]? with
    | none =>
      rw [findInInstruction_missing at_id] at nothing
      cases nothing
    | some slot =>
      by_cases host : slot.node.type.IsHost
      · rw [findInInstruction_host at_id host] at nothing
        obtain ⟨found, expressions, nothing⟩ := Document.bind_ok_iff.mp nothing
        cases found with
        | some found => cases nothing
        | none =>
          have followed := findSomeM?_eq_none_iff.mp nothing
          refine ⟨slot, rfl, host, expressions, ?_, ?_⟩
          · intro nests first begins
            exact ⟨depth, followed first (by simp [Program.followed, nests, Option.mem_def.mp begins])⟩
          · intro next follows
            exact ⟨depth, followed next (by simp [Program.followed, Option.mem_def.mp follows])⟩
      · rw [findInInstruction_extension at_id host] at nothing
        cases nothing

/-- The search of a program ends with nothing when that of each of its roots does. -/
theorem findExtension_none (nothing : p.findExtension = .ok none) :
    (∀ head ∈ p.rootInstructions ++ p.customInstructions, p.Clear head) ∧
      ∀ id ∈ p.rootExpressions ++ p.customExpressions, p.findInExpression p.maxPath id = .ok none := by
  unfold findExtension findExtensionFrom at nothing
  obtain ⟨found, threads, nothing⟩ := Document.bind_ok_iff.mp nothing
  cases found with
  | some found => cases nothing
  | none =>
  obtain ⟨found, expressions, nothing⟩ := Document.bind_ok_iff.mp nothing
  cases found with
  | some found => cases nothing
  | none =>
  obtain ⟨found, customExpressions, nothing⟩ := Document.bind_ok_iff.mp nothing
  cases found with
  | some found => cases nothing
  | none =>
  have customInstructions : p.findInInstructions p.customInstructions = .ok none := nothing
  constructor
  · intro head member
    rcases List.mem_append.mp member with thread | custom
    · exact ⟨_, findSomeM?_eq_none_iff.mp threads head thread⟩
    · exact ⟨_, findSomeM?_eq_none_iff.mp customInstructions head custom⟩
  · intro id member
    rcases List.mem_append.mp member with free | custom
    · exact findSomeM?_eq_none_iff.mp expressions id free
    · exact findSomeM?_eq_none_iff.mp customExpressions id custom

/-! ## Searching a program that shows a tree -/

mutual

theorem findInExpression_holds : ∀ {depth id : Nat} (tree : ExpressionTree), id < depth → p.HoldsExpression id tree →
    Answers (p.findInExpression depth id) (tree.Every (·.type.IsHost))
  | 0, _, _, below, _ => absurd below (Nat.not_lt_zero _)
  | depth + 1, id, ⟨node, children⟩, below, ⟨ids, at_id, ordered, holds⟩ => by
    have shallow : ∀ child ∈ ids, child < depth := by
      intro child member
      exact Nat.lt_of_lt_of_le (ordered child member) (Nat.lt_succ_iff.mp below)
    by_cases host : node.type.IsHost
    · rw [findInExpression_host at_id host]
      exact (findInExpressions_holds children shallow holds).congr (by simp [ExpressionTree.Every, host])
    · rw [findInExpression_extension at_id host]
      exact ⟨_, rfl, by simp [ExpressionTree.Every, host]⟩

theorem findInExpressions_holds : ∀ {depth : Nat} {ids : List ExpressionId} (trees : List ExpressionTree),
    (∀ id ∈ ids, id < depth) → p.HoldsExpressions ids trees →
      Answers (ids.findSomeM? (p.findInExpression depth)) (EveryExpression (·.type.IsHost) trees)
  | _, _, [], _, holds => by
    cases holds
    exact .nil
  | depth, _, tree :: rest, shallow, ⟨id, others, same, first, more⟩ => by
    subst same
    exact (findInExpression_holds tree (shallow id (by simp)) first).cons
      (findInExpressions_holds rest (fun other member => shallow other (by simp [member])) more)

end

theorem findInExpressions_shown {ids : List ExpressionId} {trees : List ExpressionTree}
    (shown : List.Forall₂ p.HoldsExpression ids trees) :
    Answers (p.findInExpressions ids) (EveryExpression (·.type.IsHost) trees) := by
  unfold findInExpressions
  induction shown with
  | nil => exact .nil
  | @cons id tree _ _ first _ ih =>
    refine Answers.cons (findInExpression_holds tree ?_ first) ih
    obtain ⟨node, children⟩ := tree
    obtain ⟨ids, at_id, -⟩ := first
    exact Nat.lt_succ_of_lt (Array.getElem?_eq_some_iff.mp at_id).1

/-- A chain is searched where it begins, and nowhere when there is none. -/
theorem findInHead_holds {depth low high : Nat} {head : Option InstructionId} {trees : List InstructionTree}
    (holds : p.HoldsChain low high head trees)
    (inside : ∀ first, head = some first → Answers (p.findInInstruction depth first)
      (EveryInstruction (·.node.type.IsHost) (·.type.IsHost) trees)) :
    Answers (head.toList.findSomeM? (p.findInInstruction depth))
      (EveryInstruction (·.node.type.IsHost) (·.type.IsHost) trees) := by
  cases head with
  | some first => exact ((inside first rfl).cons .nil).congr (by simp)
  | none =>
    cases trees with
    | nil => exact .nil
    | cons tree rest =>
      obtain ⟨_, _, begins, -⟩ := holds
      cases begins

/-- A chain is searched with all that its instructions hold. As when it is saved, the positions from
    `low` to `high` bound how far links lead. -/
theorem findInInstruction_holds {good : NodeType → Prop} : ∀ {depth low high id : Nat} (trees : List InstructionTree),
    high ≤ low + depth → p.HoldsChain low high (some id) trees →
    EveryInstruction (Document.LoadedInstruction good) (Document.LoadedExpression good) trees →
      Answers (p.findInInstruction depth id) (EveryInstruction (·.node.type.IsHost) (·.type.IsHost) trees)
  | _, _, _, _, [], _, holds, _ => by cases holds
  | 0, low, high, id, _ :: _, room, ⟨_, _, _, above, below, _⟩, _ => by omega
  | depth + 1, low, high, id, ⟨node, expressions, body⟩ :: rest, room, holds, every => by
    obtain ⟨_, next, same, above, below, ⟨ids, first, at_id, holds, inside⟩, more⟩ := holds
    cases same
    obtain ⟨⟨⟨_, bodiless⟩, _, every_body⟩, every_rest⟩ := every
    by_cases host : node.type.IsHost
    · have begins : (if node.hasBody then first else none) = first := by
        cases nests : node.hasBody with
        | true => rfl
        | false =>
          rw [show body = [] from bodiless nests] at inside
          exact inside.symm
      have values := findInExpressions_shown holds.forall₂
      have nested : Answers (first.toList.findSomeM? (p.findInInstruction depth)) _ := findInHead_holds inside (by
        rintro start rfl
        exact findInInstruction_holds body (by omega) inside every_body)
      have follows : Answers (next.toList.findSomeM? (p.findInInstruction depth)) _ := findInHead_holds more (by
        rintro start rfl
        exact findInInstruction_holds rest (by omega) more every_rest)
      rw [findInInstruction_host at_id host, followed, begins]
      refine Answers.congr (values.bind (nested.append follows) fun _ => rfl) ?_
      simp [EveryInstruction, InstructionTree.Every, host, and_assoc]
    · rw [findInInstruction_extension at_id host]
      exact ⟨_, rfl, by simp [EveryInstruction, InstructionTree.Every, host]⟩

theorem findInInstructions_shown {good : NodeType → Prop} {heads : List InstructionId}
    {chains : List (List InstructionTree)}
    (shown : List.Forall₂ (fun id chain => p.Holds (some id) chain) heads chains)
    (every : ∀ chain ∈ chains,
      EveryInstruction (Document.LoadedInstruction good) (Document.LoadedExpression good) chain) :
    Answers (p.findInInstructions heads)
      (∀ chain ∈ chains, EveryInstruction (·.node.type.IsHost) (·.type.IsHost) chain) := by
  unfold findInInstructions
  induction shown with
  | nil => exact Answers.nil.congr (by simp)
  | cons first _ ih =>
    have begins := findInInstruction_holds _ (by omega : _ ≤ 0 + (p.instructions.size + 1)) first (every _ (by simp))
    exact (begins.cons (ih fun chain member => every chain (by simp [member]))).congr List.forall_mem_cons.symm

/-- The search of a program that shows a tree ends, and it finds nothing just when every node of the
    tree is one of the language itself. -/
theorem findExtension_shows {good : NodeType → Prop} {t : ProgramTree} (shows : p.Shows t)
    (every : t.Every (Document.LoadedInstruction good) (Document.LoadedExpression good)) :
    Answers p.findExtension t.AllHost := by
  have threads := findInInstructions_shown shows.threads every.threads
  have expressions := findInExpressions_shown shows.expressions
  have customExpressions := findInExpressions_shown shows.customExpressions
  have customInstructions := findInInstructions_shown shows.customInstructions every.customInstructions
  have nothing : Answers p.findExtension _ := threads.bind (expressions.bind (customExpressions.bind customInstructions
    fun _ => rfl) fun _ => rfl) fun _ => rfl
  refine nothing.congr ?_
  constructor
  · rintro ⟨threads, expressions, customExpressions, customInstructions⟩
    exact ⟨threads, expressions, customInstructions, customExpressions⟩
  · rintro ⟨threads, expressions, customInstructions, customExpressions⟩
    exact ⟨threads, expressions, customExpressions, customInstructions⟩

end Program

end FlightBlocks
