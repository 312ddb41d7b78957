import FlightBlocks.Proofs.Loading
import FlightBlocks.Proofs.Walking

/-!
# What structured programs mean

Without jumps a program means what its tree says: chains run in order, a branch runs its body once,
a loop runs its body and starts over (`Means`). A thread runs to its end exactly when its chain has
a meaning, with the same variables and the same output (`runs_as_it_means`). A meaning is a finite
derivation, so a program that does not end has none.
-/

namespace FlightBlocks

/-! ## Meaning -/

/-- What instructions work on. -/
structure Store where
  vars : Variables
  output : Array String

/-- What a chain makes of a store. A branch or a loop without a body, or without its condition, is
    passed over. -/
inductive Means (world : World) : List InstructionTree → Store → Store → Prop where
  | done {s : Store} : Means world [] s s
  | setVariable {tree : InstructionTree} {rest : List InstructionTree} {s s' : Store} {name : String}
      (node : tree.node = .setVariable name)
      (more : Means world rest { s with vars := s.vars.set name (tree.argument world s.vars) } s') :
      Means world (tree :: rest) s s'
  | log {tree : InstructionTree} {rest : List InstructionTree} {s s' : Store} (node : tree.node = .log)
      (more : Means world rest { s with output := s.output.push (tree.argument world s.vars).toText } s') :
      Means world (tree :: rest) s s'
  | skip {tree : InstructionTree} {rest : List InstructionTree} {s s' : Store}
      (node : tree.node = .branch ∨ tree.node = .loop)
      (skips : tree.body = [] ∨ (tree.argument world s.vars).toBool = false) (more : Means world rest s s') :
      Means world (tree :: rest) s s'
  | branch {tree : InstructionTree} {rest : List InstructionTree} {s s' s'' : Store} (node : tree.node = .branch)
      (has_body : tree.body ≠ []) (condition : (tree.argument world s.vars).toBool = true)
      (inside : Means world tree.body s s') (more : Means world rest s' s'') : Means world (tree :: rest) s s''
  | loop {tree : InstructionTree} {rest : List InstructionTree} {s s' s'' : Store} (node : tree.node = .loop)
      (has_body : tree.body ≠ []) (condition : (tree.argument world s.vars).toBool = true)
      (inside : Means world tree.body s s') (again : Means world (tree :: rest) s' s'') :
      Means world (tree :: rest) s s''

mutual

/-- There is no jump in a tree. -/
def InstructionTree.JumpFree : InstructionTree → Prop
  | ⟨node, _, body⟩ => node ≠ .breakLoop ∧ node ≠ .continueLoop ∧ JumpFreeChain body

def JumpFreeChain : List InstructionTree → Prop
  | [] => True
  | tree :: rest => tree.JumpFree ∧ JumpFreeChain rest

end

theorem InstructionTree.jumpFree_iff {tree : InstructionTree} : tree.JumpFree ↔
    tree.node ≠ .breakLoop ∧ tree.node ≠ .continueLoop ∧ JumpFreeChain tree.body := by
  cases tree
  rfl

namespace Program

variable {p : Program}

mutual

theorem jumpFree_of_instruction
    (structured : ∀ slot ∈ p.instructions, slot.node ≠ .breakLoop ∧ slot.node ≠ .continueLoop) :
    ∀ {low id : Nat} {next : Option InstructionId} (tree : InstructionTree),
      p.HoldsInstruction low id next tree → tree.JumpFree
  | _, _, _, ⟨_, _, body⟩, ⟨_, _, at_id, _, inside⟩ => by
    obtain ⟨no_break, no_continue⟩ := structured _ (Array.mem_of_getElem? at_id)
    exact ⟨no_break, no_continue, jumpFree_of_chain structured body inside⟩

theorem jumpFree_of_chain
    (structured : ∀ slot ∈ p.instructions, slot.node ≠ .breakLoop ∧ slot.node ≠ .continueLoop) :
    ∀ {low high : Nat} {head : Option InstructionId} (trees : List InstructionTree),
      p.HoldsChain low high head trees → JumpFreeChain trees
  | _, _, _, [], _ => trivial
  | _, _, _, tree :: rest, ⟨_, _, _, _, _, first, more⟩ =>
    ⟨jumpFree_of_instruction structured tree first, jumpFree_of_chain structured rest more⟩

end

end Program

/-! ## Walkers that end -/

/-- A walker with a store, which has room for any number of scopes. -/
def Store.walker (s : Store) (chain : List InstructionTree) (scopes : List (List InstructionTree)) : Walker :=
  ⟨s.vars, s.output, none, chain, scopes⟩

/-- A walker with a chain before it, or behind the scopes that end with an empty one. -/
def Store.settle (s : Store) (chain : List InstructionTree) (scopes : List (List InstructionTree)) : Walker :=
  ((s.walker [] scopes).goOn chain).2

/-- A walker takes a step, for which there is room. -/
def Walker.Steps (world : World) (w w' : Walker) : Prop :=
  ∃ progress, w.step world = (progress, w') ∧ ∀ o, progress ≠ .overflow o

/-- A walker is at its end after a number of steps, with a store. -/
inductive EndsIn (world : World) (final : Store) : Nat → Walker → Prop where
  | finished {w : Walker} (chain : w.chain = []) (vars : w.vars = final.vars) (output : w.output = final.output) :
      EndsIn world final 0 w
  | step {n : Nat} {w w' : Walker} (chain : w.chain ≠ []) (steps : w.Steps world w') (ends : EndsIn world final n w') :
      EndsIn world final (n + 1) w

section Walkers

variable {world : World} {s s' final : Store} {tree : InstructionTree} {rest chain : List InstructionTree}
  {scope : List InstructionTree} {scopes : List (List InstructionTree)} {w : Walker}

theorem settle_scope : s.settle [] (scope :: scopes) = s.settle scope scopes := by
  cases scope with
  | nil => simp [Store.settle, Walker.goOn, Store.walker]
  | cons => rfl

theorem goOn_no_overflow (w : Walker) (chain : List InstructionTree) (o : StackOverflow) :
    (w.goOn chain).1 ≠ .overflow o := by
  unfold Walker.goOn
  split
  · simp
  · split <;> simp

/-- Going on with a chain is a step to the walker before it. -/
theorem steps_goOn (before : List InstructionTree)
    (same : w.step world = (s.walker before scopes).goOn chain) : w.Steps world (s.settle chain scopes) := by
  refine ⟨((s.walker before scopes).goOn chain).1, ?_, goOn_no_overflow _ chain⟩
  rw [same]
  cases chain <;> rfl

theorem steps_setVariable {name : String} (node : tree.node = .setVariable name) :
    (s.walker (tree :: rest) scopes).Steps world
      (Store.settle { s with vars := s.vars.set name (tree.argument world s.vars) } rest scopes) := by
  refine steps_goOn (tree :: rest) ?_
  simp only [Walker.step, Store.walker, node]

theorem steps_log (node : tree.node = .log) :
    (s.walker (tree :: rest) scopes).Steps world
      (Store.settle { s with output := s.output.push (tree.argument world s.vars).toText } rest scopes) := by
  refine steps_goOn (tree :: rest) ?_
  simp only [Walker.step, Store.walker, node]

theorem steps_skip (node : tree.node = .branch ∨ tree.node = .loop)
    (skips : tree.body = [] ∨ (tree.argument world s.vars).toBool = false) :
    (s.walker (tree :: rest) scopes).Steps world (s.settle rest scopes) := by
  refine steps_goOn (tree :: rest) ?_
  rcases node with node | node
  · simp only [Walker.step, Store.walker, node, Walker.runBody_skip skips]
  · simp only [Walker.step, Store.walker, node, Walker.runBody_skip skips]

theorem steps_enter (rest : List InstructionTree) (has_body : tree.body ≠ [])
    (same : w.step world = (s.walker (tree :: rest) scopes).enter tree.body scope) :
    w.Steps world (s.settle tree.body (scope :: scopes)) := by
  refine ⟨.running, ?_, by simp⟩
  rw [same]
  cases body : tree.body with
  | nil => exact absurd body has_body
  | cons => rfl

theorem steps_branch (node : tree.node = .branch) (has_body : tree.body ≠ [])
    (condition : (tree.argument world s.vars).toBool = true) :
    (s.walker (tree :: rest) scopes).Steps world (s.settle tree.body (rest :: scopes)) := by
  refine steps_enter rest has_body ?_
  simp only [Walker.step, Store.walker, node, condition, Walker.runBody_enter has_body]

theorem steps_loop (node : tree.node = .loop) (has_body : tree.body ≠ [])
    (condition : (tree.argument world s.vars).toBool = true) :
    (s.walker (tree :: rest) scopes).Steps world (s.settle tree.body ((tree :: rest) :: scopes)) := by
  refine steps_enter rest has_body ?_
  simp only [Walker.step, Store.walker, node, condition, Walker.runBody_enter has_body]

/-! ## Meanings and walkers that end -/

/-- A walker before a chain with a meaning ends, if it ends behind it. -/
theorem Means.ends {n : Nat} (means : Means world chain s s')
    (ends : EndsIn world final n (s'.settle [] scopes)) : ∃ m, EndsIn world final m (s.settle chain scopes) := by
  induction means generalizing n scopes with
  | done => exact ⟨n, ends⟩
  | setVariable node _ ih =>
    obtain ⟨m, ends⟩ := ih ends
    exact ⟨m + 1, .step (by simp [Store.settle, Walker.goOn]) (steps_setVariable node) ends⟩
  | log node _ ih =>
    obtain ⟨m, ends⟩ := ih ends
    exact ⟨m + 1, .step (by simp [Store.settle, Walker.goOn]) (steps_log node) ends⟩
  | skip node skips _ ih =>
    obtain ⟨m, ends⟩ := ih ends
    exact ⟨m + 1, .step (by simp [Store.settle, Walker.goOn]) (steps_skip node skips) ends⟩
  | branch node has_body condition _ _ inside more =>
    obtain ⟨m, ends⟩ := more ends
    rw [← settle_scope] at ends
    obtain ⟨k, ends⟩ := inside ends
    exact ⟨k + 1, .step (by simp [Store.settle, Walker.goOn]) (steps_branch node has_body condition) ends⟩
  | loop node has_body condition _ _ inside again =>
    obtain ⟨m, ends⟩ := again ends
    rw [← settle_scope] at ends
    obtain ⟨k, ends⟩ := inside ends
    exact ⟨k + 1, .step (by simp [Store.settle, Walker.goOn]) (steps_loop node has_body condition) ends⟩

theorem Walker.Steps.unique {w' w'' : Walker} (first : w.Steps world w') (second : w.Steps world w'') : w' = w'' := by
  obtain ⟨_, left, -⟩ := first
  obtain ⟨_, right, -⟩ := second
  exact congrArg Prod.snd (left.symm.trans right)

/-- A walker before some instruction that ends does so after one step. -/
theorem EndsIn.first {n : Nat} {w' : Walker} (ends : EndsIn world final n (s.walker (tree :: rest) scopes))
    (steps : (s.walker (tree :: rest) scopes).Steps world w') : ∃ m, n = m + 1 ∧ EndsIn world final m w' := by
  cases ends with
  | finished chain => cases chain
  | @step m _ _ _ steps' ends => exact ⟨m, rfl, steps.unique steps' ▸ ends⟩

/-- A walker before a chain without jumps that ends comes to the end of the chain before, and the
    chain has a meaning. The induction is on the steps: those that run a body leave fewer for what
    comes behind it. -/
theorem EndsIn.means (n : Nat) : ∀ {chain : List InstructionTree} {s : Store} {scopes : List (List InstructionTree)},
    JumpFreeChain chain → EndsIn world final n (s.settle chain scopes) →
      ∃ s' m, m ≤ n ∧ Means world chain s s' ∧ EndsIn world final m (s'.settle [] scopes) := by
  induction n using Nat.strongRecOn with
  | ind n ih =>
    intro chain s scopes free ends
    cases chain with
    | nil => exact ⟨s, n, Nat.le_refl n, .done, ends⟩
    | cons tree rest =>
      have ⟨free_tree, free_rest⟩ : tree.JumpFree ∧ JumpFreeChain rest := free
      obtain ⟨no_break, no_continue, free_body⟩ := InstructionTree.jumpFree_iff.mp free_tree
      have behind : ∀ {k} {s : Store}, k < n → EndsIn world final k (s.settle rest scopes) →
          ∃ s' m, m ≤ n ∧ Means world rest s s' ∧ EndsIn world final m (s'.settle [] scopes) := by
        intro k s fewer ends
        obtain ⟨s', m, most, means, ends⟩ := ih k fewer free_rest ends
        exact ⟨s', m, Nat.le_trans most (Nat.le_of_lt fewer), means, ends⟩
      have through : ∀ {k} {scope : List InstructionTree}, k < n → JumpFreeChain scope →
          EndsIn world final k (s.settle tree.body (scope :: scopes)) →
          ∃ s' s'' m, m ≤ n ∧ Means world tree.body s s' ∧ Means world scope s' s'' ∧
            EndsIn world final m (s''.settle [] scopes) := by
        intro k scope fewer free_scope ends
        obtain ⟨s', m, most, inside, ends⟩ := ih k fewer free_body ends
        rw [settle_scope] at ends
        obtain ⟨s'', m', most', means, ends⟩ := ih m (Nat.lt_of_le_of_lt most fewer) free_scope ends
        exact ⟨s', s'', m', by omega, inside, means, ends⟩
      cases node : tree.node with
      | setVariable name =>
        obtain ⟨k, rfl, left⟩ := ends.first (steps_setVariable node)
        obtain ⟨s', m, most, means, ends⟩ := behind (Nat.lt_succ_self k) left
        exact ⟨s', m, most, .setVariable node means, ends⟩
      | log =>
        obtain ⟨k, rfl, left⟩ := ends.first (steps_log node)
        obtain ⟨s', m, most, means, ends⟩ := behind (Nat.lt_succ_self k) left
        exact ⟨s', m, most, .log node means, ends⟩
      | branch =>
        by_cases skips : tree.body = [] ∨ (tree.argument world s.vars).toBool = false
        · obtain ⟨k, rfl, left⟩ := ends.first (steps_skip (.inl node) skips)
          obtain ⟨s', m, most, means, ends⟩ := behind (Nat.lt_succ_self k) left
          exact ⟨s', m, most, .skip (.inl node) skips means, ends⟩
        · obtain ⟨has_body, condition⟩ := not_or.mp skips
          rw [Bool.not_eq_false] at condition
          obtain ⟨k, rfl, left⟩ := ends.first (steps_branch node has_body condition)
          obtain ⟨s', s'', m, most, inside, means, ends⟩ := through (Nat.lt_succ_self k) free_rest left
          exact ⟨s'', m, most, .branch node has_body condition inside means, ends⟩
      | loop =>
        by_cases skips : tree.body = [] ∨ (tree.argument world s.vars).toBool = false
        · obtain ⟨k, rfl, left⟩ := ends.first (steps_skip (.inr node) skips)
          obtain ⟨s', m, most, means, ends⟩ := behind (Nat.lt_succ_self k) left
          exact ⟨s', m, most, .skip (.inr node) skips means, ends⟩
        · obtain ⟨has_body, condition⟩ := not_or.mp skips
          rw [Bool.not_eq_false] at condition
          obtain ⟨k, rfl, left⟩ := ends.first (steps_loop node has_body condition)
          obtain ⟨s', s'', m, most, inside, means, ends⟩ :=
            through (Nat.lt_succ_self k) free left
          exact ⟨s'', m, most, .loop node has_body condition inside means, ends⟩
      | breakLoop => exact absurd node no_break
      | continueLoop => exact absurd node no_continue

/-- Before a chain without jumps and with no scope around it a walker ends with a store exactly when
    this is what the chain makes of its own. -/
theorem ends_iff_means (free : JumpFreeChain chain) :
    (∃ n, EndsIn world final n (s.settle chain [])) ↔ Means world chain s final := by
  constructor
  · rintro ⟨n, ends⟩
    obtain ⟨s', m, -, means, ends⟩ := EndsIn.means n free ends
    cases ends with
    | finished _ vars output =>
      obtain rfl : s' = final := by
        cases s'
        cases final
        cases vars
        cases output
        rfl
      exact means
    | step unfinished => exact absurd rfl unfinished
  · intro means
    have ends : EndsIn world final 0 (final.settle [] []) := .finished rfl rfl rfl
    exact means.ends ends

/-! ## Runs that are completed -/

theorem EndsIn.of_run {budget steps k : Nat} {w' : Walker}
    (completes : w.runFrom world budget steps = (.completed k, w')) :
    ∃ n, EndsIn world ⟨w'.vars, w'.output⟩ n w := by
  induction budget generalizing w steps with
  | zero =>
    by_cases finished : w.chain.isEmpty
    · simp only [Walker.runFrom, finished] at completes
      cases completes
      exact ⟨0, .finished (List.isEmpty_iff.mp finished) rfl rfl⟩
    · simp [Walker.runFrom, finished] at completes
  | succ budget ih =>
    by_cases finished : w.chain.isEmpty
    · simp only [Walker.runFrom, finished] at completes
      cases completes
      exact ⟨0, .finished (List.isEmpty_iff.mp finished) rfl rfl⟩
    · have unfinished : w.chain ≠ [] := by simpa using finished
      rw [Walker.runFrom, if_neg finished] at completes
      generalize result : w.step world = reached at completes
      obtain ⟨progress, next⟩ := reached
      cases progress with
      | running =>
        obtain ⟨n, ends⟩ := ih completes
        exact ⟨n + 1, .step unfinished ⟨_, result, by simp⟩ ends⟩
      | finished =>
        obtain ⟨n, ends⟩ := ih completes
        exact ⟨n + 1, .step unfinished ⟨_, result, by simp⟩ ends⟩
      | overflow o => cases completes

theorem EndsIn.run {n : Nat} (ends : EndsIn world final n w) (steps : Nat) :
    ∃ w', w.runFrom world n steps = (.completed (steps + n), w') ∧ w'.vars = final.vars ∧
      w'.output = final.output := by
  induction ends generalizing steps with
  | @finished w chain vars output =>
    refine ⟨w, ?_, vars, output⟩
    simp [Walker.runFrom, chain]
  | @step n w next chain takes _ ih =>
    obtain ⟨progress, result, no_overflow⟩ := takes
    obtain ⟨w', completes, same⟩ := ih (steps + 1)
    refine ⟨w', ?_, same⟩
    rw [Walker.runFrom, if_neg (by simpa using chain), result]
    rw [show steps + (n + 1) = steps + 1 + n by omega]
    cases progress with
    | overflow o => exact absurd rfl (no_overflow o)
    | _ => exact completes

theorem settle_start : s.settle chain [] = s.walker chain [] := by
  cases chain <;> rfl

/-- A thread with any number of scopes runs to its end with a store exactly when that is what its
    chain means. -/
theorem completes_iff_means {p : Program} {head : Option InstructionId} (holds : p.Holds head chain)
    (free : JumpFreeChain chain) (world : World) (vars : Variables) (store : Store) :
    (∃ budget steps i, (Interpreter.begin none vars head).run p world budget = .ok (.completed steps, i) ∧
      i.thread.variables = store.vars ∧ i.thread.output = store.output) ↔ Means world chain ⟨vars, #[]⟩ store := by
  have begins : p.Represents (.begin none vars head) (Store.walker ⟨vars, #[]⟩ chain []) :=
    Program.represents_begin none vars holds
  rw [← ends_iff_means free, settle_start]
  constructor
  · rintro ⟨budget, steps, i, completes, same_vars, same_output⟩
    obtain ⟨j, runs, represents⟩ := begins.runFrom world budget 0
    rw [Interpreter.run, runs] at completes
    generalize result : Walker.runFrom world budget 0 (Store.walker ⟨vars, #[]⟩ chain []) = reached
      at completes represents
    obtain ⟨outcome, w'⟩ := reached
    cases completes
    have ends := EndsIn.of_run result
    rwa [← represents.thread.vars, ← represents.thread.output, same_vars, same_output] at ends
  · rintro ⟨n, ends⟩
    obtain ⟨w', completes, same_vars, same_output⟩ := ends.run 0
    obtain ⟨j, runs, represents⟩ := begins.runFrom world n 0
    rw [completes] at runs represents
    refine ⟨n, 0 + n, j, runs, ?_, ?_⟩
    · rw [represents.thread.vars, same_vars]
    · rw [represents.thread.output, same_output]

end Walkers

/-- For every program that loads and has no jump: its threads and custom instructions, in order, are
    the chains of the tree of its element, and each runs to its end with just those variables and
    that output which the chain means. -/
theorem runs_as_it_means {r : Registry} {root : Markup.Element} {p : Program}
    (loads : Document.load r root = .ok p)
    (structured : ∀ slot ∈ p.instructions, slot.node ≠ .breakLoop ∧ slot.node ≠ .continueLoop)
    (world : World) (vars : Variables) :
    ∃ tree, Document.read r root = .ok tree ∧
      List.Forall₂ (fun head chain => ∀ store : Store,
          (∃ budget steps i,
            (Interpreter.begin none vars (some head)).run p world budget = .ok (.completed steps, i) ∧
            i.thread.variables = store.vars ∧ i.thread.output = store.output) ↔
          Means world chain ⟨vars, #[]⟩ store)
        (p.rootInstructions ++ p.customInstructions) (tree.threads ++ tree.customInstructions) := by
  obtain ⟨tree, reads, builds⟩ := Document.read_of_load loads
  refine ⟨tree, reads, ?_⟩
  have shown := List.rel_append builds.shows.threads builds.shows.customInstructions
  refine shown.imp fun head chain holds store => ?_
  exact completes_iff_means holds (Program.jumpFree_of_chain structured chain holds) world vars store

/-- A branch whose condition holds. -/
def loggingBranch : Markup.Element :=
  ⟨"Program", [], [⟨"Instructions", [], [⟨"If", [], [⟨"Constant", [("bool", "true")], []⟩,
    ⟨"Instructions", [], [⟨"Log", [], [⟨"Constant", [("text", "inside")], []⟩]⟩]⟩]⟩]⟩]⟩

/-- The same program, loaded. -/
def loggingBranchProgram : Program where
  name := ""
  expressions := #[⟨.constant (.bool true), []⟩, ⟨.constant (.text "inside"), []⟩]
  instructions := #[⟨.log, [1], none, none⟩, ⟨.branch, [0], none, some 0⟩]
  rootInstructions := [1]

/-- The branch logs its line, in a run as in its meaning. -/
theorem runs_as_it_means_in_branch : ∃ tree chain, Document.read .full loggingBranch = .ok tree ∧
    tree.threads = [chain] ∧ Means .empty chain ⟨.empty, #[]⟩ ⟨.empty, #["inside"]⟩ := by
  have loads : Document.load .full loggingBranch = .ok loggingBranchProgram := rfl
  obtain ⟨tree, reads, same⟩ := runs_as_it_means loads (by decide) .empty .empty
  cases reads
  cases same with
  | cons first _ =>
    have completes := (first ⟨.empty, #["inside"]⟩).mp ⟨2, 2, _, rfl, rfl, rfl⟩
    exact ⟨_, _, rfl, rfl, completes⟩

end FlightBlocks
