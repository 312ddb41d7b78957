import FlightBlocks.Proofs.DepthLimit
import FlightBlocks.Proofs.Jumps

/-!
# Programs without loops

Without a loop a thread never comes back to an instruction. It goes on behind the instruction, into its body, or out
of some of the branches around it, to what follows one of them. What may still be executed are the instructions that
links lead to from where it stands and from behind the branches around that (`Program.Ahead`). A step adds nothing
to them and takes the instruction that it executes away (`ahead_of_onto`, `not_ahead_of_onto`). So a thread executes
no instruction twice and ends within as many steps as there are instructions, whatever branches and jumps there are
(`loop_free_ends`).
-/

namespace FlightBlocks

open Relation (ReflTransGen TransGen)

namespace Program

/-- An instruction comes right behind another, or its body begins with it. -/
def Onward (p : Program) (id next : InstructionId) : Prop := p.Follows id next ∨ p.Begins id next

/-- What may be executed from an instruction on, within some containers: what links lead to from there, and from what
    follows one of the containers. -/
def Ahead (p : Program) (id : InstructionId) (containers : List InstructionId) (x : InstructionId) : Prop :=
  ∃ start, (start = id ∨ ∃ c ∈ containers, p.Follows c start) ∧ ReflTransGen p.Onward start x

/-- No instruction is a loop. -/
def LoopFree (p : Program) : Prop := ∀ slot ∈ p.instructions, slot.node ≠ .loop

/-- Where a thread goes from an instruction within some containers, and what is around that. -/
inductive Onto (p : Program) (id : InstructionId) (containers : List InstructionId) :
    InstructionId → List InstructionId → Prop where
  | behind {target : InstructionId} (follows : p.Follows id target) : Onto p id containers target containers
  | inside {target : InstructionId} (begins : p.Begins id target) : Onto p id containers target (id :: containers)
  | out {c target : InstructionId} {others : List InstructionId} (member : c ∈ containers)
      (follows : p.Follows c target) (fewer : others ⊆ containers) : Onto p id containers target others

section Links

variable {p : Program} {openE : List ExpressionId} {openI : List InstructionId} {id next c target x : InstructionId}
  {containers others : List InstructionId}

/-! ## What links lead to -/

theorem Onward.mem_targets (onward : p.Onward id next) :
    ∃ slot, p.instructions[id]? = some slot ∧ next ∈ slot.targets := by
  rcases onward with ⟨slot, at_id, has_next⟩ | ⟨slot, at_id, -, has_body⟩
  · exact ⟨slot, at_id, InstructionSlot.next_mem_targets has_next⟩
  · exact ⟨slot, at_id, InstructionSlot.body_mem_targets has_body⟩

theorem onward_source_unique (h : p.Linked openE openI) {i j : InstructionId} (one : p.Onward i x)
    (two : p.Onward j x) : i = j := by
  obtain ⟨slot, at_i, named⟩ := one.mem_targets
  obtain ⟨other, at_j, also⟩ := two.mem_targets
  exact h.source_unique at_i at_j named also

/-- Links do not lead from an instruction back to it. -/
theorem Around.not_onward_self (h : p.Linked openE openI) (around : p.Around id containers) :
    ¬TransGen p.Onward id id := by
  -- A way back to a position enters it by its only link, so the source of the link is on a way back, too.
  have before : ∀ {i j}, p.Onward i j → TransGen p.Onward j j → TransGen p.Onward i i := by
    intro i j onward back
    obtain ⟨last, path, enters⟩ := TransGen.tail'_iff.mp back
    obtain rfl := onward_source_unique h enters onward
    exact TransGen.head' onward path
  induction around with
  | root is_root =>
    intro back
    obtain ⟨last, -, enters⟩ := TransGen.tail'_iff.mp back
    obtain ⟨slot, at_last, named⟩ := enters.mem_targets
    exact h.root_not_target is_root at_last named
  | next _ follows ih => exact fun back => ih (before (.inl follows) back)
  | body _ begins ih => exact fun back => ih (before (.inr begins) back)

theorem Around.onward (around : p.Around id containers) (onward : p.Onward id next) :
    ∃ others, p.Around next others := by
  rcases onward with follows | begins
  · exact ⟨_, around.next follows⟩
  · exact ⟨_, around.body begins⟩

theorem Around.slot_onward (h : p.Linked openE openI) (around : p.Around id containers)
    (path : ReflTransGen p.Onward id x) : ∃ slot, p.instructions[x]? = some slot := by
  have reached : ∃ others, p.Around x others := by
    induction path with
    | refl => exact ⟨_, around⟩
    | tail _ onward ih =>
      obtain ⟨others, around⟩ := ih
      exact around.onward onward
  obtain ⟨others, around⟩ := reached
  exact around.slot h

/-- What follows a container does not lead back into it. -/
theorem Around.not_encloses_behind (h : p.Linked openE openI) (around : p.Around c containers)
    (follows : p.Follows c next) (path : ReflTransGen p.Onward next x) : ¬p.Encloses c x := by
  induction path with
  | refl =>
    rw [encloses_next h follows, ← around.mem_iff h]
    exact around.not_mem h
  | tail path onward ih =>
    rcases onward with follows' | begins
    · rwa [encloses_next h follows']
    · rw [encloses_first h begins]
      rintro (rfl | encloses)
      · exact around.not_onward_self h (TransGen.head' (.inl follows) path)
      · exact ih encloses

/-! ## What is ahead -/

theorem ahead_self : p.Ahead id containers id := ⟨id, .inl rfl, .refl⟩

/-- Nothing is ahead after a move that was not ahead before it. -/
theorem ahead_of_onto (onto : p.Onto id containers target others) (ahead : p.Ahead target others x) :
    p.Ahead id containers x := by
  obtain ⟨start, begins, path⟩ := ahead
  cases onto with
  | behind follows =>
    rcases begins with rfl | outside
    · exact ⟨id, .inl rfl, .head (.inl follows) path⟩
    · exact ⟨start, .inr outside, path⟩
  | inside enters =>
    rcases begins with rfl | ⟨c, member, follows⟩
    · exact ⟨id, .inl rfl, .head (.inr enters) path⟩
    · rcases List.mem_cons.mp member with rfl | member
      · exact ⟨c, .inl rfl, .head (.inl follows) path⟩
      · exact ⟨start, .inr ⟨c, member, follows⟩, path⟩
  | out member follows fewer =>
    rcases begins with rfl | ⟨c, inside, follows'⟩
    · exact ⟨start, .inr ⟨_, member, follows⟩, path⟩
    · exact ⟨start, .inr ⟨c, fewer inside, follows'⟩, path⟩

/-- The instruction that was left is not ahead. -/
theorem not_ahead_of_onto (h : p.Linked openE openI) (around : p.Around id containers)
    (onto : p.Onto id containers target others) : ¬p.Ahead target others id := by
  rintro ⟨start, begins, path⟩
  have onward : ¬p.Onward id start := fun first => around.not_onward_self h (TransGen.head' first path)
  -- What follows a container cannot lead into it, and all of the containers enclose the instruction.
  have outside : ∀ c ∈ containers, ¬p.Follows c start := by
    intro c member follows
    obtain ⟨rest, around_c⟩ := around.of_mem member
    exact around_c.not_encloses_behind h follows path ((around.mem_iff h).mp member)
  cases onto with
  | behind follows =>
    rcases begins with rfl | ⟨c, member, follows'⟩
    · exact onward (.inl follows)
    · exact outside c member follows'
  | inside enters =>
    rcases begins with rfl | ⟨c, member, follows⟩
    · exact onward (.inr enters)
    · rcases List.mem_cons.mp member with rfl | member
      · exact onward (.inl follows)
      · exact outside c member follows
  | out member follows fewer =>
    rcases begins with rfl | ⟨c, inside, follows'⟩
    · exact outside _ member follows
    · exact outside c (fewer inside) follows'

/-! ## Frames without loops -/

theorem LoopFree.follows (loop_free : p.LoopFree) (returns : p.returnOf c = some target) : p.Follows c target := by
  obtain ⟨slot, at_c, target_eq⟩ := Option.bind_eq_some_iff.mp returns
  rw [if_neg (loop_free slot (Array.mem_of_getElem? at_c))] at target_eq
  exact ⟨slot, at_c, target_eq⟩

/-- Without loops no jump stops. -/
theorem LoopFree.not_boundary (loop_free : p.LoopFree) (c : InstructionId) :
    (p.scopeFrame c).isLoopBoundary = false := by
  rw [Bool.eq_false_iff, ne_eq, boundary_iff]
  rintro ⟨target, slot, -, at_target, is_loop⟩
  exact loop_free slot (Array.mem_of_getElem? at_target) is_loop

end Links

end Program

/-- A thread goes on only where one of its frames does. -/
theorem CallStack.returns_of_resume {s stack : CallStack} {target : InstructionId}
    (resumes : s.resume = (some target, stack)) : ∃ f ∈ s.frames, f.returnTo = some target := by
  unfold resume at resumes
  cases left : s.frames.dropWhile fun f => f.returnTo.isNone with
  | nil =>
    rw [left] at resumes
    cases resumes
  | cons f rest =>
    rw [left] at resumes
    have kept : f ∈ s.frames := (List.dropWhile_sublist _).subset (left ▸ List.mem_cons_self)
    exact ⟨f, kept, congrArg Prod.fst resumes⟩

theorem CallStack.limit_of_push {s : CallStack} {f : Frame} {overflow : StackOverflow}
    (full : s.push f = .error overflow) : s.limit = some overflow.limit := by
  unfold push at full
  cases has_limit : s.limit with
  | none =>
    rw [has_limit] at full
    cases full
  | some limit =>
    simp only [has_limit] at full
    split at full
    · cases full
      rfl
    · cases full

/-! ## Steps -/

/-- What a step at an instruction within some containers comes to, without loops. -/
inductive Moves (p : Program) (limit : Option Nat) (id : InstructionId) (containers : List InstructionId) :
    Progress × Interpreter → Prop where
  | running {t : Thread} {target : InstructionId} {others : List InstructionId}
      (stands : StandsAt p limit t target others) (onto : p.Onto id containers target others) : Moves p limit id containers (.running, ⟨t, some target⟩)
  | finished {t : Thread} : Moves p limit id containers (.finished, ⟨t, none⟩)
  | refused {t : Thread} {overflow : StackOverflow} (full : limit = some overflow.limit) :
      Moves p limit id containers (.overflow overflow, ⟨t, none⟩)

/-- An instruction can be executed, and the thread moves on. -/
def MovesOn (p : Program) (world : World) (limit : Option Nat) (t : Thread) (id : InstructionId)
    (containers : List InstructionId) : Prop :=
  ∃ next t', t.execute p world id = .ok (next, t') ∧ Moves p limit id containers (Interpreter.proceed next t')

section Steps

variable {p : Program} {openE : List ExpressionId} {openI : List InstructionId} {limit : Option Nat} {t : Thread}
  {id : InstructionId} {containers : List InstructionId} {slot : InstructionSlot}

theorem proceed_empty (id : InstructionId) (containers : List InstructionId) (fault : t.fault = none) :
    Moves p limit id containers (Interpreter.proceed none { t with stack := ⟨[], limit⟩ }) := by
  simp only [Interpreter.proceed, fault]
  exact .finished

/-- A thread goes on behind an instruction, or else behind a container of it. -/
theorem proceed_moves (loop_free : p.LoopFree) (stands : StandsAt p limit t id containers)
    (at_id : p.instructions[id]? = some slot) : Moves p limit id containers (Interpreter.proceed slot.next t) := by
  unfold Interpreter.proceed
  rw [stands.fault]
  cases has_next : slot.next with
  | some next =>
    have behind : StandsAt p limit t next containers := ⟨stands.behind at_id next has_next, stands.stack, stands.fault⟩
    exact .running behind (.behind ⟨slot, at_id, has_next⟩)
  | none =>
    dsimp only
    rw [stands.stack]
    rcases resume_around limit stands.around with none | ⟨target, container, outer, resumes, around, shorter⟩
    · rw [none]
      exact .finished
    · rw [resumes]
      obtain ⟨f, member, returns⟩ := CallStack.returns_of_resume resumes
      obtain ⟨c, inside, rfl⟩ := List.mem_map.mp member
      have fewer : outer ⊆ containers := fun _ kept => shorter.subset (List.mem_cons_of_mem _ kept)
      exact .running ⟨around, rfl, rfl⟩ (.out inside (loop_free.follows returns) fewer)

theorem plain_moves (h : p.Linked openE openI) (loop_free : p.LoopFree) (world : World)
    (stands : StandsAt p limit t id containers) (at_id : p.instructions[id]? = some slot)
    (plain : slot.node = .log ∨ ∃ name, slot.node = .setVariable name) : MovesOn p world limit t id containers := by
  obtain ⟨t', executes, stack, fault⟩ := execute_plain h world at_id plain
  have stays : StandsAt p limit t' id containers := ⟨stands.around, stack.trans stands.stack, fault.trans stands.fault⟩
  exact ⟨slot.next, t', executes, proceed_moves loop_free stays at_id⟩

theorem branch_moves (h : p.Linked openE openI) (loop_free : p.LoopFree) (world : World)
    (stands : StandsAt p limit t id containers) (at_id : p.instructions[id]? = some slot) (may : slot.node.hasBody) :
    MovesOn p world limit t id containers := by
  obtain ⟨value, argument⟩ := h.argument_ok world t at_id
  unfold MovesOn
  rw [execute_container at_id may argument]
  by_cases skips : slot.body = none ∨ value.toBool = false
  · exact ⟨_, _, Thread.runBody_skip skips, proceed_moves loop_free stands at_id⟩
  · obtain ⟨has_body, holds⟩ := not_or.mp skips
    obtain ⟨first, has_body⟩ := Option.ne_none_iff_exists'.mp has_body
    rw [Bool.eq_true_of_not_eq_false holds, Thread.runBody_enter has_body (frameFor_returnOf h stands.around)]
    have begins : p.Begins id first := ⟨slot, at_id, may, has_body⟩
    rcases t.stack.push_cases (p.scopeFrame id) with room | ⟨overflow, full⟩
    · rw [room]
      have enters : StandsAt p limit { t with stack := { t.stack with frames := p.scopeFrame id :: t.stack.frames } }
          first (id :: containers) := by
        refine ⟨stands.around.body begins, ?_, stands.fault⟩
        rw [stands.stack]
        rfl
      refine ⟨_, _, rfl, ?_⟩
      rw [Interpreter.proceed_some first enters.fault]
      exact .running enters (.inside begins)
    · rw [full]
      have reached := CallStack.limit_of_push full
      rw [stands.stack] at reached
      exact ⟨_, _, rfl, .refused reached⟩

theorem break_moves (loop_free : p.LoopFree) (world : World) (stands : StandsAt p limit t id containers)
    (at_id : p.instructions[id]? = some slot) (jump : slot.node = .breakLoop) :
    MovesOn p world limit t id containers := by
  rcases execute_break world at_id jump stands.stack with ⟨-, executes⟩ |
    ⟨inner, container, outer, target, -, -, stops, -⟩
  · exact ⟨_, _, executes, proceed_empty id containers stands.fault⟩
  · rw [loop_free.not_boundary container] at stops
    cases stops

/-- `Continue` goes on behind the outermost branch. -/
theorem continue_moves (loop_free : p.LoopFree) (world : World) (stands : StandsAt p limit t id containers)
    (at_id : p.instructions[id]? = some slot) (jump : slot.node = .continueLoop) :
    MovesOn p world limit t id containers := by
  rcases execute_continue world at_id jump stands.stack with ⟨-, executes⟩ |
    ⟨inner, container, outer, rfl, -, stops | rfl, executes⟩
  · exact ⟨_, _, executes, proceed_empty id containers stands.fault⟩
  · rw [loop_free.not_boundary container] at stops
    cases stops
  · refine ⟨_, _, executes, ?_⟩
    cases returns : p.returnOf container with
    | none => exact proceed_empty id _ stands.fault
    | some target =>
      have around : p.Around target [] := stands.around.outer.1.returns returns
      have outside : StandsAt p limit { t with stack := ⟨[], limit⟩ } target [] := ⟨around, rfl, stands.fault⟩
      rw [List.map_nil, Interpreter.proceed_some target outside.fault]
      exact .running outside (.out (by simp) (loop_free.follows returns) (List.nil_subset _))

theorem step_moves (h : p.Linked openE openI) (loop_free : p.LoopFree) (world : World)
    (stands : StandsAt p limit t id containers) :
    ∃ result, Interpreter.step p world ⟨t, some id⟩ = .ok result ∧ Moves p limit id containers result := by
  obtain ⟨slot, at_id⟩ := stands.around.slot h
  have moves_on : MovesOn p world limit t id containers := by
    cases node : slot.node with
    | setVariable name => exact plain_moves h loop_free world stands at_id (.inr ⟨name, node⟩)
    | log => exact plain_moves h loop_free world stands at_id (.inl node)
    | branch => exact branch_moves h loop_free world stands at_id (by rw [node]; rfl)
    | loop => exact absurd node (loop_free slot (Array.mem_of_getElem? at_id))
    | breakLoop => exact break_moves loop_free world stands at_id node
    | continueLoop => exact continue_moves loop_free world stands at_id node
  obtain ⟨next, t', executes, moves⟩ := moves_on
  exact ⟨_, Interpreter.step_of_execute executes, moves⟩

end Steps

/-! ## Runs -/

/-- A thread has ended, or only some instructions are ahead of it. -/
inductive HasAhead (p : Program) (limit : Option Nat) (ahead : InstructionId → Prop) : Interpreter → Prop where
  | running {t : Thread} {id : InstructionId} {containers : List InstructionId}
      (stands : StandsAt p limit t id containers) (known : ∀ x, p.Ahead id containers x → ahead x) :
      HasAhead p limit ahead ⟨t, some id⟩
  | ended {t : Thread} : HasAhead p limit ahead ⟨t, none⟩

section Runs

variable {p : Program} {openE : List ExpressionId} {openI : List InstructionId} {limit : Option Nat}
  {ahead later : InstructionId → Prop} {i : Interpreter} {head : InstructionId}

theorem hasAhead_begin (h : p.Linked openE openI) (limit : Option Nat) (vars : Variables)
    (is_root : head ∈ p.rootInstructions ++ p.customInstructions) :
    HasAhead p limit (· < p.instructions.size) (.begin limit vars (some head)) := by
  refine .running ⟨.root is_root, rfl, rfl⟩ ?_
  rintro x ⟨start, rfl | ⟨c, outside, -⟩, path⟩
  · obtain ⟨slot, at_x⟩ := (Program.Around.root is_root).slot_onward h path
    exact (Array.getElem?_eq_some_iff.mp at_x).1
  · cases outside

theorem HasAhead.mono (has : HasAhead p limit ahead i) (sub : ∀ x, ahead x → later x) : HasAhead p limit later i := by
  cases has with
  | running stands known => exact .running stands fun x member => sub x (known x member)
  | ended => exact .ended

theorem HasAhead.current (has : HasAhead p limit ahead i) {id : InstructionId} (current : i.current = some id) :
    ahead id := by
  cases has with
  | running stands known =>
    cases current
    exact known _ Program.ahead_self
  | ended => cases current

/-- After a step the instruction that was executed is not ahead any more. -/
theorem HasAhead.step (h : p.Linked openE openI) (loop_free : p.LoopFree) (world : World)
    (has : HasAhead p limit ahead i) :
    ∃ progress j, i.step p world = .ok (progress, j) ∧ HasAhead p limit (fun x => ahead x ∧ i.current ≠ some x) j ∧
      ∀ overflow, progress = .overflow overflow → limit = some overflow.limit ∧ j.current = none := by
  cases has with
  | ended => exact ⟨_, _, rfl, .ended, by simp⟩
  | @running t id containers stands known =>
    obtain ⟨⟨progress, j⟩, steps, moves⟩ := step_moves h loop_free world stands
    refine ⟨progress, j, steps, ?_⟩
    cases moves with
    | @running t' target others stands' onto =>
      refine ⟨.running stands' fun x member => ⟨known x (Program.ahead_of_onto onto member), ?_⟩, by simp⟩
      rintro ⟨⟩
      exact Program.not_ahead_of_onto h stands.around onto member
    | finished => exact ⟨.ended, by simp⟩
    | refused full =>
      refine ⟨.ended, ?_⟩
      rintro _ ⟨⟩
      exact ⟨full, rfl⟩

/-- A run ends before its budget does, if no more instructions are ahead than the budget allows. -/
theorem runFrom_ends (h : p.Linked openE openI) (loop_free : p.LoopFree) (world : World) {left : Finset InstructionId}
    {budget : Nat} (steps : Nat) (has : HasAhead p limit (· ∈ left) i) (room : left.card ≤ budget) :
    ∃ outcome j, Interpreter.runFrom p world budget steps i = .ok (outcome, j) ∧ j.current = none ∧
      ((∃ k ≤ steps + left.card, outcome = .completed k) ∨
        ∃ overflow, outcome = .overflow overflow ∧ limit = some overflow.limit) := by
  -- The instruction that is executed leaves the set, so the set shrinks with the budget.
  induction budget generalizing i left steps with
  | zero =>
    have nothing : i.current = none := by
      rw [Option.eq_none_iff_forall_not_mem]
      intro id current
      rw [Finset.card_eq_zero.mp (Nat.le_zero.mp room)] at has
      exact absurd (has.current current) (Finset.notMem_empty id)
    refine ⟨.completed steps, i, ?_, nothing, .inl ⟨steps, Nat.le_add_right _ _, rfl⟩⟩
    simp [Interpreter.runFrom, Interpreter.isFinished, nothing]
  | succ budget ih =>
    cases current : i.current with
    | none =>
      refine ⟨.completed steps, i, ?_, current, .inl ⟨steps, Nat.le_add_right _ _, rfl⟩⟩
      simp [Interpreter.runFrom, Interpreter.isFinished, current]
    | some id =>
      obtain ⟨progress, j, takes, has', refused⟩ := has.step h loop_free world
      have member : id ∈ left := has.current current
      have fewer : (left.erase id).card + 1 = left.card := Finset.card_erase_add_one member
      have onward : HasAhead p limit (· ∈ left.erase id) j := has'.mono fun x known => by
        rw [Finset.mem_erase]
        exact ⟨fun same => known.2 (same ▸ current), known.1⟩
      by_cases refusal : ∃ overflow, progress = .overflow overflow
      · obtain ⟨overflow, rfl⟩ := refusal
        obtain ⟨full, ended⟩ := refused overflow rfl
        refine ⟨.overflow overflow, j, ?_, ended, .inr ⟨overflow, rfl, full⟩⟩
        simp only [Interpreter.runFrom, Interpreter.isFinished, current, takes, bind, Except.bind]
        rfl
      · have unfinished : i.isFinished = false := by rw [Interpreter.isFinished, current, Option.isNone_some]
        have counted : steps + 1 + (left.erase id).card = steps + left.card := by omega
        have goes_on := ih (steps + 1) onward (by omega)
        rw [counted] at goes_on
        rwa [Interpreter.runFrom_succ unfinished takes fun overflow same => refusal ⟨overflow, same⟩]

/-- What was executed in an earlier step is never ahead. -/
theorem after_hasAhead (h : p.Linked openE openI) (loop_free : p.LoopFree) (world : World) (limit : Option Nat)
    (vars : Variables) (is_root : head ∈ p.rootInstructions ++ p.customInstructions) (n : Nat) :
    ∃ i, (Interpreter.begin limit vars (some head)).after p world n = .ok i ∧
      HasAhead p limit (fun x => ∀ m j, m < n → (Interpreter.begin limit vars (some head)).after p world m = .ok j →
        j.current ≠ some x) i := by
  refine Interpreter.after_invariant (fun n => HasAhead p limit fun x => ∀ m j, m < n →
    (Interpreter.begin limit vars (some head)).after p world m = .ok j → j.current ≠ some x) ?_ ?_ n
  · exact (hasAhead_begin h limit vars is_root).mono fun x _ m j impossible => absurd impossible (Nat.not_lt_zero m)
  · intro n i reached has
    obtain ⟨progress, j, steps, has', -⟩ := has.step h loop_free world
    refine ⟨progress, j, steps, has'.mono ?_⟩
    rintro x ⟨earlier, now⟩ m before below reached'
    rcases Nat.lt_succ_iff_lt_or_eq.mp below with earlier_still | rfl
    · exact earlier m before earlier_still reached'
    · rw [reached] at reached'
      cases reached'
      exact now

end Runs

/-- For every program that loads without a loop, and every thread that begins at a root. As long as a run may take as
    many steps as there are instructions, it ends: it is completed after no more steps than that, or a scope is
    refused for a limit that was set. In no two different steps is the same instruction executed. -/
theorem loop_free_ends {r : Registry} {root : Markup.Element} {p : Program} (loads : Document.load r root = .ok p)
    (loop_free : p.LoopFree) {head : InstructionId} (is_root : head ∈ p.rootInstructions ++ p.customInstructions)
    (world : World) (limit : Option Nat) (vars : Variables) :
    (∀ budget, p.instructions.size ≤ budget →
      ∃ outcome i, (Interpreter.begin limit vars (some head)).run p world budget = .ok (outcome, i) ∧ i.current = none ∧
        ((∃ steps ≤ p.instructions.size, outcome = .completed steps) ∨
          ∃ overflow, outcome = .overflow overflow ∧ limit = some overflow.limit)) ∧
    ∀ m n i j id, m < n → (Interpreter.begin limit vars (some head)).after p world m = .ok i → i.current = some id →
      (Interpreter.begin limit vars (some head)).after p world n = .ok j → j.current ≠ some id := by
  obtain ⟨tree, -, builds⟩ := Document.read_of_load loads
  have linked := builds.linked
  constructor
  · intro budget room
    have has : HasAhead p limit (· ∈ Finset.range p.instructions.size) (.begin limit vars (some head)) :=
      (hasAhead_begin linked limit vars is_root).mono fun _ inside => Finset.mem_range.mpr inside
    have fits : (Finset.range p.instructions.size).card ≤ budget := by rwa [Finset.card_range]
    have ends := runFrom_ends linked loop_free world 0 has fits
    rwa [Finset.card_range, Nat.zero_add] at ends
  · intro m n i j id earlier before at_i reached at_j
    obtain ⟨j', reached', has⟩ := after_hasAhead linked loop_free world limit vars is_root n
    rw [reached] at reached'
    cases reached'
    exact has.current at_j m i earlier before at_i

/-! ## A program without loops -/

/-- A branch holds a branch with a jump in it, and behind the outer one there is another jump. -/
def branchesWithJumps : Markup.Element :=
  let always : Markup.Element := ⟨"Constant", [("bool", "true")], []⟩
  ⟨"Program", [], [⟨"Instructions", [],
    [⟨"If", [], [always, ⟨"Instructions", [],
      [⟨"If", [], [always, ⟨"Instructions", [], [⟨"Continue", [], []⟩]⟩]⟩, ⟨"Log", [], []⟩]⟩]⟩,
     ⟨"Break", [], []⟩]⟩]⟩

/-- The same program, loaded: the outer branch is at 3, the inner one at 1, and `Break` at 4. -/
def branchesWithJumpsProgram : Program where
  name := ""
  expressions := #[⟨.constant (.bool true), []⟩, ⟨.constant (.bool true), []⟩]
  instructions := #[⟨.continueLoop, [], none, none⟩, ⟨.branch, [1], some 2, some 0⟩, ⟨.log, [], none, none⟩,
    ⟨.branch, [0], some 4, some 1⟩, ⟨.breakLoop, [], none, none⟩]
  rootInstructions := [3]

/-- Four of the five instructions are executed, none of them twice: `Continue` goes on with `Break`, which ends the
    thread. With a limit of one frame the inner branch is refused. -/
theorem loop_free_ends_of_branches : Document.load .full branchesWithJumps = .ok branchesWithJumpsProgram ∧
    branchesWithJumpsProgram.LoopFree ∧
    (∃ i, (Interpreter.begin none .empty (some 3)).run branchesWithJumpsProgram .empty 5 = .ok (.completed 4, i) ∧
      i.current = none) ∧
    (∃ i, (Interpreter.begin (some 1) .empty (some 3)).run branchesWithJumpsProgram .empty 5 = .ok (.overflow ⟨1⟩, i) ∧
      i.current = none) ∧
    ∃ i j, (Interpreter.begin none .empty (some 3)).after branchesWithJumpsProgram .empty 2 = .ok i ∧
      i.current = some 0 ∧ (Interpreter.begin none .empty (some 3)).after branchesWithJumpsProgram .empty 3 = .ok j ∧
      j.current ≠ some 0 := by
  have loads : Document.load .full branchesWithJumps = .ok branchesWithJumpsProgram := rfl
  have loop_free : branchesWithJumpsProgram.LoopFree := by
    simp [Program.LoopFree, branchesWithJumpsProgram]
  have root : 3 ∈ branchesWithJumpsProgram.rootInstructions ++ branchesWithJumpsProgram.customInstructions := by
    decide
  have free := loop_free_ends loads loop_free root .empty none .empty
  have limited := loop_free_ends loads loop_free root .empty (some 1) .empty
  refine ⟨loads, loop_free, ?_, ?_, _, _, rfl, rfl, rfl, ?_⟩
  · obtain ⟨outcome, i, runs, ended, -⟩ := free.1 5 (by decide)
    have counted : ((Interpreter.begin none .empty (some 3)).run branchesWithJumpsProgram .empty 5).map Prod.fst =
        .ok (.completed 4) := rfl
    rw [runs] at counted
    cases counted
    exact ⟨i, runs, ended⟩
  · obtain ⟨outcome, i, runs, ended, -⟩ := limited.1 5 (by decide)
    have refused : ((Interpreter.begin (some 1) .empty (some 3)).run branchesWithJumpsProgram .empty 5).map Prod.fst =
        .ok (.overflow ⟨1⟩) := rfl
    rw [runs] at refused
    cases refused
    exact ⟨i, runs, ended⟩
  · exact free.2 2 3 _ _ 0 (by decide) rfl rfl rfl

end FlightBlocks
