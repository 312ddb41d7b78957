import FlightBlocks.Proofs.DepthLimit

/-!
# Runs under a budget of steps

A run takes steps while the thread is unfinished, no step fails and the budget lasts. Each of these can end it,
and how a run ends tells which one it was and after how many steps (`run_within_budget`). A run that was stopped
by its budget has lost nothing: going on with another budget is the same as having had both at the beginning.
-/

namespace FlightBlocks

/-- The same outcome when some steps had been taken before. -/
def Outcome.later (before : Nat) : Outcome → Outcome
  | .completed steps => .completed (before + steps)
  | .stepLimit steps => .stepLimit (before + steps)
  | .overflow o => .overflow o

namespace Interpreter

variable {p : Program} {world : World} {i j k : Interpreter} {n : Nat}

/-- A number of steps, each of an unfinished thread and none of them a failure. -/
inductive Steps (p : Program) (world : World) : Nat → Interpreter → Interpreter → Prop
  | zero (i : Interpreter) : Steps p world 0 i i
  | succ {n : Nat} {i j k : Interpreter} {progress : Progress} (unfinished : i.isFinished = false)
      (goes : i.step p world = .ok (progress, j)) (no_overflow : ∀ o, progress ≠ .overflow o)
      (rest : Steps p world n j k) : Steps p world (n + 1) i k

/-- What a run comes to that takes no further step without failing, from its last thread, the budget that is
    left and the steps that were taken. -/
inductive Ends (p : Program) (world : World) (j : Interpreter) (steps : Nat) :
    Nat → Except BrokenLink (Outcome × Interpreter) → Prop
  | completed {left : Nat} (finished : j.isFinished = true) : Ends p world j steps left (.ok (.completed steps, j))
  | stepLimit (unfinished : j.isFinished = false) : Ends p world j steps 0 (.ok (.stepLimit steps, j))
  | overflow {left : Nat} {o : StackOverflow} {k : Interpreter} (unfinished : j.isFinished = false)
      (refused : j.step p world = .ok (.overflow o, k)) : Ends p world j steps (left + 1) (.ok (.overflow o, k))
  | breaks {left : Nat} {e : BrokenLink} (unfinished : j.isFinished = false) (breaks : j.step p world = .error e) :
      Ends p world j steps (left + 1) (.error e)

theorem Ends.runFrom_eq {left steps : Nat} {result : Except BrokenLink (Outcome × Interpreter)}
    (ends : Ends p world j steps left result) : runFrom p world left steps j = result := by
  cases ends with
  | completed finished => cases left <;> simp [runFrom, finished]
  | stepLimit unfinished => simp [runFrom, unfinished]
  | overflow unfinished refused => simp [runFrom, unfinished, refused, bind, Except.bind, pure, Except.pure]
  | breaks unfinished breaks => simp [runFrom, unfinished, breaks, bind, Except.bind]

/-- Steps use up as much of the budget. -/
theorem Steps.runFrom_eq (steps : Steps p world n i j) (left taken : Nat) :
    runFrom p world (n + left) taken i = runFrom p world left (taken + n) j := by
  induction steps generalizing taken with
  | zero i => rw [Nat.zero_add, Nat.add_zero]
  | succ unfinished goes no_overflow rest ih =>
    rw [Nat.succ_add, runFrom_succ unfinished goes no_overflow, ih, Nat.add_right_comm, Nat.add_assoc]

/-- Every run takes some steps and then ends. -/
theorem exists_ends (p : Program) (world : World) (budget taken : Nat) (i : Interpreter) :
    ∃ n left j, budget = n + left ∧ Steps p world n i j ∧
      Ends p world j (taken + n) left (runFrom p world budget taken i) := by
  induction budget generalizing i taken with
  | zero =>
    refine ⟨0, 0, i, rfl, .zero i, ?_⟩
    by_cases finished : i.isFinished
    · simpa [runFrom, finished] using Ends.completed finished
    · simpa [runFrom, finished] using Ends.stepLimit (Bool.not_eq_true _ ▸ finished)
  | succ budget ih =>
    have stays : ∀ result, Ends p world i taken (budget + 1) result → ∃ n left j, budget + 1 = n + left ∧
        Steps p world n i j ∧ Ends p world j (taken + n) left (runFrom p world (budget + 1) taken i) :=
      fun result ends => ⟨0, budget + 1, i, (Nat.zero_add _).symm, .zero i, ends.runFrom_eq.symm ▸ ends⟩
    by_cases finished : i.isFinished
    · exact stays _ (.completed finished)
    have unfinished : i.isFinished = false := Bool.not_eq_true _ ▸ finished
    cases result : i.step p world with
    | error e => exact stays _ (.breaks unfinished result)
    | ok reached =>
      obtain ⟨progress, next⟩ := reached
      have goes_on : (∀ o, progress ≠ .overflow o) → ∃ n left j, budget + 1 = n + left ∧ Steps p world n i j ∧
          Ends p world j (taken + n) left (runFrom p world (budget + 1) taken i) := by
        intro no_overflow
        obtain ⟨n, left, j, same, steps, ends⟩ := ih (taken + 1) next
        refine ⟨n + 1, left, j, by omega, .succ unfinished result no_overflow steps, ?_⟩
        rw [runFrom_succ unfinished result no_overflow, Nat.add_comm n, ← Nat.add_assoc]
        exact ends
      cases progress with
      | running => exact goes_on (by simp)
      | finished => exact goes_on (by simp)
      | overflow o => exact stays _ (.overflow unfinished result)

/-- What a run comes to is what it ends with after its steps. -/
theorem run_eq_iff {budget : Nat} {result : Except BrokenLink (Outcome × Interpreter)} :
    i.run p world budget = result ↔
      ∃ n left j, budget = n + left ∧ Steps p world n i j ∧ Ends p world j n left result := by
  constructor
  · rintro rfl
    obtain ⟨n, left, j, same, steps, ends⟩ := exists_ends p world budget 0 i
    rw [Nat.zero_add] at ends
    exact ⟨n, left, j, same, steps, ends⟩
  · rintro ⟨n, left, j, rfl, steps, ends⟩
    rw [run, steps.runFrom_eq, Nat.zero_add, ends.runFrom_eq]

/-- Steps that were taken before only add to the count. -/
theorem Ends.later {left steps : Nat} {result : Except BrokenLink (Outcome × Interpreter)} (before : Nat)
    (ends : Ends p world j steps left result) : Ends p world j (before + steps) left
      (result.map fun (outcome, last) => (outcome.later before, last)) := by
  cases ends with
  | completed finished => exact .completed finished
  | stepLimit unfinished => exact .stepLimit unfinished
  | overflow unfinished refused => exact .overflow unfinished refused
  | breaks unfinished breaks => exact .breaks unfinished breaks

theorem runFrom_later (before budget taken : Nat) (i : Interpreter) :
    runFrom p world budget (before + taken) i =
      (runFrom p world budget taken i).map fun (outcome, last) => (outcome.later before, last) := by
  obtain ⟨n, left, j, rfl, steps, ends⟩ := exists_ends p world budget taken i
  rw [steps.runFrom_eq left (before + taken), Nat.add_assoc]
  exact (ends.later before).runFrom_eq

/-- A run that was stopped goes on as the run with both budgets does. -/
theorem run_add {m n taken : Nat} (stops : i.run p world m = .ok (.stepLimit taken, j)) :
    i.run p world (m + n) = (j.run p world n).map fun (outcome, last) => (outcome.later m, last) := by
  obtain ⟨m, left, _, rfl, steps, ends⟩ := run_eq_iff.mp stops
  cases ends with
  | stepLimit unfinished =>
    rw [run, Nat.add_zero, steps.runFrom_eq, Nat.add_comm 0 taken]
    exact runFrom_later taken n 0 j

end Interpreter

open Interpreter in
/-- A run is completed after a number of steps within the budget exactly when the thread takes them and is finished
    then; it is stopped exactly when the thread takes as many steps as the budget has and is not finished; and it
    fails exactly as the first step that fails, if that is within the budget. A run that was stopped goes on with
    another budget as the single run with both does, apart from the number of steps, which counts those before. -/
theorem run_within_budget (p : Program) (world : World) (i : Interpreter) :
    (∀ budget n j, i.run p world budget = .ok (.completed n, j) ↔
      n ≤ budget ∧ Steps p world n i j ∧ j.isFinished = true) ∧
    (∀ budget n j, i.run p world budget = .ok (.stepLimit n, j) ↔
      n = budget ∧ Steps p world n i j ∧ j.isFinished = false) ∧
    (∀ budget o k, i.run p world budget = .ok (.overflow o, k) ↔ ∃ n < budget, ∃ j, Steps p world n i j ∧
      j.isFinished = false ∧ j.step p world = .ok (.overflow o, k)) ∧
    (∀ budget e, i.run p world budget = .error e ↔ ∃ n < budget, ∃ j, Steps p world n i j ∧
      j.isFinished = false ∧ j.step p world = .error e) ∧
    ∀ m n taken j, i.run p world m = .ok (.stepLimit taken, j) →
      i.run p world (m + n) = (j.run p world n).map fun (outcome, last) => (outcome.later m, last) := by
  refine ⟨fun budget n j => ?_, fun budget n j => ?_, fun budget o k => ?_, fun budget e => ?_,
    fun m n taken j stops => run_add stops⟩
  all_goals rw [run_eq_iff]; constructor
  · rintro ⟨_, left, _, rfl, steps, ends⟩
    cases ends with
    | completed finished => exact ⟨Nat.le_add_right _ _, steps, finished⟩
  · rintro ⟨within, steps, finished⟩
    exact ⟨n, budget - n, j, (Nat.add_sub_cancel' within).symm, steps, .completed finished⟩
  · rintro ⟨_, left, _, rfl, steps, ends⟩
    cases ends with
    | stepLimit unfinished => exact ⟨rfl, steps, unfinished⟩
  · rintro ⟨rfl, steps, unfinished⟩
    exact ⟨n, 0, j, rfl, steps, .stepLimit unfinished⟩
  · rintro ⟨n, left, j, rfl, steps, ends⟩
    cases ends with
    | overflow unfinished refused => exact ⟨n, by omega, j, steps, unfinished, refused⟩
  · rintro ⟨n, within, j, steps, unfinished, refused⟩
    obtain ⟨left, rfl⟩ := Nat.exists_eq_add_of_lt within
    exact ⟨n, left + 1, j, rfl, steps, .overflow unfinished refused⟩
  · rintro ⟨n, left, j, rfl, steps, ends⟩
    cases ends with
    | breaks unfinished breaks => exact ⟨n, by omega, j, steps, unfinished, breaks⟩
  · rintro ⟨n, within, j, steps, unfinished, breaks⟩
    obtain ⟨left, rfl⟩ := Nat.exists_eq_add_of_lt within
    exact ⟨n, left + 1, j, rfl, steps, .breaks unfinished breaks⟩

/-- A branch around a line of output, and another line behind it. -/
def branchBeforeLine : Program where
  name := "branch"
  expressions := #[⟨.constant (.bool true), []⟩]
  instructions := #[⟨.log, [0], none, none⟩, ⟨.branch, [0], some 2, some 0⟩, ⟨.log, [0], none, none⟩]
  rootInstructions := [1]

open Interpreter in
/-- Stopped inside the branch, a run is completed by one step more, and not by none. With room for no frame it is
    the first step that fails. -/
theorem run_within_budget_of_branch :
    ∃ j, (begin none .empty (some 1)).run branchBeforeLine .empty 2 = .ok (.stepLimit 2, j) ∧
      j.thread.output = #["true"] ∧
      (begin none .empty (some 1)).run branchBeforeLine .empty (2 + 0) = .ok (.stepLimit 2, j) ∧
      (∃ k, (begin none .empty (some 1)).run branchBeforeLine .empty (2 + 1) = .ok (.completed 3, k) ∧
        k.thread.output = #["true", "true"]) ∧
      ∃ k, (begin (some 0) .empty (some 1)).run branchBeforeLine .empty 1 = .ok (.overflow ⟨0⟩, k) := by
  obtain ⟨-, -, -, -, goes_on⟩ := run_within_budget branchBeforeLine .empty (begin none .empty (some 1))
  obtain ⟨-, -, refused, -⟩ := run_within_budget branchBeforeLine .empty (begin (some 0) .empty (some 1))
  refine ⟨_, rfl, rfl, goes_on 2 0 2 _ rfl, ⟨_, goes_on 2 1 2 _ rfl, rfl⟩, ?_⟩
  exact ⟨_, (refused 1 ⟨0⟩ _).mpr ⟨0, by decide, _, .zero _, rfl, rfl⟩⟩

end FlightBlocks
