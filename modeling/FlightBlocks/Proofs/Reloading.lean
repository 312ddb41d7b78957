import FlightBlocks.Proofs.Saving
import FlightBlocks.Proofs.Walking

/-!
# Programs that were saved and loaded again

Saving gives the nodes of a program other positions and leaves out those that nothing leads to. The
program that is loaded from the saved text behaves like the one that was saved: its threads take the
same steps, log the same lines and end with the same variables, and its expressions have the same
values (`reload_alike`). Both programs show the same tree, and what a program does depends on the tree
it shows alone (`Program.alike_of_shows`).
-/

namespace FlightBlocks

/-! ## Programs that behave alike -/

/-- From two instructions two programs run alike: in any world, with any variables, under any limit and
    for any budget, runs end in the same way after as many steps, with the same lines logged, the same
    variables and as many frames left. -/
def RunAlike (p q : Program) (head head' : InstructionId) : Prop :=
  ∀ (world : World) (vars : Variables) (limit : Option Nat) (budget : Nat), ∃ outcome i j,
    (Interpreter.begin limit vars (some head)).run p world budget = .ok (outcome, i) ∧
    (Interpreter.begin limit vars (some head')).run q world budget = .ok (outcome, j) ∧
    i.thread.output = j.thread.output ∧ i.thread.variables = j.thread.variables ∧
    i.thread.stack.size = j.thread.stack.size

/-- Two expressions have the same value in any world and with any variables. -/
def EvaluateAlike (p q : Program) (id id' : ExpressionId) : Prop :=
  ∀ (world : World) (vars : Variables), ∃ value,
    p.evaluate world vars id = .ok value ∧ q.evaluate world vars id' = .ok value

/-- Two programs have as many roots of each kind, which behave alike in pairs. -/
structure Program.Alike (p q : Program) : Prop where
  threads : List.Forall₂ (RunAlike p q) p.rootInstructions q.rootInstructions
  expressions : List.Forall₂ (EvaluateAlike p q) p.rootExpressions q.rootExpressions
  customInstructions : List.Forall₂ (RunAlike p q) p.customInstructions q.customInstructions
  customExpressions : List.Forall₂ (EvaluateAlike p q) p.customExpressions q.customExpressions

namespace Program

variable {p q : Program}

theorem runAlike_of_holds {head head' : InstructionId} {chain : List InstructionTree}
    (holds : p.Holds (some head) chain) (holds' : q.Holds (some head') chain) : RunAlike p q head head' := by
  intro world vars limit budget
  obtain ⟨i, runs, represents⟩ := (represents_begin limit vars holds).runFrom world budget 0
  obtain ⟨j, runs', represents'⟩ := (represents_begin limit vars holds').runFrom world budget 0
  refine ⟨_, i, j, runs, runs', ?_, ?_, ?_⟩
  · rw [represents.thread.output, represents'.thread.output]
  · rw [represents.thread.vars, represents'.thread.vars]
  · have size := represents.thread.scopes.length_eq
    have size' := represents'.thread.scopes.length_eq
    exact size.trans size'.symm

theorem evaluateAlike_of_holds {id id' : ExpressionId} {tree : ExpressionTree} (holds : p.HoldsExpression id tree)
    (holds' : q.HoldsExpression id' tree) : EvaluateAlike p q id id' := by
  intro world vars
  exact ⟨tree.evaluate world vars, evaluate_holds world vars tree holds, evaluate_holds world vars tree holds'⟩

/-- What is paired with the same things is paired. -/
theorem forall₂_of_common {α β γ : Type} {R : α → γ → Prop} {S : β → γ → Prop} {T : α → β → Prop}
    (common : ∀ a b c, R a c → S b c → T a b) {as : List α} {bs : List β} {cs : List γ}
    (left : List.Forall₂ R as cs) (right : List.Forall₂ S bs cs) : List.Forall₂ T as bs := by
  induction left generalizing bs with
  | nil =>
    cases right
    exact .nil
  | cons first _ ih =>
    cases right with
    | cons second more => exact .cons (common _ _ _ first second) (ih more)

/-- What a program does is up to the tree it shows. -/
theorem alike_of_shows {t : ProgramTree} (shows : p.Shows t) (shows' : q.Shows t) : p.Alike q := by
  have run : ∀ head head' chain, p.Holds (some head) chain → q.Holds (some head') chain → RunAlike p q head head' :=
    fun _ _ _ => runAlike_of_holds
  have evaluate : ∀ id id' tree, p.HoldsExpression id tree → q.HoldsExpression id' tree → EvaluateAlike p q id id' :=
    fun _ _ _ => evaluateAlike_of_holds
  constructor
  · exact forall₂_of_common run shows.threads shows'.threads
  · exact forall₂_of_common evaluate shows.expressions shows'.expressions
  · exact forall₂_of_common run shows.customInstructions shows'.customInstructions
  · exact forall₂_of_common evaluate shows.customExpressions shows'.customExpressions

end Program

/-- A program that was loaded can be saved, what was saved can be loaded, and both programs behave
    alike. Numbers have to be written so that they read back. -/
theorem reload_alike {text : String} {p : Program} (loads : Document.parse .full text = .ok p)
    (numbers : p.NumbersReadBack) : ∃ saved q, Document.render .full p = .ok saved ∧
      Document.parse .full saved = .ok q ∧ p.Alike q := by
  obtain ⟨t, saved, q, shows, renders, parses, shows'⟩ := Document.parse_render Registry.full_faithful loads numbers
  exact ⟨saved, q, renders, parses, Program.alike_of_shows shows shows'⟩

/-- A program that logs a number, which is not written as it would be saved. -/
def loggingText : String :=
  "<Program><Instructions><Log><Constant number='1.50'/></Log></Instructions></Program>"

/-- The saved text is another one, and the program behaves as before. -/
theorem reload_alike_of_logging : ∃ p saved q, Document.parse .full loggingText = .ok p ∧
    Document.render .full p = .ok saved ∧ saved ≠ loggingText ∧ Document.parse .full saved = .ok q ∧ p.Alike q := by
  have checked : ((Document.parse .full loggingText).toOption.any fun p =>
      decide (p.NumbersReadBack ∧ (Document.render .full p).toOption ≠ some loggingText)) = true := by
    decide +kernel
  cases parses : Document.parse .full loggingText with
  | error e =>
    rw [parses] at checked
    cases checked
  | ok p =>
    rw [parses] at checked
    obtain ⟨numbers, changed⟩ := of_decide_eq_true checked
    obtain ⟨saved, q, renders, reparses, alike⟩ := reload_alike parses numbers
    refine ⟨p, saved, q, rfl, renders, ?_, reparses, alike⟩
    rintro rfl
    exact changed (by rw [renders]; rfl)

end FlightBlocks
