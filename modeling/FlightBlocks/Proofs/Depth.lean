import FlightBlocks.Program
import Mathlib.Data.Fin.Pigeonhole

/-!
# Recursion along links

Links may run in a circle, so what follows them is computed up to a depth and cut short beyond it. It need not go
deeper than there are positions: below a position that takes longer there is one for each shorter depth
(`ByDepth.EndsAfter.shorter`), and there are not that many. What ends at any depth ends there with the same
(`ByDepth.eq_of_ends`).
-/

namespace FlightBlocks

/-! ## Computations that are cut short -/

section Cut

variable {ε α β : Type} {cut : ε}

/-- Where the first part of a computation ends as before unless it was cut short, and so does the rest, the
    whole ends as before unless it was cut short. -/
theorem bind_eq_of_ne {first other : Except ε α} {rest more : α → Except ε β}
    (same_first : first ≠ .error cut → other = first)
    (same_rest : ∀ a, rest a ≠ .error cut → more a = rest a) (ends : first >>= rest ≠ .error cut) :
    other >>= more = first >>= rest := by
  cases first with
  | error e =>
    have uncut : (Except.error e : Except ε α) ≠ .error cut := fun same => ends (by cases same; rfl)
    rw [same_first uncut]
    rfl
  | ok a =>
    rw [same_first (by simp)]
    exact same_rest a ends

theorem findSomeM?_eq_of_ne {f g : α → Except ε (Option β)} {xs : List α}
    (same : ∀ x ∈ xs, f x ≠ .error cut → g x = f x) (ends : xs.findSomeM? f ≠ .error cut) :
    xs.findSomeM? g = xs.findSomeM? f := by
  induction xs with
  | nil => rfl
  | cons x rest ih =>
    obtain ⟨first, others⟩ := List.forall_mem_cons.mp same
    rw [List.findSomeM?] at ends
    rw [List.findSomeM?, List.findSomeM?]
    refine bind_eq_of_ne first (fun found more => ?_) ends
    cases found with
    | some found => rfl
    | none => exact ih others more

end Cut

/-! ## How deep to go -/

/-- What is computed at a position up to a depth depends on what is computed below it one link less deep. Only
    positions of a table with so many entries have others below them. -/
structure ByDepth {α : Type} (f : (depth id : Nat) → Except BrokenLink α) (below : Nat → List Nat) (size : Nat) :
    Prop where
  zero (id : Nat) : f 0 id = .error .endless
  succ {depth more id : Nat} (same : ∀ child ∈ below id, f depth child ≠ .error .endless → f more child = f depth child)
    (ends : f (depth + 1) id ≠ .error .endless) : f (more + 1) id = f (depth + 1) id
  outside {depth id : Nat} (beyond : size ≤ id) : f (depth + 1) id ≠ .error .endless

namespace ByDepth

variable {α : Type} {f : (depth id : Nat) → Except BrokenLink α} {below : Nat → List Nat} {size depth id : Nat}

/-- What was not cut short stays the same when more depth is allowed. -/
theorem longer (along : ByDepth f below size) (ends : f depth id ≠ .error .endless) :
    ∀ {more : Nat}, depth ≤ more → f more id = f depth id := by
  induction depth generalizing id with
  | zero => exact absurd (along.zero id) ends
  | succ depth ih =>
    intro more enough
    obtain ⟨more, rfl⟩ := Nat.exists_eq_add_one_of_ne_zero (Nat.ne_of_gt (Nat.lt_of_lt_of_le depth.succ_pos enough))
    exact along.succ (fun child _ ends => ih ends (Nat.le_of_succ_le_succ enough)) ends

/-- At a position the computation is cut short at a depth, and no more above it. -/
structure EndsAfter (f : (depth id : Nat) → Except BrokenLink α) (depth id : Nat) : Prop where
  cut : f depth id = .error .endless
  ends : f (depth + 1) id ≠ .error .endless

/-- There is only one such depth. -/
theorem EndsAfter.unique {other : Nat} (along : ByDepth f below size) (one : EndsAfter f depth id)
    (two : EndsAfter f other id) : depth = other := by
  rcases Nat.lt_trichotomy depth other with less | same | less
  · exact absurd ((along.longer one.ends less).symm.trans two.cut) one.ends
  · exact same
  · exact absurd ((along.longer two.ends less).symm.trans one.cut) two.ends

/-- A position that takes longer has a place in the table, and one below it that takes one link less. -/
theorem EndsAfter.child (along : ByDepth f below size) (long : EndsAfter f (depth + 1) id) :
    id < size ∧ ∃ child, EndsAfter f depth child := by
  constructor
  · by_contra beyond
    exact along.outside (Nat.le_of_not_lt beyond) long.cut
  · by_contra none_below
    -- nothing below is cut short one link earlier, so the position itself would not be either
    have same : ∀ child ∈ below id, f (depth + 1) child ≠ .error .endless → f depth child = f (depth + 1) child := by
      intro child _ ends
      by_cases cut : f depth child = .error .endless
      · exact absurd ⟨child, cut, ends⟩ none_below
      · exact (along.longer cut depth.le_succ).symm
    exact long.ends ((along.succ same long.ends).symm.trans long.cut)

/-- Below a position that takes long there is one for each shorter depth. -/
theorem EndsAfter.shorter {n : Nat} (along : ByDepth f below size) (long : EndsAfter f depth id) (le : n ≤ depth) :
    ∃ id, EndsAfter f n id := by
  induction depth generalizing id with
  | zero =>
    obtain rfl : n = 0 := Nat.le_zero.mp le
    exact ⟨id, long⟩
  | succ depth ih =>
    rcases Nat.le_succ_iff.mp le with less | rfl
    · obtain ⟨-, child, shorter⟩ := long.child along
      exact ih shorter less
    · exact ⟨id, long⟩

/-- No position takes longer than there are positions. -/
theorem not_endsAfter (along : ByDepth f below size) (enough : size < depth) : ¬EndsAfter f depth id := by
  intro long
  have lower : ∀ n : Fin (size + 1), ∃ id : Fin size, EndsAfter f (n + 1) id := by
    intro n
    obtain ⟨id, takes⟩ := long.shorter along (Nat.succ_le_of_lt (Nat.lt_of_lt_of_le n.isLt enough))
    exact ⟨⟨id, (takes.child along).1⟩, takes⟩
  choose place takes using lower
  have distinct : Function.Injective place := by
    intro m n same
    have depths : (m : Nat) + 1 = n + 1 := (takes m).unique along (same ▸ takes n)
    exact Fin.ext (Nat.succ.inj depths)
  exact absurd (Fin.le_of_injective place distinct) (Nat.not_succ_le_self _)

/-- Between a depth at which a computation is cut short and one at which it ends it does so for the first time. -/
theorem exists_endsAfter (along : ByDepth f below size) {n : Nat} (cut : f n id = .error .endless)
    (ends : f depth id ≠ .error .endless) : ∃ last, n ≤ last ∧ EndsAfter f last id := by
  induction depth with
  | zero => exact absurd (along.zero id) ends
  | succ depth ih =>
    by_cases earlier : f depth id = .error .endless
    · refine ⟨depth, ?_, earlier, ends⟩
      by_contra less
      exact ends ((along.longer ends (Nat.lt_of_not_le less)).symm.trans cut)
    · exact ih earlier

/-- What ends at any depth ends with the same at one more than there are positions. -/
theorem eq_of_ends (along : ByDepth f below size) (ends : f depth id ≠ .error .endless) :
    f (size + 1) id = f depth id := by
  by_cases cut : f (size + 1) id = .error .endless
  · obtain ⟨last, deep, long⟩ := along.exists_endsAfter cut ends
    exact absurd long (along.not_endsAfter deep)
  · rcases Nat.le_total depth (size + 1) with enough | enough
    · exact along.longer ends enough
    · exact (along.longer cut enough).symm

/-- To go deeper than there are positions makes no difference. -/
theorem eq_deeper (along : ByDepth f below size) (enough : size < depth) : f depth id = f (size + 1) id := by
  by_cases cut : f depth id = .error .endless
  · by_cases ends : f (size + 1) id = .error .endless
    · rw [cut, ends]
    · exact along.longer ends enough
  · exact (along.eq_of_ends cut).symm

end ByDepth

/-- The positions right below an expression. -/
def Program.childrenOf (p : Program) (id : ExpressionId) : List ExpressionId :=
  p.expressions[id]?.elim [] (·.children)

theorem Program.childrenOf_eq {p : Program} {id : ExpressionId} {slot : ExpressionSlot}
    (at_id : p.expressions[id]? = some slot) : p.childrenOf id = slot.children := by
  rw [childrenOf, at_id, Option.elim_some]

end FlightBlocks
