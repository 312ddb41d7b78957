import FlightBlocks.Proofs.Loading
import FlightBlocks.Proofs.Stepping
import Mathlib.Data.Finset.Card
import Mathlib.Data.Finset.Lattice.Fold
import Mathlib.Logic.Relation
import Mathlib.Order.Lattice.Nat

/-!
# Nesting

Which branches and loops an instruction stands in is decided by the links alone (`Encloses`). In a
program whose links are in order `Around` lists them, the innermost first, for every position that
can be reached from a root. Since no position is named twice, there is one such list for a position
(`Around.unique`), and no instruction is in its own (`Around.not_mem`).
-/

namespace FlightBlocks

namespace Program

/-! ## What stands in what -/

/-- One instruction comes right behind another in a chain. -/
def Follows (p : Program) (id next : InstructionId) : Prop :=
  ∃ slot, p.instructions[id]? = some slot ∧ slot.next = some next

/-- The body of a branch or a loop begins with an instruction. -/
def Begins (p : Program) (container first : InstructionId) : Prop :=
  ∃ slot, p.instructions[container]? = some slot ∧ slot.node.hasBody ∧ slot.body = some first

/-- An instruction stands in the chain that is the body of a branch or a loop. -/
def Contains (p : Program) (container id : InstructionId) : Prop :=
  ∃ first, p.Begins container first ∧ Relation.ReflTransGen p.Follows first id

/-- An instruction stands in the body of a branch or a loop, directly or within others. -/
def Encloses (p : Program) : InstructionId → InstructionId → Prop :=
  Relation.TransGen p.Contains

open Classical in
/-- The most branches and loops that enclose one instruction. -/
noncomputable def nestingDepth (p : Program) : Nat :=
  (Finset.range p.instructions.size).sup fun id =>
    ((Finset.range p.instructions.size).filter fun container => p.Encloses container id).card

/-- A position can be reached by links from a root, through the bodies of some containers, the
    innermost first. -/
inductive Around (p : Program) : InstructionId → List InstructionId → Prop where
  | root {id : InstructionId} (root : id ∈ p.rootInstructions ++ p.customInstructions) : Around p id []
  | next {id next : InstructionId} {containers : List InstructionId} (before : Around p id containers)
      (follows : p.Follows id next) : Around p next containers
  | body {id first : InstructionId} {containers : List InstructionId} (outside : Around p id containers)
      (begins : p.Begins id first) : Around p first (id :: containers)

/-- Where a container goes on behind its body: a loop with itself, a branch with what follows it. -/
def returnOf (p : Program) (id : InstructionId) : Option InstructionId :=
  p.instructions[id]?.bind fun slot => if slot.node = .loop then some id else slot.next

/-- The frame that a container leaves on the stack while its body runs. -/
def scopeFrame (p : Program) (container : InstructionId) : Frame :=
  p.frameTo (p.returnOf container)

section Links

variable {p : Program} {openE : List ExpressionId} {openI : List InstructionId}
  {id next first root container : InstructionId} {containers others : List InstructionId}

theorem not_contains_root (h : p.Linked openE openI) (is_root : root ∈ p.rootInstructions ++ p.customInstructions) :
    ¬ p.Contains container root := by
  rintro ⟨first, ⟨slot, at_container, -, has_body⟩, path⟩
  rcases path.cases_tail with rfl | ⟨before, -, other, at_before, has_next⟩
  · exact h.root_not_target is_root at_container (InstructionSlot.body_mem_targets has_body)
  · exact h.root_not_target is_root at_before (InstructionSlot.next_mem_targets has_next)

theorem contains_next (h : p.Linked openE openI) (follows : p.Follows id next) :
    p.Contains container next ↔ p.Contains container id := by
  obtain ⟨slot, at_id, has_next⟩ := follows
  have named := InstructionSlot.next_mem_targets has_next
  constructor
  · rintro ⟨first, begins, path⟩
    rcases path.cases_tail with rfl | ⟨before, path, other, at_before, has_next'⟩
    · obtain ⟨other, at_container, -, has_body⟩ := begins
      obtain rfl := h.source_unique at_id at_container named (InstructionSlot.body_mem_targets has_body)
      rw [at_id] at at_container
      cases at_container
      exact absurd has_body (h.next_ne_body at_id has_next)
    · obtain rfl := h.source_unique at_id at_before named (InstructionSlot.next_mem_targets has_next')
      exact ⟨first, begins, path⟩
  · rintro ⟨first, begins, path⟩
    exact ⟨first, begins, path.tail ⟨slot, at_id, has_next⟩⟩

theorem contains_first (h : p.Linked openE openI) (begins : p.Begins id first) :
    p.Contains container first ↔ container = id := by
  obtain ⟨slot, at_id, may, has_body⟩ := begins
  have named := InstructionSlot.body_mem_targets has_body
  constructor
  · rintro ⟨start, ⟨other, at_container, -, has_body'⟩, path⟩
    rcases path.cases_tail with rfl | ⟨before, -, last, at_before, has_next⟩
    · exact h.source_unique at_container at_id (InstructionSlot.body_mem_targets has_body') named
    · obtain rfl := h.source_unique at_id at_before named (InstructionSlot.next_mem_targets has_next)
      rw [at_id] at at_before
      cases at_before
      exact absurd has_body (h.next_ne_body at_id has_next)
  · rintro rfl
    exact ⟨first, ⟨slot, at_id, may, has_body⟩, .refl⟩

theorem not_encloses_root (h : p.Linked openE openI) (is_root : root ∈ p.rootInstructions ++ p.customInstructions) :
    ¬ p.Encloses container root := by
  intro encloses
  obtain ⟨direct, -, contains⟩ := Relation.TransGen.tail'_iff.mp encloses
  exact not_contains_root h is_root contains

theorem encloses_next (h : p.Linked openE openI) (follows : p.Follows id next) :
    p.Encloses container next ↔ p.Encloses container id := by
  simp only [Encloses, Relation.TransGen.tail'_iff, contains_next h follows]

theorem encloses_first (h : p.Linked openE openI) (begins : p.Begins id first) :
    p.Encloses container first ↔ container = id ∨ p.Encloses container id := by
  rw [Encloses, Relation.TransGen.tail'_iff]
  simp only [contains_first h begins, exists_eq_right, Relation.reflTransGen_iff_eq_or_transGen]
  rw [eq_comm]

namespace Around

theorem slot (h : p.Linked openE openI) (around : p.Around id containers) :
    ∃ slot, p.instructions[id]? = some slot := by
  cases around with
  | root root => exact h.slot_of_root root
  | next _ follows =>
    obtain ⟨slot, at_before, has_next⟩ := follows
    exact h.slot_of_target at_before (InstructionSlot.next_mem_targets has_next)
  | body _ begins =>
    obtain ⟨slot, at_container, -, has_body⟩ := begins
    exact h.slot_of_target at_container (InstructionSlot.body_mem_targets has_body)

theorem mem_iff (h : p.Linked openE openI) (around : p.Around id containers) :
    container ∈ containers ↔ p.Encloses container id := by
  induction around with
  | root is_root => simp [not_encloses_root h is_root]
  | next _ follows ih => rw [ih, encloses_next h follows]
  | body _ begins ih => rw [List.mem_cons, ih, encloses_first h begins]

/-- What is around an enclosing instruction is around those that it encloses. -/
theorem outer {inner rest : List InstructionId} (around : p.Around id (inner ++ container :: rest)) :
    p.Around container rest ∧ ∃ slot, p.instructions[container]? = some slot ∧ slot.node.hasBody := by
  generalize same : inner ++ container :: rest = all at around
  induction around generalizing inner with
  | root => simp at same
  | next _ _ ih => exact ih same
  | body outside begins ih =>
    cases inner with
    | nil =>
      cases same
      obtain ⟨slot, at_container, may, -⟩ := begins
      exact ⟨outside, slot, at_container, may⟩
    | cons id' inner =>
      cases same
      exact ih rfl

theorem of_mem (around : p.Around id containers) (member : container ∈ containers) :
    ∃ rest, p.Around container rest := by
  obtain ⟨inner, rest, rfl⟩ := List.append_of_mem member
  exact ⟨rest, around.outer.1⟩

theorem outside (around : p.Around id (container :: containers)) : p.Around container containers :=
  (outer (show p.Around id ([] ++ container :: containers) from around)).1

/-- No position has two lists of enclosing instructions. -/
theorem unique (h : p.Linked openE openI) (around : p.Around id containers) (also : p.Around id others) :
    containers = others := by
  induction around generalizing others with
  | root is_root =>
    cases also with
    | root => rfl
    | next _ follows =>
      obtain ⟨slot, at_before, has_next⟩ := follows
      exact absurd (InstructionSlot.next_mem_targets has_next) (h.root_not_target is_root at_before)
    | body _ begins =>
      obtain ⟨slot, at_container, -, has_body⟩ := begins
      exact absurd (InstructionSlot.body_mem_targets has_body) (h.root_not_target is_root at_container)
  | next before follows ih =>
    obtain ⟨slot, at_before, has_next⟩ := follows
    have named := InstructionSlot.next_mem_targets has_next
    cases also with
    | root is_root => exact absurd named (h.root_not_target is_root at_before)
    | next before' follows =>
      obtain ⟨slot', at_before', has_next'⟩ := follows
      obtain rfl := h.source_unique at_before at_before' named (InstructionSlot.next_mem_targets has_next')
      exact ih before'
    | body _ begins =>
      obtain ⟨slot', at_container, -, has_body⟩ := begins
      obtain rfl := h.source_unique at_before at_container named (InstructionSlot.body_mem_targets has_body)
      rw [at_before] at at_container
      cases at_container
      exact absurd has_body (h.next_ne_body at_before has_next)
  | body outside begins ih =>
    obtain ⟨slot, at_container, -, has_body⟩ := begins
    have named := InstructionSlot.body_mem_targets has_body
    cases also with
    | root is_root => exact absurd named (h.root_not_target is_root at_container)
    | next _ follows =>
      obtain ⟨slot', at_before, has_next⟩ := follows
      obtain rfl := h.source_unique at_container at_before named (InstructionSlot.next_mem_targets has_next)
      rw [at_container] at at_before
      cases at_before
      exact absurd has_body (h.next_ne_body at_container has_next)
    | body outside' begins =>
      obtain ⟨slot', at_container', -, has_body'⟩ := begins
      obtain rfl := h.source_unique at_container at_container' named (InstructionSlot.body_mem_targets has_body')
      rw [ih outside']

/-- No instruction encloses itself. -/
theorem not_mem (h : p.Linked openE openI) (around : p.Around id containers) : id ∉ containers := by
  intro member
  obtain ⟨inner, rest, rfl⟩ := List.append_of_mem member
  have same := congrArg List.length (around.outer.1.unique h around)
  simp only [List.length_append, List.length_cons] at same
  omega

theorem nodup (h : p.Linked openE openI) (around : p.Around id containers) : containers.Nodup := by
  induction around with
  | root => exact List.nodup_nil
  | next _ _ ih => exact ih
  | body outside _ ih => exact List.nodup_cons.mpr ⟨outside.not_mem h, ih⟩

theorem pairwise (h : p.Linked openE openI) (around : p.Around id containers) :
    containers.Pairwise fun inner outer => p.Encloses outer inner := by
  induction around with
  | root => exact .nil
  | next _ _ ih => exact ih
  | body outside _ ih => exact .cons (fun _ member => (outside.mem_iff h).mp member) ih

/-- The containers inside one of them are those between it and the position. -/
theorem mem_inner_iff {c : InstructionId} {inner rest : List InstructionId} (h : p.Linked openE openI)
    (around : p.Around id (inner ++ container :: rest)) :
    c ∈ inner ↔ p.Encloses container c ∧ p.Encloses c id := by
  have member : ∀ {c}, c ∈ inner ++ container :: rest ↔ p.Encloses c id := around.mem_iff h
  have outer := around.outer.1
  constructor
  · intro inside
    exact ⟨(List.pairwise_append.mp (around.pairwise h)).2.2 c inside container (by simp), member.mp (by simp [inside])⟩
  · rintro ⟨encloses, inside⟩
    have not_self : ¬ p.Encloses container container := fun self => outer.not_mem h ((outer.mem_iff h).mpr self)
    rcases List.mem_append.mp (member.mpr inside) with within | others
    · exact within
    · rcases List.mem_cons.mp others with rfl | further
      · exact absurd encloses not_self
      · exact absurd (encloses.trans ((outer.mem_iff h).mp further)) not_self

theorem length_le (h : p.Linked openE openI) (around : p.Around id containers) :
    containers.length ≤ p.nestingDepth := by
  classical
  have inside : ∀ {i : InstructionId} {is}, p.Around i is → i ∈ Finset.range p.instructions.size := by
    intro i is around
    obtain ⟨slot, at_i⟩ := around.slot h
    exact Finset.mem_range.mpr (Array.getElem?_eq_some_iff.mp at_i).1
  have subset : containers.toFinset ⊆
      (Finset.range p.instructions.size).filter fun container => p.Encloses container id := by
    intro container member
    have member := List.mem_toFinset.mp member
    obtain ⟨rest, outer⟩ := around.of_mem member
    exact Finset.mem_filter.mpr ⟨inside outer, (around.mem_iff h).mp member⟩
  calc containers.length = containers.toFinset.card := (List.toFinset_card_of_nodup (around.nodup h)).symm
    _ ≤ _ := Finset.card_le_card subset
    _ ≤ p.nestingDepth := by
      unfold nestingDepth
      convert Finset.le_sup (f := fun id => ((Finset.range p.instructions.size).filter fun container =>
        p.Encloses container id).card) (inside around)

/-- A container goes on within what is around it. -/
theorem returns {target : InstructionId} (around : p.Around id containers) (returns : p.returnOf id = some target) :
    p.Around target containers := by
  unfold returnOf at returns
  obtain ⟨slot, at_id, target_eq⟩ := Option.bind_eq_some_iff.mp returns
  split at target_eq
  · cases target_eq
    exact around
  · exact around.next ⟨slot, at_id, target_eq⟩

end Around

end Links

end Program

end FlightBlocks
