import FlightBlocks.Proofs.Growth
import Mathlib.Logic.Relation

/-!
# What links lead to

`Program.Reaches` says that links lead from one of some positions to another. What was added behind the
nodes of a program changes none of their links (`Program.Keeps.link`, `Program.Keeps.link_before`). Linking
a row of instructions keeps all links, adds some among the row, and makes its first instruction lead to all
others (`Program.withChain_link`, `Program.link_withChain`, `Program.withChain_reaches`).
-/

namespace FlightBlocks

/-- A position in one of the tables of a program. -/
inductive Position where
  | expression (id : ExpressionId)
  | instruction (id : InstructionId)

namespace Program

/-- A position leads to another by a link. -/
inductive Link (p : Program) : Position → Position → Prop where
  | child {id child : ExpressionId} {slot : ExpressionSlot} (at_id : p.expressions[id]? = some slot)
      (member : child ∈ slot.children) : Link p (.expression id) (.expression child)
  | argument {id : InstructionId} {argument : ExpressionId} {slot : InstructionSlot}
      (at_id : p.instructions[id]? = some slot) (member : argument ∈ slot.expressions) :
      Link p (.instruction id) (.expression argument)
  | next {id next : InstructionId} {slot : InstructionSlot} (at_id : p.instructions[id]? = some slot)
      (follows : slot.next = some next) : Link p (.instruction id) (.instruction next)
  | body {id first : InstructionId} {slot : InstructionSlot} (at_id : p.instructions[id]? = some slot)
      (begins : slot.body = some first) : Link p (.instruction id) (.instruction first)

/-- Links lead from one of some positions to another. -/
def Reaches (p : Program) (heads : List Position) (x : Position) : Prop :=
  ∃ head ∈ heads, Relation.ReflTransGen p.Link head x

/-- The positions that a program begins at. -/
def roots (p : Program) : List Position :=
  p.rootInstructions.map .instruction ++ p.rootExpressions.map .expression ++
    p.customInstructions.map .instruction ++ p.customExpressions.map .expression

/-- The nodes of a table, in order. -/
def expressionNodes (p : Program) : List ExpressionNode := p.expressions.toList.map (·.node)

def instructionNodes (p : Program) : List InstructionNode := p.instructions.toList.map (·.node)

/-- One of the tables has the position. -/
def HasPosition (p : Program) : Position → Prop
  | .expression id => id < p.expressions.size
  | .instruction id => id < p.instructions.size

variable {p q s : Program} {x y : Position} {heads more : List Position}

theorem Reaches.mono (reaches : p.Reaches heads x) (links : ∀ x y, p.Link x y → q.Link x y)
    (sub : ∀ head ∈ heads, q.Reaches more head) : q.Reaches more x := by
  obtain ⟨head, member, path⟩ := reaches
  obtain ⟨start, from_start, before⟩ := sub head member
  exact ⟨start, from_start, before.trans (Relation.ReflTransGen.mono links _ _ path)⟩

theorem Reaches.of_mem (member : x ∈ heads) : p.Reaches heads x := ⟨x, member, .refl⟩

/-- What contains the heads and is closed under links contains all that is reached. -/
theorem Reaches.mem_of_closed {closed : Position → Prop} (reaches : p.Reaches heads x)
    (begins : ∀ head ∈ heads, closed head) (links : ∀ x y, closed x → p.Link x y → closed y) : closed x := by
  obtain ⟨head, member, path⟩ := reaches
  induction path with
  | refl => exact begins head member
  | tail _ link ih => exact links _ _ ih link

/-! ## Links that stay -/

theorem Keeps.trans (first : p.Keeps q) (second : q.Keeps s) : p.Keeps s where
  expression h := second.expression (first.expression h)
  instruction inside :=
    (second.instruction (Nat.lt_of_lt_of_le inside first.size_le)).trans (first.instruction inside)
  size_le := Nat.le_trans first.size_le second.size_le

theorem Keeps.instruction_some (keeps : p.Keeps q) {id : InstructionId} {slot : InstructionSlot}
    (at_id : p.instructions[id]? = some slot) : q.instructions[id]? = some slot :=
  (keeps.instruction (Array.getElem?_eq_some_iff.mp at_id).1).trans at_id

theorem Keeps.link (keeps : p.Keeps q) (link : p.Link x y) : q.Link x y := by
  cases link with
  | child at_id member => exact .child (keeps.expression at_id) member
  | argument at_id member => exact .argument (keeps.instruction_some at_id) member
  | next at_id follows => exact .next (keeps.instruction_some at_id) follows
  | body at_id begins => exact .body (keeps.instruction_some at_id) begins

/-- A position that was there before has no other links than it had. -/
theorem Keeps.link_before (keeps : p.Keeps q) (inside : p.HasPosition x) (link : q.Link x y) : p.Link x y := by
  cases link with
  | @child id _ slot at_id member =>
    have was : p.expressions[id]? = some p.expressions[id] := Array.getElem?_eq_getElem inside
    obtain rfl : _ = slot := Option.some.inj ((keeps.expression was).symm.trans at_id)
    exact .child was member
  | argument at_id member => exact .argument ((keeps.instruction inside).symm.trans at_id) member
  | next at_id follows => exact .next ((keeps.instruction inside).symm.trans at_id) follows
  | body at_id begins => exact .body ((keeps.instruction inside).symm.trans at_id) begins

/-! ## Linking a row -/

/-- Different instructions that nothing follows yet. -/
structure Unlinked (p : Program) (ids : List InstructionId) : Prop where
  nodup : ids.Nodup
  open_end : ∀ id ∈ ids, ∃ slot, p.instructions[id]? = some slot ∧ slot.next = none

theorem HoldsRow.unlinked {low high : Nat} {ids : List InstructionId} {trees : List InstructionTree}
    (row : p.HoldsRow low high ids trees) : p.Unlinked ids where
  nodup := row.ascending.1.imp Nat.ne_of_lt
  open_end := by
    induction trees generalizing low ids with
    | nil =>
      cases row
      simp
    | cons tree rest ih =>
      obtain ⟨id, others, rfl, -, -, first, more⟩ := row
      obtain ⟨node, expressions, body⟩ := tree
      obtain ⟨_, _, at_id, -⟩ := first
      exact List.forall_mem_cons.mpr ⟨⟨_, at_id, rfl⟩, ih more⟩

theorem withNext_at {id : InstructionId} {slot : InstructionSlot} (next : Option InstructionId)
    (at_id : p.instructions[id]? = some slot) :
    (p.withNext id next).instructions[id]? = some { slot with next } := by
  simp [withNext, Array.getElem?_modify, at_id]

/-- Where nothing followed, no link is lost. -/
theorem withNext_link {id : InstructionId} (next : Option InstructionId)
    (open_end : ∃ slot, p.instructions[id]? = some slot ∧ slot.next = none) (link : p.Link x y) :
    (p.withNext id next).Link x y := by
  obtain ⟨slot, at_id, last⟩ := open_end
  have kept : ∀ {i : InstructionId} {found : InstructionSlot}, p.instructions[i]? = some found →
      ∃ now, (p.withNext id next).instructions[i]? = some now ∧ now.expressions = found.expressions ∧
        now.body = found.body ∧ (∀ n, found.next = some n → now.next = some n) := by
    intro i found at_i
    by_cases same : i = id
    · subst same
      obtain rfl : slot = found := Option.some.inj (at_id.symm.trans at_i)
      exact ⟨_, withNext_at next at_id, rfl, rfl, by simp [last]⟩
    · exact ⟨found, (withNext_other p id next same).trans at_i, rfl, rfl, fun _ h => h⟩
  cases link with
  | child at_i member => exact .child at_i member
  | argument at_i member =>
    obtain ⟨now, at_now, expressions, -⟩ := kept at_i
    exact .argument at_now (expressions ▸ member)
  | next at_i follows =>
    obtain ⟨now, at_now, -, -, still⟩ := kept at_i
    exact .next at_now (still _ follows)
  | body at_i begins =>
    obtain ⟨now, at_now, -, body, -⟩ := kept at_i
    exact .body at_now (body.trans begins)

/-- No link is new but the one that was added. -/
theorem link_withNext {id next : InstructionId} (link : (p.withNext id (some next)).Link x y) :
    p.Link x y ∨ y = .instruction next := by
  have was : ∀ {i : InstructionId} {now : InstructionSlot}, (p.withNext id (some next)).instructions[i]? = some now →
      ∃ found, p.instructions[i]? = some found ∧ now.expressions = found.expressions ∧ now.body = found.body ∧
        (now.next = found.next ∨ now.next = some next) := by
    intro i now at_i
    simp only [withNext, Array.getElem?_modify] at at_i
    split at at_i
    · obtain ⟨found, at_found, rfl⟩ := Option.map_eq_some_iff.mp at_i
      exact ⟨found, at_found, rfl, rfl, .inr rfl⟩
    · exact ⟨now, at_i, rfl, rfl, .inl rfl⟩
  cases link with
  | child at_i member => exact .inl (.child at_i member)
  | argument at_i member =>
    obtain ⟨found, at_found, expressions, -⟩ := was at_i
    exact .inl (.argument at_found (expressions ▸ member))
  | next at_i follows =>
    obtain ⟨found, at_found, -, -, before | added⟩ := was at_i
    · exact .inl (.next at_found (before ▸ follows))
    · rw [added] at follows
      cases follows
      exact .inr rfl
  | body at_i begins =>
    obtain ⟨found, at_found, -, body, -⟩ := was at_i
    exact .inl (.body at_found (body ▸ begins))

theorem Unlinked.withNext {first second : InstructionId} {rest : List InstructionId}
    (h : p.Unlinked (first :: second :: rest)) : (p.withNext first (some second)).Unlinked (second :: rest) where
  nodup := (List.nodup_cons.mp h.nodup).2
  open_end := by
    intro id member
    have other : id ≠ first := by
      rintro rfl
      exact (List.nodup_cons.mp h.nodup).1 member
    obtain ⟨slot, at_id, last⟩ := h.open_end id (List.mem_cons_of_mem _ member)
    exact ⟨slot, (withNext_other p first _ other).trans at_id, last⟩

theorem withChain_link {ids : List InstructionId} (h : p.Unlinked ids) (link : p.Link x y) :
    (p.withChain ids).Link x y := by
  fun_induction withChain p ids with
  | case1 p first second rest ih => exact ih h.withNext (withNext_link _ (h.open_end first (by simp)) link)
  | case2 => exact link

theorem link_withChain {ids : List InstructionId} (link : (p.withChain ids).Link x y) :
    p.Link x y ∨ ∃ id ∈ ids, y = .instruction id := by
  fun_induction withChain p ids with
  | case1 p first second rest ih =>
    rcases ih link with before | ⟨id, member, same⟩
    · rcases link_withNext before with old | added
      · exact .inl old
      · exact .inr ⟨second, by simp, added⟩
    · exact .inr ⟨id, List.mem_cons_of_mem _ member, same⟩
  | case2 => exact .inl link

theorem withChain_nodes (p : Program) (ids : List InstructionId) :
    (p.withChain ids).instructionNodes = p.instructionNodes := by
  unfold instructionNodes
  fun_induction withChain p ids with
  | case1 p first second rest ih =>
    rw [ih]
    apply List.ext_getElem?
    intro i
    by_cases same : first = i <;> simp [withNext, same, Function.comp_def]
  | case2 => rfl

/-- The first of some instructions that were linked leads to all of them. -/
theorem withChain_reaches {ids : List InstructionId} (h : p.Unlinked ids) :
    ∀ id ∈ ids, (p.withChain ids).Reaches (ids.head?.toList.map .instruction) (.instruction id) := by
  fun_induction withChain p ids with
  | case1 p first second rest ih =>
    intro id member
    rcases List.mem_cons.mp member with rfl | later
    · exact .of_mem (by simp)
    · obtain ⟨slot, at_first, -⟩ := h.open_end first (by simp)
      have added : (p.withNext first (some second)).Link (.instruction first) (.instruction second) :=
        .next (withNext_at _ at_first) rfl
      refine (ih h.withNext id later).mono (fun _ _ link => link) ?_
      intro head is_second
      obtain rfl : head = .instruction second := by simpa using is_second
      exact ⟨.instruction first, by simp, .single (withChain_link h.withNext added)⟩
  | case2 row p short =>
    intro id member
    cases row with
    | nil => cases member
    | cons first rest =>
      cases rest with
      | cons second rest => exact absurd rfl (short first second rest)
      | nil =>
        obtain rfl : id = first := by simpa using member
        exact .of_mem (by simp)

end Program

end FlightBlocks
