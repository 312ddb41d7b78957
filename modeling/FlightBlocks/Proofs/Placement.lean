import FlightBlocks.Proofs.Occurrences
import FlightBlocks.Proofs.Reaching
import FlightBlocks.Proofs.Settled

/-!
# Where nodes are placed, and which of them are reached

Loading gives a position to every element that stands for a node, in the order in which they end, and
the program leads to the positions of those that are kept (`Document.load_accounts`). While a part of a
program is loaded, links from what is kept of it lead to what is kept of it, and the positions that nothing
names yet lead to all of that (`Document.Places`). It stays so when a node is put on top of what it holds,
when parts are put side by side, when a row is linked, and when a body is given up for another one.
-/

namespace FlightBlocks.Document

open Markup (Element)
open Program (AddsExpressions AddsRow AddsChain)

/-- The position of an element that is kept, in a list that begins at a position. -/
def KeptAt (start : Nat) (xs : List Occurrence) (id : Nat) : Prop := ∃ i e, xs[i]? = some ⟨e, true⟩ ∧ id = start + i

theorem keptAt_append {start id : Nat} {xs ys : List Occurrence} :
    KeptAt start (xs ++ ys) id ↔ KeptAt start xs id ∨ KeptAt (start + xs.length) ys id := by
  constructor
  · rintro ⟨i, e, found, rfl⟩
    by_cases left : i < xs.length
    · rw [List.getElem?_append_left left] at found
      exact .inl ⟨i, e, found, rfl⟩
    · rw [List.getElem?_append_right (by omega)] at found
      exact .inr ⟨_, e, found, by omega⟩
  · rintro (⟨i, e, found, rfl⟩ | ⟨i, e, found, rfl⟩)
    · have left := (List.getElem?_eq_some_iff.mp found).1
      exact ⟨i, e, by rw [List.getElem?_append_left left, found], rfl⟩
    · refine ⟨xs.length + i, e, ?_, by omega⟩
      rw [List.getElem?_append_right (by omega), Nat.add_sub_cancel_left, found]

theorem keptAt_singleton {start id : Nat} {e : Element} : KeptAt start [⟨e, true⟩] id ↔ id = start := by
  constructor
  · rintro ⟨i, _, found, rfl⟩
    have first := (List.getElem?_eq_some_iff.mp found).1
    simp only [List.length_singleton] at first
    omega
  · rintro rfl
    exact ⟨0, e, rfl, rfl⟩

theorem KeptAt.lt {start id : Nat} {xs : List Occurrence} (kept : KeptAt start xs id) : id < start + xs.length := by
  obtain ⟨i, e, found, rfl⟩ := kept
  have below := (List.getElem?_eq_some_iff.mp found).1
  omega

/-- The positions of those elements that are kept, when they come behind what a program has. -/
def Kept (p : Program) (o : Occurrences) : Position → Prop
  | .expression id => KeptAt p.expressions.size o.expressions id
  | .instruction id => KeptAt p.instructions.size o.instructions id

theorem not_kept_none {p : Program} {x : Position} : ¬Kept p .none x := by
  cases x <;> simp [Kept, KeptAt, Occurrences.none]

theorem not_kept_discard {p : Program} {o : Occurrences} {x : Position} : ¬Kept p o.discard x := by
  cases x <;> simp [Kept, KeptAt, Occurrences.discard]

/-- A list goes on, behind what it was, with what some elements are made to. -/
def Continues {α : Type} (make : Element → Except LoadError α) (before after : List α) (xs : List Occurrence) : Prop :=
  ∃ nodes, after = before ++ nodes ∧ List.Forall₂ (fun x node => make x.element = .ok node) xs nodes

namespace Continues

variable {α : Type} {make : Element → Except LoadError α} {before after later : List α} {xs ys : List Occurrence}

theorem nil (make : Element → Except LoadError α) (before : List α) : Continues make before before [] :=
  ⟨[], (List.append_nil before).symm, .nil⟩

theorem append (first : Continues make before after xs) (second : Continues make after later ys) :
    Continues make before later (xs ++ ys) := by
  obtain ⟨nodes, rfl, made⟩ := first
  obtain ⟨others, rfl, made'⟩ := second
  exact ⟨nodes ++ others, List.append_assoc _ _ _, List.rel_append made made'⟩

/-- One more node. -/
theorem push {e : Element} {node : α} (h : Continues make before after xs) (made : make e = .ok node) :
    Continues make before (after ++ [node]) (xs ++ [⟨e, true⟩]) :=
  h.append ⟨[node], rfl, .cons made .nil⟩

theorem discard (h : Continues make before after xs) :
    Continues make before after (xs.map fun x => { x with kept := false }) := by
  obtain ⟨nodes, same, made⟩ := h
  exact ⟨nodes, same, List.forall₂_map_left_iff.mpr made⟩

theorem length_eq (h : Continues make before after xs) : after.length = before.length + xs.length := by
  obtain ⟨nodes, rfl, made⟩ := h
  rw [List.length_append, made.length_eq]

end Continues

/-- The nodes of some elements were placed behind those of a program, and the heads lead to those that are
    kept. -/
structure Places (r : Registry) (p q : Program) (heads : List Position) (o : Occurrences) : Prop where
  keeps : p.Keeps q
  expressions : Continues (expressionNode r) p.expressionNodes q.expressionNodes o.expressions
  instructions : Continues (instructionNode r) p.instructionNodes q.instructionNodes o.instructions
  inside : ∀ head ∈ heads, Kept p o head
  closed : ∀ x y, Kept p o x → q.Link x y → Kept p o y
  reached : ∀ x, Kept p o x → q.Reaches heads x

variable {r : Registry} {p q s : Program} {heads more : List Position} {o rest : Occurrences} {x : Position}

namespace Places

theorem expressions_size (h : Places r p q heads o) :
    q.expressions.size = p.expressions.size + o.expressions.length := by
  simpa [Program.expressionNodes] using h.expressions.length_eq

theorem instructions_size (h : Places r p q heads o) :
    q.instructions.size = p.instructions.size + o.instructions.length := by
  simpa [Program.instructionNodes] using h.instructions.length_eq

theorem hasPosition (h : Places r p q heads o) (kept : Kept p o x) : q.HasPosition x := by
  cases x with
  | expression id =>
    have below : id < p.expressions.size + o.expressions.length := kept.lt
    rwa [← h.expressions_size] at below
  | instruction id =>
    have below : id < p.instructions.size + o.instructions.length := kept.lt
    rwa [← h.instructions_size] at below

/-- What is kept of two parts. -/
theorem kept_append (h : Places r p q heads o) : Kept p (o ++ rest) x ↔ Kept p o x ∨ Kept q rest x := by
  cases x with
  | expression id =>
    simp only [Kept, Occurrences.expressions_append, keptAt_append, h.expressions_size]
  | instruction id =>
    simp only [Kept, Occurrences.instructions_append, keptAt_append, h.instructions_size]

/-- Parts that are put side by side. -/
theorem append (first : Places r p q heads o) (second : Places r q s more rest) :
    Places r p s (heads ++ more) (o ++ rest) where
  keeps := first.keeps.trans second.keeps
  expressions := first.expressions.append second.expressions
  instructions := first.instructions.append second.instructions
  inside := by
    intro head member
    rw [first.kept_append]
    rcases List.mem_append.mp member with left | right
    · exact .inl (first.inside head left)
    · exact .inr (second.inside head right)
  closed := by
    intro x y kept link
    rw [first.kept_append] at kept ⊢
    rcases kept with left | right
    · exact .inl (first.closed x y left (second.keeps.link_before (first.hasPosition left) link))
    · exact .inr (second.closed x y right link)
  reached := by
    intro x kept
    rw [first.kept_append] at kept
    rcases kept with left | right
    · refine (first.reached x left).mono (fun _ _ => second.keeps.link) fun head member => ?_
      exact .of_mem (List.mem_append_left _ member)
    · refine (second.reached x right).mono (fun _ _ link => link) fun head member => ?_
      exact .of_mem (List.mem_append_right _ member)

theorem nothing (r : Registry) (p : Program) : Places r p p [] .none where
  keeps := .of_tables rfl rfl
  expressions := .nil _ _
  instructions := .nil _ _
  inside := by simp
  closed _ _ kept := absurd kept not_kept_none
  reached _ kept := absurd kept not_kept_none

/-- Nothing has to lead to what is given up. -/
theorem discard (h : Places r p q heads o) : Places r p q [] o.discard where
  keeps := h.keeps
  expressions := h.expressions.discard
  instructions := h.instructions.discard
  inside := by simp
  closed _ _ kept := absurd kept not_kept_discard
  reached _ kept := absurd kept not_kept_discard

/-- Heads may be listed in another order. -/
theorem reorder (h : Places r p q heads o) (same : ∀ head, head ∈ more ↔ head ∈ heads) : Places r p q more o :=
  { h with
    inside := fun head member => h.inside head ((same head).mp member)
    reached := fun x kept => (h.reached x kept).mono (fun _ _ link => link) fun head member =>
      .of_mem ((same head).mpr member) }

/-- Programs with the same tables are not told apart. -/
theorem of_tables (h : Places r p q heads o) (expressions : s.expressions = q.expressions)
    (instructions : s.instructions = q.instructions) : Places r p s heads o where
  keeps := h.keeps.trans (.of_tables expressions instructions)
  expressions := by
    rw [show s.expressionNodes = q.expressionNodes by simp only [Program.expressionNodes, expressions]]
    exact h.expressions
  instructions := by
    rw [show s.instructionNodes = q.instructionNodes by simp only [Program.instructionNodes, instructions]]
    exact h.instructions
  inside := h.inside
  closed x y kept link := h.closed x y kept ((Program.Keeps.of_tables expressions.symm instructions.symm).link link)
  reached x kept := (h.reached x kept).mono
    (fun _ _ => (Program.Keeps.of_tables expressions instructions).link) fun _ member => .of_mem member

/-- One more node, which leads to the heads so far and to nothing else. -/
theorem top {top : Position} (h : Places r p q heads o) (keeps : q.Keeps s)
    (expressions : Continues (expressionNode r) p.expressionNodes s.expressionNodes (o ++ rest).expressions)
    (instructions : Continues (instructionNode r) p.instructionNodes s.instructionNodes (o ++ rest).instructions)
    (kept_iff : ∀ x, Kept p (o ++ rest) x ↔ Kept p o x ∨ x = top) (links : ∀ x, s.Link top x ↔ x ∈ heads) :
    Places r p s [top] (o ++ rest) where
  keeps := h.keeps.trans keeps
  expressions := expressions
  instructions := instructions
  inside := by simp [kept_iff]
  closed := by
    intro x y kept link
    rw [kept_iff] at kept ⊢
    rcases kept with below | rfl
    · exact .inl (h.closed x y below (keeps.link_before (h.hasPosition below) link))
    · exact .inl (h.inside y ((links y).mp link))
  reached := by
    intro x kept
    rcases (kept_iff x).mp kept with below | rfl
    · refine (h.reached x below).mono (fun _ _ => keeps.link) fun head member => ?_
      exact ⟨top, by simp, .single ((links head).mpr member)⟩
    · exact .of_mem (by simp)

theorem addExpression {ids : List ExpressionId} {e : Element} {node : ExpressionNode}
    (h : Places r p q (ids.map .expression) o) (made : expressionNode r e = .ok node) :
    Places r p (q.addExpression node ids).2 [.expression (q.addExpression node ids).1] (o ++ .expression e) := by
  have at_top : (q.addExpression node ids).2.expressions[q.expressions.size]? = some ⟨node, ids⟩ := by
    simp [Program.addExpression]
  refine h.top (Program.grows_addExpression q node ids).toKeeps ?_ ?_ ?_ ?_
  · simpa [Program.expressionNodes, Program.addExpression, Occurrences.expression] using h.expressions.push made
  · simpa [Program.instructionNodes, Program.addExpression, Occurrences.expression] using h.instructions
  · intro x
    cases x with
    | expression id =>
      simp [Kept, Occurrences.expression, keptAt_append, keptAt_singleton, h.expressions_size, Program.addExpression]
    | instruction id => simp [Kept, Occurrences.expression]
  · intro x
    constructor
    · intro link
      cases link with
      | child at_id member =>
        cases at_top.symm.trans at_id
        exact List.mem_map_of_mem member
    · intro member
      obtain ⟨child, inside, rfl⟩ := List.mem_map.mp member
      exact .child at_top inside

theorem addInstruction {ids : List ExpressionId} {body : Option InstructionId} {e : Element} {node : InstructionNode}
    (h : Places r p q (ids.map .expression ++ body.toList.map .instruction) o)
    (made : instructionNode r e = .ok node) :
    Places r p (q.addInstruction node ids body).2 [.instruction (q.addInstruction node ids body).1]
      (o ++ .instruction e) := by
  have at_top : (q.addInstruction node ids body).2.instructions[q.instructions.size]? =
      some ⟨node, ids, none, body⟩ := by
    simp [Program.addInstruction]
  refine h.top (Program.grows_addInstruction q node ids body).toKeeps ?_ ?_ ?_ ?_
  · simpa [Program.expressionNodes, Program.addInstruction, Occurrences.instruction] using h.expressions
  · simpa [Program.instructionNodes, Program.addInstruction, Occurrences.instruction] using h.instructions.push made
  · intro x
    cases x with
    | expression id => simp [Kept, Occurrences.instruction]
    | instruction id =>
      simp [Kept, Occurrences.instruction, keptAt_append, keptAt_singleton, h.instructions_size,
        Program.addInstruction]
  · intro x
    constructor
    · intro link
      cases link with
      | argument at_id member =>
        cases at_top.symm.trans at_id
        exact List.mem_append_left _ (List.mem_map_of_mem member)
      | next at_id follows =>
        cases at_top.symm.trans at_id
        cases follows
      | body at_id begins =>
        cases at_top.symm.trans at_id
        exact List.mem_append_right _ (List.mem_map_of_mem (Option.mem_toList.mpr begins))
    · intro member
      rcases List.mem_append.mp member with argument | first
      · obtain ⟨argument, inside, rfl⟩ := List.mem_map.mp argument
        exact .argument at_top inside
      · obtain ⟨first, begins, rfl⟩ := List.mem_map.mp first
        exact .body at_top (Option.mem_toList.mp begins)

/-- Linking a row leaves its first instruction to lead to all that the others led to. -/
theorem link {ids : List InstructionId} {trees : List InstructionTree} (h : Places r p q (ids.map .instruction) o)
    (adds : p.AddsRow q ids trees) :
    Places r p (q.withChain ids) (ids.head?.toList.map .instruction) o where
  keeps := adds.link.grows.toKeeps
  expressions := by simpa [Program.expressionNodes] using h.expressions
  instructions := by
    rw [Program.withChain_nodes]
    exact h.instructions
  inside := by
    intro head member
    obtain ⟨id, first, rfl⟩ := List.mem_map.mp member
    exact h.inside _ (List.mem_map_of_mem (List.mem_of_mem_head? (Option.mem_toList.mp first)))
  closed := by
    intro x y kept link
    rcases Program.link_withChain link with before | ⟨id, member, rfl⟩
    · exact h.closed x y kept before
    · exact h.inside _ (List.mem_map_of_mem member)
  reached := by
    intro x kept
    have unlinked := adds.row.unlinked
    refine (h.reached x kept).mono (fun _ _ => Program.withChain_link unlinked) fun head member => ?_
    obtain ⟨id, inside, rfl⟩ := List.mem_map.mp member
    exact Program.withChain_reaches unlinked id inside

end Places

/-! ## Loading places nodes -/

theorem Matches.of_ok {α β : Type} {good : β → α → Prop} {result : Except LoadError α} {b : β}
    (h : Matches good (.ok b) result) : ∃ a, good b a := by
  cases result with
  | error e => cases h
  | ok a =>
    obtain ⟨_, same, holds⟩ := h
    cases same
    exact ⟨a, holds⟩

mutual

theorem loadExpression_places : ∀ (e : Element) {p q : Program} {id : ExpressionId},
    loadExpression r p e = .ok (id, q) → Places r p q [.expression id] (.ofExpression e)
  | ⟨tag, attributes, children⟩, p, _, _, loads => by
    unfold loadExpression at loads
    obtain ⟨node, made, loads⟩ := bind_ok_iff.mp loads
    obtain ⟨⟨ids, q⟩, below, loads⟩ := bind_ok_iff.mp loads
    cases loads
    rw [Occurrences.ofExpression]
    exact (loadExpressions_places children below).addExpression made

theorem loadExpressions_places : ∀ (es : List Element) {p q : Program} {ids : List ExpressionId},
    loadExpressions r p es = .ok (ids, q) → Places r p q (ids.map .expression) (.ofExpressions es)
  | [], p, _, _, loads => by
    cases loads
    exact .nothing r p
  | e :: rest, p, _, _, loads => by
    unfold loadExpressions at loads
    obtain ⟨⟨id, q⟩, first, loads⟩ := bind_ok_iff.mp loads
    obtain ⟨⟨ids, s⟩, more, loads⟩ := bind_ok_iff.mp loads
    cases loads
    rw [Occurrences.ofExpressions]
    exact (loadExpression_places e first).append (loadExpressions_places rest more)

end

/-- What was loaded of the remaining children of an instruction: some expressions, and the last body, if one
    is left. -/
def PlacesParts (r : Registry) (p : Program) (parts : Parts) (q : Program) (parts' : Parts)
    (es : List Element) : Prop :=
  ∃ (ids : List ExpressionId) (head : Option InstructionId),
    parts' = ⟨parts.expressions ++ ids, if es.any isBody then head else parts.body⟩ ∧
    (es.any isBody = false → head = none) ∧
    Places r p q (ids.map .expression ++ head.toList.map .instruction) (.ofParts es)

mutual

theorem loadInstruction_places : ∀ (e : Element) {p q : Program} {id : InstructionId},
    loadInstruction r p e = .ok (id, q) → Places r p q [.instruction id] (.ofInstruction e)
  | ⟨tag, attributes, children⟩, p, _, _, loads => by
    unfold loadInstruction at loads
    obtain ⟨node, made, loads⟩ := bind_ok_iff.mp loads
    obtain ⟨⟨parts, q⟩, below, loads⟩ := bind_ok_iff.mp loads
    cases loads
    obtain ⟨ids, head, rfl, no_body, places⟩ := loadParts_places tag node.hasBody children below
    have begins : (if children.any isBody then head else none) = head := by
      cases body : children.any isBody with
      | true => rfl
      | false => exact (no_body body).symm
    rw [Occurrences.ofInstruction]
    simp only [begins, List.nil_append]
    exact places.addInstruction made

theorem loadParts_places (tag : String) (hasBody : Bool) : ∀ (es : List Element) {p q : Program} {parts parts' : Parts},
    loadParts r tag hasBody parts p es = .ok (parts', q) → PlacesParts r p parts q parts' es
  | [], p, _, _, _, loads => by
    cases loads
    exact ⟨[], none, by simp, fun _ => rfl, .nothing r p⟩
  | ⟨name, attributes, children⟩ :: rest, p, _, parts, _, loads => by
    unfold loadParts at loads
    unfold PlacesParts Occurrences.ofParts
    by_cases body : name = instructionsTag
    · have found : List.any (⟨name, attributes, children⟩ :: rest) isBody = true := by simp [isBody, body]
      rw [if_pos body] at loads
      cases hasBody with
      | false => cases loads
      | true =>
        obtain ⟨⟨row, q⟩, inside, loads⟩ := bind_ok_iff.mp loads
        obtain ⟨trees, adds⟩ := Matches.of_ok (inside ▸ loadInstructions_matches r children p)
        have chain := (loadInstructions_places children inside).link adds
        obtain ⟨ids, head, same, no_body, places⟩ := loadParts_places tag true rest loads
        rw [if_pos body]
        -- A body that comes behind decides whether this one is kept.
        cases replaced : rest.any isBody with
        | true =>
          refine ⟨ids, head, by simpa [replaced, found] using same, by simp [found], ?_⟩
          exact chain.discard.append places
        | false =>
          obtain rfl := no_body replaced
          refine ⟨ids, row.head?, by simpa [replaced, found] using same, by simp [found], ?_⟩
          refine (chain.append places).reorder fun head => ?_
          simp [or_comm]
    · have other : isBody ⟨name, attributes, children⟩ = false := by simpa [isBody] using body
      rw [if_neg body] at loads
      obtain ⟨⟨id, q⟩, first, loads⟩ := bind_ok_iff.mp loads
      obtain ⟨ids, head, same, no_body, places⟩ := loadParts_places tag hasBody rest loads
      rw [if_neg body]
      refine ⟨id :: ids, head, by simpa [other] using same, by simpa [other] using no_body, ?_⟩
      exact (loadExpression_places _ first).append places

theorem loadInstructions_places : ∀ (es : List Element) {p q : Program} {ids : List InstructionId},
    loadInstructions r p es = .ok (ids, q) → Places r p q (ids.map .instruction) (.ofInstructions es)
  | [], p, _, _, loads => by
    unfold loadInstructions at loads
    cases loads
    rw [Occurrences.ofInstructions]
    exact .nothing r p
  | e :: rest, p, _, _, loads => by
    unfold loadInstructions at loads
    obtain ⟨⟨id, q⟩, first, loads⟩ := bind_ok_iff.mp loads
    obtain ⟨⟨ids, s⟩, more, loads⟩ := bind_ok_iff.mp loads
    cases loads
    rw [Occurrences.ofInstructions]
    exact (loadInstruction_places e first).append (loadInstructions_places rest more)

end

theorem loadChain_places (es : List Element) {p q : Program} {head : Option InstructionId}
    (loads : loadChain r p es = .ok (head, q)) :
    p.Grows q ∧ Places r p q (head.toList.map .instruction) (.ofInstructions es) := by
  unfold loadChain at loads
  obtain ⟨⟨ids, s⟩, inside, loads⟩ := bind_ok_iff.mp loads
  cases loads
  obtain ⟨trees, adds⟩ := Matches.of_ok (inside ▸ loadInstructions_matches r es p)
  exact ⟨adds.link.grows, (loadInstructions_places es inside).link adds⟩

/-! ## Programs -/

/-- The nodes of some elements are those of a program, and its roots lead to those that are kept. -/
def Placed (r : Registry) (p : Program) (o : Occurrences) : Prop := Places r (.empty "") p p.roots o

/-- A part was loaded, and its heads have become roots. -/
theorem Placed.extend (placed : Placed r p o) (places : Places r p q heads rest)
    (expressions : s.expressions = q.expressions) (instructions : s.instructions = q.instructions)
    (roots : ∀ x, x ∈ s.roots ↔ x ∈ p.roots ∨ x ∈ heads) : Placed r s (o ++ rest) := by
  have added := (Places.append placed places).of_tables expressions instructions
  exact added.reorder fun x => by rw [roots, List.mem_append]

theorem roots_of_grows (grows : p.Grows q) : q.roots = p.roots := by
  simp only [Program.roots, grows.rootInstructions, grows.rootExpressions, grows.customInstructions,
    grows.customExpressions]

/-- A chain was loaded, and its beginning has become a root, if it has one. -/
theorem Placed.chain (placed : Placed r p o) {head : Option InstructionId} (grows : p.Grows q)
    (places : Places r p q (head.toList.map .instruction) rest) {add : InstructionId → Program}
    (expressions : ∀ id, (add id).expressions = q.expressions)
    (instructions : ∀ id, (add id).instructions = q.instructions)
    (roots : ∀ id x, x ∈ (add id).roots ↔ x ∈ q.roots ∨ x = .instruction id) :
    Placed r ((head.map add).getD q) (o ++ rest) := by
  cases head with
  | none => exact placed.extend places rfl rfl (by simp [roots_of_grows grows])
  | some id => exact placed.extend places (expressions id) (instructions id) (by simp [roots id, roots_of_grows grows])

/-- Expressions were loaded, and all of them have become roots. -/
theorem Placed.rootExpressions (placed : Placed r p o) {es : List Element} {ids : List ExpressionId}
    (below : loadExpressions r p es = .ok (ids, q)) (expressions : s.expressions = q.expressions)
    (instructions : s.instructions = q.instructions)
    (roots : ∀ x, x ∈ s.roots ↔ x ∈ q.roots ∨ x ∈ ids.map Position.expression) :
    Placed r s (o ++ .ofExpressions es) := by
  obtain ⟨trees, adds⟩ := Matches.of_ok (below ▸ loadExpressions_matches r es p)
  refine placed.extend (loadExpressions_places es below) expressions instructions fun x => ?_
  rw [roots, roots_of_grows adds.grows]

theorem mem_roots_addRootInstruction (q : Program) (id : InstructionId) (x : Position) :
    x ∈ (q.addRootInstruction id).roots ↔ x ∈ q.roots ∨ x = .instruction id := by
  simp only [Program.addRootInstruction, Program.roots, List.map_append, List.map_cons, List.map_nil,
    List.mem_append, List.mem_singleton]
  tauto

theorem mem_roots_addCustomInstruction (q : Program) (id : InstructionId) (x : Position) :
    x ∈ (q.addCustomInstruction id).roots ↔ x ∈ q.roots ∨ x = .instruction id := by
  simp only [Program.addCustomInstruction, Program.roots, List.map_append, List.map_cons, List.map_nil,
    List.mem_append, List.mem_singleton]
  tauto

theorem loadCustomInstructions_placed (es : List Element) (placed : Placed r p o)
    (loads : loadCustomInstructions r p es = .ok q) : Placed r q (o ++ .ofCustomInstructions es) := by
  induction es generalizing p o with
  | nil =>
    cases loads
    simpa [Occurrences.ofCustomInstructions] using placed
  | cons e rest ih =>
    unfold loadCustomInstructions at loads
    obtain ⟨-, -, loads⟩ := bind_ok_iff.mp loads
    obtain ⟨⟨head, s⟩, below, loads⟩ := bind_ok_iff.mp loads
    obtain ⟨grows, places⟩ := loadChain_places e.children below
    have first : Placed r ((head.map s.addCustomInstruction).getD s) _ :=
      placed.chain grows places (fun _ => rfl) (fun _ => rfl) (mem_roots_addCustomInstruction s)
    rw [Occurrences.ofCustomInstructions, ← Occurrences.append_assoc]
    exact ih first loads

theorem loadSection_placed (e : Element) (placed : Placed r p o) (loads : loadSection r p e = .ok q) :
    Placed r q (o ++ .ofSection e) := by
  unfold loadSection at loads
  unfold Occurrences.ofSection
  split_ifs at loads ⊢
  · obtain ⟨⟨head, s⟩, below, loads⟩ := bind_ok_iff.mp loads
    cases loads
    obtain ⟨grows, places⟩ := loadChain_places e.children below
    exact placed.chain grows places (fun _ => rfl) (fun _ => rfl) (mem_roots_addRootInstruction s)
  · obtain ⟨⟨ids, s⟩, below, loads⟩ := bind_ok_iff.mp loads
    cases loads
    change Placed r (ids.foldl Program.addRootExpression s) _
    rw [Program.foldl_addRootExpression]
    refine placed.rootExpressions below rfl rfl fun x => ?_
    simp only [Program.roots, List.map_append, List.mem_append]
    tauto
  · exact loadCustomInstructions_placed e.children placed loads
  · obtain ⟨⟨ids, s⟩, below, loads⟩ := bind_ok_iff.mp loads
    cases loads
    change Placed r (ids.foldl Program.addCustomExpression s) _
    rw [Program.foldl_addCustomExpression]
    refine placed.rootExpressions below rfl rfl fun x => ?_
    simp only [Program.roots, List.map_append, List.mem_append]
    tauto
  · cases loads
    simpa using placed

/-- Every element of a program that stands for a node has a position, and the roots lead to those that are
    kept. -/
theorem load_placed {root : Element} (loads : load r root = .ok p) : Placed r p (.ofProgram root) := by
  unfold load at loads
  obtain ⟨-, -, loads⟩ := bind_ok_iff.mp loads
  have all := foldlM_invariant (fun es p => ∃ o, Placed r p o ∧ o ++ .ofSections es = .ofProgram root) ?_ ?_ loads
  · obtain ⟨o, placed, same⟩ := all
    rwa [← same, Occurrences.ofSections, Occurrences.append_none]
  · rintro e rest p q ⟨o, placed, same⟩ first
    refine ⟨_, loadSection_placed e placed first, ?_⟩
    rw [← same, Occurrences.ofSections, Occurrences.append_assoc]
  · exact ⟨.none, (Places.nothing r (.empty "")).of_tables rfl rfl, rfl⟩

/-- Each node of a program is that of one element, and links lead to it from the roots just when that
    element is kept. -/
structure Accounts (r : Registry) (p : Program) (o : Occurrences) : Prop where
  expressions : List.Forall₂ (fun x slot => expressionNode r x.element = .ok slot.node) o.expressions
    p.expressions.toList
  instructions : List.Forall₂ (fun x slot => instructionNode r x.element = .ok slot.node) o.instructions
    p.instructions.toList
  expression_reached : ∀ (id : ExpressionId) x, o.expressions[id]? = some x →
    (p.Reaches p.roots (.expression id) ↔ x.kept = true)
  instruction_reached : ∀ (id : InstructionId) x, o.instructions[id]? = some x →
    (p.Reaches p.roots (.instruction id) ↔ x.kept = true)

theorem Placed.reaches_iff (placed : Placed r p o) : p.Reaches p.roots x ↔ Kept (.empty "") o x := by
  constructor
  · intro reaches
    exact reaches.mem_of_closed placed.inside placed.closed
  · exact placed.reached x

theorem keptAt_zero_iff {id : Nat} {xs : List Occurrence} {x : Occurrence} (found : xs[id]? = some x) :
    KeptAt 0 xs id ↔ x.kept = true := by
  constructor
  · rintro ⟨i, e, at_i, rfl⟩
    rw [Nat.zero_add, at_i] at found
    cases found
    rfl
  · intro kept
    obtain ⟨element, _⟩ := x
    cases kept
    exact ⟨id, element, found, (Nat.zero_add id).symm⟩

theorem load_accounts {root : Element} (loads : load r root = .ok p) : Accounts r p (.ofProgram root) := by
  have placed := load_placed loads
  refine ⟨?_, ?_, ?_, ?_⟩
  · obtain ⟨nodes, same, made⟩ := placed.expressions
    rw [show nodes = _ from same.symm, Program.expressionNodes, List.forall₂_map_right_iff] at made
    exact made
  · obtain ⟨nodes, same, made⟩ := placed.instructions
    rw [show nodes = _ from same.symm, Program.instructionNodes, List.forall₂_map_right_iff] at made
    exact made
  · intro id x found
    exact placed.reaches_iff.trans (keptAt_zero_iff found)
  · intro id x found
    exact placed.reaches_iff.trans (keptAt_zero_iff found)

end FlightBlocks.Document
