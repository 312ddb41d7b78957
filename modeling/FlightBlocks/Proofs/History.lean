import FlightBlocks.Proofs.Registration

/-!
# What a history of registrations leads to

A registry is the outcome of registrations, one after the other. A tag stands for the type that it was last
registered for. A type is saved under some tag that stands for it, as long as there is one: which of several is
left open here where a type has lost the tag that it had (`Registry.Registers`), so that nothing depends on the
order in which a table is searched.
-/

namespace FlightBlocks

open Markup (Element)

namespace Registry

/-- A history of registrations, the latest one last, may lead to a registry. -/
inductive Reached : List (String × NodeType) → Registry → Prop where
  | empty : Reached [] .empty
  | register {history : List (String × NodeType)} {r after : Registry} {tag : String} {type : NodeType}
      (before : Reached history r) (step : r.Registers tag type after) : Reached (history ++ [(tag, type)]) after

variable {history : List (String × NodeType)} {r : Registry}

/-- Registering goes on with a history. -/
theorem Reached.registerAll (reached : Reached history r) (more : List (String × NodeType)) :
    Reached (history ++ more) (r.registerAll more) := by
  induction more generalizing history r with
  | nil =>
    rw [List.append_nil]
    exact reached
  | cons entry rest ih =>
    have longer := ih (reached.register (registers r entry.1 entry.2))
    rwa [List.append_assoc, List.singleton_append] at longer

theorem reached_registerAll (history : List (String × NodeType)) : Reached history (empty.registerAll history) :=
  Reached.empty.registerAll history

/-- The two tables are in step after any history. -/
theorem Reached.inStep (reached : Reached history r) : r.InStep := by
  induction reached with
  | empty => exact inStep_empty
  | register _ step ih => exact ih.of_registers step

/-- A tag stands for the type that it was last registered for. -/
theorem Reached.type? (reached : Reached history r) (tag : String) :
    r.type? tag = history.reverse.lookup tag := by
  induction reached with
  | empty => simp [Registry.type?, Registry.empty]
  | @register history r after new type _ step ih =>
    rw [step.types, List.reverse_append, List.reverse_singleton, List.singleton_append, List.lookup_cons, ih]
    by_cases same : new = tag
    · simp [same]
    · simp [same, beq_eq_false_iff_ne.mpr (Ne.symm same)]

end Registry

/-! ## Writing under a tag and reading again -/

namespace Document

/-- Nodes of a type are saved under a tag, and what is written under it, with whatever children, is read as a node
    of the type. Of craft ids this is said where the tag is the name that their elements always have. -/
structure KeepsType (r : Registry) (type : NodeType) (tag : String) : Prop where
  tagged : tagged r type = .ok (.named tag)
  named : ∀ node : ExpressionNode, node.type = type → type ≠ .craftId → (node.save (.named tag)).name = tag
  expression : ∀ node : ExpressionNode, node.type = type → (node.save (.named tag)).name = tag → ∀ children, ∃ again,
    expressionNode r { node.save (.named tag) with children } = .ok again ∧ again.type = type
  instruction : ∀ node : InstructionNode, node.type = type → ∀ children, ∃ again,
    instructionNode r { node.save (.named tag) with children } = .ok again ∧ again.type = type

variable {r : Registry} {type : NodeType} {e : Element}

theorem expressionNode_of_type (found : r.type? e.name = some type) (kind : type.kind = .expression) :
    ∃ node, expressionNode r e = .ok node ∧ node.type = type := by
  cases shape : type.fresh with
  | instruction fresh =>
    have other := type.kind_fresh
    rw [shape, kind] at other
    cases other
  | expression fresh =>
    have made : expressionNode r e = .ok (fresh.load e) := expressionNode_iff.mpr ⟨type, fresh, found, shape, rfl⟩
    exact ⟨_, made, (ExpressionNode.load_settled shape e).2⟩

theorem instructionNode_of_type (found : r.type? e.name = some type) (kind : type.kind = .instruction) :
    ∃ node, instructionNode r e = .ok node ∧ node.type = type := by
  cases shape : type.fresh with
  | expression fresh =>
    have other := type.kind_fresh
    rw [shape, kind] at other
    cases other
  | instruction fresh =>
    have made : instructionNode r e = .ok (fresh.load e) := instructionNode_iff.mpr ⟨type, fresh, found, shape, rfl⟩
    have same := instructionNode_type made
    rw [found] at same
    exact ⟨_, made, (Option.some.inj same).symm⟩

theorem keepsType_of_inStep (h : r.InStep) {tag : String} (saved : r.tag? type = some tag) : KeepsType r type tag where
  tagged := by rw [Document.tagged, saved]
  named := by
    intro node same other
    rw [node.save_named, if_neg (same ▸ other)]
  expression := by
    rintro node rfl under children
    have found : r.type? ({ node.save (.named tag) with children } : Element).name = some node.type := by
      rw [under]
      exact h.leads_back saved
    exact expressionNode_of_type found node.kind_type
  instruction := by
    rintro node rfl children
    have found : r.type? ({ node.save (.named tag) with children } : Element).name = some node.type := by
      rw [node.save_named]
      exact h.leads_back saved
    exact instructionNode_of_type found node.kind_type

end Document

/-- Whatever was registered, each time in any way that is open to it: a tag creates nodes of the type that it was
    last registered for, and none if it never was; just the types that some tag creates are saved under a tag, and
    this tag creates them, is listed with them, and leads back to them when what was written under it is read. -/
theorem registry_follows_history {history : List (String × NodeType)} {r : Registry}
    (reached : Registry.Reached history r) :
    (∀ tag, r.create? tag = (history.reverse.lookup tag).map NodeType.fresh) ∧
      (∀ tag, (∀ entry ∈ history, entry.1 ≠ tag) → r.create? tag = none) ∧
      (∀ type, (r.tag? type).isSome ↔ ∃ tag node, r.create? tag = some node ∧ node.type = type) ∧
      ∀ type tag, r.tag? type = some tag →
        r.create? tag = some type.fresh ∧ r.entryOf? type = some (tag, type) ∧ Document.KeepsType r type tag := by
  have h := reached.inStep
  have creates : ∀ tag, r.create? tag = (history.reverse.lookup tag).map NodeType.fresh := by
    intro tag
    rw [Registry.create?, reached.type?]
  refine ⟨creates, ?_, ?_, ?_⟩
  · intro tag never
    have unknown : history.reverse.lookup tag = none := by
      rw [List.lookup_eq_none_iff]
      intro entry member
      simpa using (never entry (List.mem_reverse.mp member)).symm
    rw [creates, unknown]
    rfl
  · intro type
    constructor
    · intro saved
      obtain ⟨tag, under⟩ := Option.isSome_iff_exists.mp saved
      refine ⟨tag, type.fresh, ?_, type.type_fresh⟩
      rw [Registry.create?, h.leads_back under]
      rfl
    · rintro ⟨tag, node, created, rfl⟩
      obtain ⟨type, found, rfl⟩ := Option.map_eq_some_iff.mp created
      rw [type.type_fresh]
      exact h.tagged found
  · intro type tag saved
    have found := h.leads_back saved
    refine ⟨?_, ?_, Document.keepsType_of_inStep h saved⟩
    · rw [Registry.create?, found]
      rfl
    · rw [Registry.entryOf?, saved]
      simp [found]

/-- Three tags for constants, of which two are taken over. -/
def takeovers : List (String × NodeType) :=
  [("Value", .constant), ("Number", .constant), ("Text", .constant), ("Value", .variable), ("Text", .log)]

/-- Constants were saved under the last of their tags and fall back to the one that is left. -/
theorem registry_follows_history_of_takeovers :
    (Registry.empty.registerAll takeovers).tag? .constant = some "Number" ∧
      (Registry.empty.registerAll takeovers).entryOf? .constant = some ("Number", .constant) ∧
      (Registry.empty.registerAll takeovers).create? "Text" = some NodeType.log.fresh ∧
      (Registry.empty.registerAll takeovers).create? "Log" = none := by
  obtain ⟨creates, never, -, saved⟩ := registry_follows_history (Registry.reached_registerAll takeovers)
  have under : (Registry.empty.registerAll takeovers).tag? .constant = some "Number" := by decide +kernel
  obtain ⟨-, entry, -⟩ := saved .constant "Number" under
  exact ⟨under, entry, creates "Text", never "Log" (by decide)⟩

end FlightBlocks
