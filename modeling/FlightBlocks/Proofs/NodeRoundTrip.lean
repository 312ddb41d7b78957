import FlightBlocks.Document.Save
import FlightBlocks.Proofs.MarkupRoundTrip

/-!
# Nodes that were saved load again

A node is saved under the tag of its type, with at most one attribute. In a registry whose tags lead
back to their types (`Registry.Faithful`) the element makes a fresh node of the same type, and the
attribute gives it the same configuration (`expressionNode_saved`, `instructionNode_saved`). A fresh
node that begins with a choice keeps it when none was saved; but a node of such a type that was loaded
always has one to save.
-/

namespace FlightBlocks

open Markup (Attribute Element IsName)

/-! ## Numbers -/

namespace Decimal

theorem not_blank_of_isDigit {c : Char} (digit : c.isDigit = true) : Text.isBlank c = false := by
  have range : 48 ≤ c.toNat ∧ c.toNat ≤ 57 := Char.isDigit_iff_toNat.mp digit
  simp [Text.isBlank]
  omega

theorem isDigit_of_mem_toString {n : Nat} {c : Char} (member : c ∈ (toString n).toList) : c.isDigit = true := by
  rw [Nat.toString_eq_ofList_toDigits, String.toList_ofList] at member
  exact Nat.isDigit_of_mem_toDigits (by decide) (by decide) member

/-- Positional notation consists of digits and at most a point. -/
theorem mem_positional (x : Scientific) {c : Char} (member : c ∈ x.positional.toList) :
    c.isDigit = true ∨ c = '.' := by
  have padded : ∀ n, c ∈ List.replicate n '0' ++ (toString x.coefficient).toList → c.isDigit = true := by
    intro n inside
    rcases List.mem_append.mp inside with zero | digit
    · rw [List.eq_of_mem_replicate zero]
      rfl
    · exact isDigit_of_mem_toString digit
  unfold Scientific.positional at member
  split at member
  · rw [String.toList_ofList] at member
    rcases List.mem_append.mp member with digit | zero
    · exact .inl (isDigit_of_mem_toString digit)
    · exact .inl (padded _ (List.mem_append_left _ zero))
  · dsimp only at member
    split at member
    · rw [String.toList_ofList] at member
      exact .inl (padded _ (List.mem_of_mem_take member))
    · rw [String.toList_ofList] at member
      rcases List.mem_append.mp member with whole | fraction
      · exact .inl (padded _ (List.mem_of_mem_take whole))
      · rcases List.mem_cons.mp fraction with point | fraction
        · exact .inr point
        · have kept := (List.dropWhile_sublist _).subset (List.mem_reverse.mp fraction)
          exact .inl (padded _ (List.mem_of_mem_drop (List.mem_reverse.mp kept)))

theorem write_not_blank (x : Float) : ∀ c ∈ (write x).toList, Text.isBlank c = false := by
  have sign : ∀ c ∈ (if x.toBits.toNat < 2 ^ 63 then "" else "-").toList, Text.isBlank c = false := by
    split
    · simp
    · simp [Text.isBlank]
  have undefined : ∀ c ∈ "NaN".toList, Text.isBlank c = false := by simp [Text.isBlank]
  have infinite : ∀ c ∈ "inf".toList, Text.isBlank c = false := by simp [Text.isBlank]
  intro c member
  unfold write at member
  split at member
  · exact undefined c member
  · dsimp only at member
    split at member
    · rw [String.toList_append] at member
      rcases List.mem_append.mp member with front | name
      · exact sign c front
      · exact infinite c name
    · rw [String.toList_append] at member
      rcases List.mem_append.mp member with front | digits
      · exact sign c front
      · rcases mem_positional _ digits with digit | rfl
        · exact not_blank_of_isDigit digit
        · decide

end Decimal

/-- A text without blanks has none to lose. -/
theorem Text.trim_of_not_blank {s : String} (plain : ∀ c ∈ s.toList, isBlank c = false) : trim s = s := by
  have kept : ∀ chars : List Char, (∀ c ∈ chars, isBlank c = false) → chars.dropWhile isBlank = chars := by
    intro chars plain
    cases chars with
    | nil => rfl
    | cons c rest => simp [plain c (by simp)]
  have back : ∀ c ∈ s.toList.reverse, isBlank c = false := fun c member => plain c (List.mem_reverse.mp member)
  simp [trim, trimEnd, trimStart, kept _ plain, kept _ back]

/-! ## Registries -/

/-- The name that the nodes of a type are saved under. That of a craft id is always the same. -/
def Registry.savedName (r : Registry) (type : NodeType) : String :=
  if type = .craftId then NodeType.craftId.name else (r.tag? type).getD ""

/-- Every type that a tag stands for is good. -/
def Registry.Every (r : Registry) (good : NodeType → Prop) : Prop := ∀ tag type, r.type? tag = some type → good type

/-- The nodes of a type have a tag to be saved under. -/
def Registry.HasTag (r : Registry) (type : NodeType) : Prop := (r.tag? type).isSome

/-- The nodes of a type have a tag that leads back to the type. -/
structure Registry.Saves (r : Registry) (type : NodeType) : Prop where
  tagged : (r.tag? type).isSome
  leads_back : r.type? (r.savedName type) = some type
  is_name : IsName (r.savedName type)
  no_chain : r.savedName type ≠ Document.instructionsTag

/-- Every type that a tag stands for can be saved. -/
def Registry.Faithful (r : Registry) : Prop := ∀ tag type, r.type? tag = some type → r.Saves type

theorem Registry.full_faithful : Registry.full.Faithful := by
  have all : ∀ type ∈ NodeType.all, (full.tag? type).isSome ∧ full.type? (full.savedName type) = some type ∧
      IsName (full.savedName type) ∧ full.savedName type ≠ Document.instructionsTag := by
    decide +kernel
  intro tag type _
  obtain ⟨tagged, leads_back, is_name, no_chain⟩ := all type type.mem_all
  exact ⟨tagged, leads_back, is_name, no_chain⟩

/-! ## Choices -/

namespace Choice

variable {α : Type} (c : Choice α) (slot name : String) (children : List Element)

/-- What was saved for a choice gives it to a node without one. -/
theorem load_unset : Choice.load .unset ⟨name, (c.key.map fun key => (slot, key)).toList, children⟩ slot = c := by
  obtain ⟨_ | key⟩ := c
  · rfl
  · simp [load, Element.attribute?]

/-- Where there was a choice to save, it takes the place of any other. -/
theorem load_chosen (fresh : Choice α) (chosen : c.key.isSome) :
    fresh.load ⟨name, (c.key.map fun key => (slot, key)).toList, children⟩ slot = c := by
  obtain ⟨_ | key⟩ := c
  · cases chosen
  · simp [load, Element.attribute?]

end Choice

/-! ## Expression nodes -/

namespace ExpressionNode

/-- What is true of every node that was loaded: a constant is a number, a truth value or a text, and
    the nodes that come with a choice have one. -/
def Settled : ExpressionNode → Prop
  | .constant (.vector _) | .constant (.list _) => False
  | .craftId c => c.key.isSome
  | .comparison c => c.key.isSome
  | .transform c => c.key.isSome
  | _ => True

/-- The number that a node holds, if it holds one. -/
def number? : ExpressionNode → Option Float
  | .constant (.number x) => some x
  | _ => none

/-- A number in the node is the one that its text writes. -/
def ReadsBack (node : ExpressionNode) : Prop := ∀ x ∈ node.number?, Decimal.read? (Decimal.write x) = some x

instance (node : ExpressionNode) : Decidable node.ReadsBack :=
  inferInstanceAs (Decidable (∀ x ∈ node.number?, Decimal.read? (Decimal.write x) = some x))

theorem kind_type (node : ExpressionNode) : node.type.kind = .expression := by
  cases node <;> rfl

theorem load_settled {type : NodeType} {fresh : ExpressionNode} (is_fresh : type.fresh = .expression fresh)
    (e : Element) : (fresh.load e).Settled ∧ (fresh.load e).type = type := by
  cases type <;> cases is_fresh <;> refine ⟨?_, rfl⟩
  case constant =>
    simp only [load, loadConstant]
    split <;> trivial
  case craftId =>
    simp only [load, loadCraftKind]
    split
    · rfl
    · rename_i chosen
      exact Option.isSome_iff_ne_none.mpr (by simpa using chosen)
  case comparison =>
    simp [load, Settled, Choice.load, Choice.ofKey]
  case transform =>
    simp [load, Settled, Choice.load, Choice.ofKey]
  all_goals trivial

/-- The attribute that a node is saved with, if there is any. -/
def setting : ExpressionNode → Option Attribute
  | .constant (.number x) => some ("number", Decimal.write x)
  | .constant (.bool b) => some ("bool", if b then "true" else "false")
  | .constant v => some ("text", v.toText)
  | .variable name => some (variableSlot, name)
  | .operation c => c.key.map fun key => ("op", key)
  | .numericConstant c => c.key.map fun key => ("type", key)
  | .orbitalElement c => c.key.map fun key => (OrbitReading.slot OrbitalElement, key)
  | .advancedOrbitalElement c => c.key.map fun key => (OrbitReading.slot AdvancedOrbitalElement, key)
  | .stateVector c => c.key.map fun key => (OrbitReading.slot StateVector, key)
  | .craftId c => c.key.map fun key => ("type", key)
  | .planetInformation c => c.key.map fun key => ("info", key)
  | .comparison c => c.key.map fun key => ("op", key)
  | .transform c => c.key.map fun key => ("op", key)
  | .split => none
  | .unaryMath c => c.key.map fun key => ("op", key)

theorem save_named (node : ExpressionNode) (tag : String) :
    node.save (.named tag) =
      ⟨if node.type = .craftId then NodeType.craftId.name else tag, node.setting.toList, []⟩ := by
  cases node with
  | constant v => cases v <;> rfl
  | «variable» name => rfl
  | split => rfl
  | _ c => obtain ⟨_ | key⟩ := c <;> rfl

theorem isName_setting (node : ExpressionNode) : ∀ a ∈ node.setting, IsName a.1 := by
  have constant : IsName "number" ∧ IsName "bool" ∧ IsName "text" := by decide
  have named : IsName variableSlot := by decide
  have chosen : IsName "op" ∧ IsName "type" ∧ IsName "info" ∧ IsName (OrbitReading.slot OrbitalElement) ∧
      IsName (OrbitReading.slot AdvancedOrbitalElement) ∧ IsName (OrbitReading.slot StateVector) := by decide
  intro a member
  cases node with
  | constant v => cases v <;> cases member <;> simp [constant]
  | «variable» name => cases member; exact named
  | split => cases member
  | _ c =>
    obtain ⟨_ | key⟩ := c <;> cases member
    simp only [chosen]

/-- The attribute that a node is saved with gives a fresh node of the type its configuration. -/
theorem load_setting (node : ExpressionNode) (settled : node.Settled) (number : node.ReadsBack) (name : String)
    (children : List Element) : ∃ fresh, node.type.fresh = .expression fresh ∧
      fresh.load ⟨name, node.setting.toList, children⟩ = node := by
  cases node <;> refine ⟨_, rfl, ?_⟩
  case constant v =>
    cases v with
    | number x =>
      have back : Decimal.read? (Decimal.write x) = some x := number x rfl
      simp [load, loadConstant, setting, Element.attribute?, Text.trim_of_not_blank (Decimal.write_not_blank x), back]
    | bool b => cases b <;> rfl
    | text s => rfl
    | vector v => exact settled.elim
    | list items => exact settled.elim
  case «variable» => rfl
  case split => rfl
  case craftId c =>
    have chosen : c.key.isNone = false := by simpa [Settled, Option.isSome_iff_ne_none] using settled
    simp [load, loadCraftKind, setting, Choice.load_unset, chosen]
  -- Comparisons and transforms begin with a choice that loading has to replace.
  case comparison c => rw [load, setting, c.load_chosen _ _ _ _ settled]
  case transform c => rw [load, setting, c.load_chosen _ _ _ _ settled]
  all_goals rw [load, setting, Choice.load_unset]

end ExpressionNode

/-! ## Instruction nodes -/

namespace InstructionNode

theorem kind_type (node : InstructionNode) : node.type.kind = .instruction := by
  cases node <;> rfl

/-- The attribute that a node is saved with, if there is any. -/
def setting : InstructionNode → Option Attribute
  | .setVariable name => some (variableSlot, name)
  | _ => none

theorem save_named (node : InstructionNode) (tag : String) :
    node.save (.named tag) = ⟨tag, node.setting.toList, []⟩ := by
  cases node <;> rfl

theorem isName_setting (node : InstructionNode) : ∀ a ∈ node.setting, IsName a.1 := by
  have named : IsName variableSlot := by decide
  intro a member
  cases node <;> cases member
  exact named

theorem load_setting (node : InstructionNode) (name : String) (children : List Element) :
    ∃ fresh, node.type.fresh = .instruction fresh ∧ fresh.load ⟨name, node.setting.toList, children⟩ = node := by
  cases node <;> exact ⟨_, rfl, rfl⟩

end InstructionNode

/-! ## Elements of nodes -/

namespace Document

variable {r : Registry} {e : Element}

theorem expressionNode_iff {node : ExpressionNode} : expressionNode r e = .ok node ↔
    ∃ type fresh, r.type? e.name = some type ∧ type.fresh = .expression fresh ∧ fresh.load e = node := by
  unfold expressionNode Registry.create?
  cases r.type? e.name with
  | none => simp
  | some type => cases shape : type.fresh <;> simp [shape]

theorem instructionNode_iff {node : InstructionNode} : instructionNode r e = .ok node ↔
    ∃ type fresh, r.type? e.name = some type ∧ type.fresh = .instruction fresh ∧ fresh.load e = node := by
  unfold instructionNode Registry.create?
  cases r.type? e.name with
  | none => simp
  | some type => cases shape : type.fresh <;> simp [shape]

/-- A node that was loaded is of a type that some tag stands for. -/
theorem expressionNode_settled {good : NodeType → Prop} (known : r.Every good)
    {node : ExpressionNode} (h : expressionNode r e = .ok node) : node.Settled ∧ good node.type := by
  obtain ⟨type, fresh, found, is_fresh, rfl⟩ := expressionNode_iff.mp h
  obtain ⟨settled, same⟩ := ExpressionNode.load_settled is_fresh e
  exact ⟨settled, same ▸ known _ _ found⟩

/-- The type of a node is the one that the tag of its element stands for. -/
theorem expressionNode_type {node : ExpressionNode} (h : expressionNode r e = .ok node) :
    r.type? e.name = some node.type := by
  obtain ⟨type, fresh, found, is_fresh, rfl⟩ := expressionNode_iff.mp h
  rw [found, (ExpressionNode.load_settled is_fresh e).2]

theorem instructionNode_type {node : InstructionNode} (h : instructionNode r e = .ok node) :
    r.type? e.name = some node.type := by
  obtain ⟨type, fresh, found, is_fresh, rfl⟩ := instructionNode_iff.mp h
  have same : (fresh.load e).type = type := by
    cases type <;> cases is_fresh <;> rfl
  rw [found, same]

theorem instructionNode_known {good : NodeType → Prop} (known : r.Every good)
    {node : InstructionNode} (h : instructionNode r e = .ok node) : good node.type :=
  known _ _ (instructionNode_type h)

/-- An expression node that was saved loads as it was. -/
theorem expressionNode_saved {node : ExpressionNode} (saves : r.Saves node.type) (settled : node.Settled)
    (number : node.ReadsBack) (children : List Element) :
    expressionNode r ⟨r.savedName node.type, node.setting.toList, children⟩ = .ok node := by
  obtain ⟨fresh, is_fresh, same⟩ := node.load_setting settled number (r.savedName node.type) children
  exact expressionNode_iff.mpr ⟨_, fresh, saves.leads_back, is_fresh, same⟩

theorem instructionNode_saved {node : InstructionNode} (saves : r.Saves node.type) (children : List Element) :
    instructionNode r ⟨r.savedName node.type, node.setting.toList, children⟩ = .ok node := by
  obtain ⟨fresh, is_fresh, same⟩ := node.load_setting (r.savedName node.type) children
  exact instructionNode_iff.mpr ⟨_, fresh, saves.leads_back, is_fresh, same⟩

/-- The element that a node is saved as, before it gets its children. -/
theorem tagged_expression {node : ExpressionNode} (has_tag : r.HasTag node.type) : ∃ e, tagged r node.type = .ok e ∧
    node.save e = ⟨r.savedName node.type, node.setting.toList, []⟩ := by
  obtain ⟨tag, found⟩ := Option.isSome_iff_exists.mp has_tag
  refine ⟨.named tag, by rw [tagged, found], ?_⟩
  rw [node.save_named, Registry.savedName, found, Option.getD_some]

theorem tagged_instruction {node : InstructionNode} (has_tag : r.HasTag node.type) : ∃ e, tagged r node.type = .ok e ∧
    node.save e = ⟨r.savedName node.type, node.setting.toList, []⟩ := by
  obtain ⟨tag, found⟩ := Option.isSome_iff_exists.mp has_tag
  refine ⟨.named tag, by rw [tagged, found], ?_⟩
  have other : node.type ≠ .craftId := by cases node <;> simp [InstructionNode.type]
  rw [node.save_named, Registry.savedName, found, Option.getD_some, if_neg other]

end Document

end FlightBlocks
