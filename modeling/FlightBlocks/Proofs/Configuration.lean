import FlightBlocks.Proofs.NodeRoundTrip

/-!
# Nodes with a list, configured in any way

A node with a list begins as its type has it, or with a key; after that keys are chosen and elements are loaded, in
any order (`NodeType.Configures`). However it came about, a fresh node that loads what was saved of it has the same
configuration (`loads_as_configured`), whatever the keys look like and whether they select something or not.

The exception is the craft id that nobody configured. It has no key to save, and an element without one stands for
the target.

Nodes keep their keys only, and what a key selects is read off it. The option might as well be kept beside the key,
as long as whatever replaces the key finds it again (`KeptChoice.MadeAlike.option_eq`).
-/

namespace FlightBlocks

open Markup (Element)

/-! ## Options kept beside their keys -/

/-- A choice that keeps the option of its key, so that no use of the choice has to find it again. -/
structure KeptChoice (α : Type) where
  key : Option String
  option : Option α

namespace KeptChoice

variable {α : Type} [Selectable α]

def unset : KeptChoice α := ⟨none, none⟩

def ofKey (key : String) : KeptChoice α := ⟨some key, Selectable.find? key⟩

/-- Without the attribute the key stays, but its option is found again. -/
def load (c : KeptChoice α) (e : Element) (slot : String) : KeptChoice α :=
  let key := e.attribute? slot <|> c.key
  ⟨key, key.bind Selectable.find?⟩

/-- The two choices were made by choosing the same keys and loading the same elements. -/
inductive MadeAlike : KeptChoice α → Choice α → Prop
  | unset : MadeAlike .unset .unset
  | ofKey (key : String) : MadeAlike (.ofKey key) (.ofKey key)
  | load {kept : KeptChoice α} {c : Choice α} (e : Element) (slot : String) (before : MadeAlike kept c) :
      MadeAlike (kept.load e slot) (c.load e slot)

/-- The option that is kept is always the one that the key selects. -/
theorem MadeAlike.option_eq {kept : KeptChoice α} {c : Choice α} (alike : MadeAlike kept c) :
    kept.key = c.key ∧ kept.option = c.selected := by
  induction alike with
  | unset => exact ⟨rfl, rfl⟩
  | ofKey key => exact ⟨rfl, rfl⟩
  | load e slot before ih =>
    have same_key := ih.1
    simp only [KeptChoice.load, Choice.load, Choice.selected, same_key, and_self]

end KeptChoice

/-! ## Nodes with a list -/

/-- The configurations of a type of nodes: those it begins with, and those that come of choosing and loading. -/
inductive NodeType.Configures (type : NodeType) : ExpressionNode → Prop
  | fresh {node} : type.fresh = .expression node → type.Configures node
  | withKey {node} (key : String) : type.withKey key = .expression node → type.Configures node
  | choose {node} (key : String) : type.Configures node → type.Configures (node.choose key)
  | load {node} (e : Element) : type.Configures node → type.Configures (node.load e)

namespace ExpressionNode

/-- The node chooses from a list. -/
def HasList (node : ExpressionNode) : Prop := node.items ≠ []

instance (node : ExpressionNode) : Decidable node.HasList := inferInstanceAs (Decidable (node.items ≠ []))

/-- The types of nodes with a list. -/
example : (NodeType.all.filter fun type => match type.fresh with
    | .expression node => node.HasList
    | .instruction _ => False) =
    [.operation, .numericConstant, .orbitalElement, .advancedOrbitalElement, .stateVector, .craftId,
      .planetInformation, .comparison, .transform, .unaryMath] := by
  decide

theorem type_choose (node : ExpressionNode) (key : String) : (node.choose key).type = node.type := by
  cases node <;> rfl

theorem type_load (node : ExpressionNode) (e : Element) : (node.load e).type = node.type := by
  cases node <;> rfl

theorem hasList_choose {node : ExpressionNode} {key : String} : (node.choose key).HasList ↔ node.HasList := by
  cases node <;> rfl

theorem hasList_load {node : ExpressionNode} {e : Element} : (node.load e).HasList ↔ node.HasList := by
  cases node <;> rfl

/-- A node with a list holds no number. -/
theorem readsBack_of_hasList {node : ExpressionNode} (list : node.HasList) : node.ReadsBack := by
  cases node with
  | constant v => exact absurd rfl list
  | _ => simp [ReadsBack, number?]

theorem settled_choose {node : ExpressionNode} (list : node.HasList) (key : String) : (node.choose key).Settled := by
  cases node with
  | constant v => exact absurd rfl list
  | «variable» name => exact absurd rfl list
  | split => exact absurd rfl list
  | craftId c => rfl
  | comparison c => rfl
  | transform c => rfl
  | _ c => trivial

theorem loadCraftKind_chosen (c : Choice CraftKind) (e : Element) : (loadCraftKind c e).key.isSome := by
  unfold loadCraftKind
  cases loaded : (c.load e "type").key with
  | none => simp [loaded, Choice.ofKey]
  | some key => simp [loaded]

/-- Loading never takes a key away, and it gives one to a craft id without a key. -/
theorem settled_load {node : ExpressionNode} (list : node.HasList) (settled : node.Settled ∨ node = .craftId .unset)
    (e : Element) : (node.load e).Settled := by
  have kept : ∀ {α : Type} {c : Choice α} {slot : String}, c.key.isSome → (c.load e slot).key.isSome := by
    intro α c slot chosen
    simp [Choice.load, chosen]
  cases node with
  | constant v => exact absurd rfl list
  | craftId c => exact loadCraftKind_chosen c e
  | comparison c =>
    rcases settled with settled | unset
    · exact kept settled
    · cases unset
  | transform c =>
    rcases settled with settled | unset
    · exact kept settled
    · cases unset
  | _ => trivial

end ExpressionNode

namespace NodeType.Configures

variable {type : NodeType} {node : ExpressionNode}

theorem type_eq (configured : type.Configures node) : node.type = type := by
  induction configured with
  | fresh is_fresh => cases type <;> cases is_fresh <;> rfl
  | withKey key has_key => cases type <;> cases has_key <;> rfl
  | choose key _ ih => rw [ExpressionNode.type_choose, ih]
  | load e _ ih => rw [ExpressionNode.type_load, ih]

/-- Only the craft id can be without the key that it needs. -/
theorem settled_or_unset (configured : type.Configures node) (list : node.HasList) :
    node.Settled ∨ node = .craftId .unset := by
  induction configured with
  | fresh is_fresh =>
    cases type <;> cases is_fresh
    case fresh.craftId.refl => exact .inr rfl
    all_goals exact .inl (by trivial)
  | withKey key has_key =>
    cases type <;> cases has_key
    all_goals exact .inl (by trivial)
  | choose key _ ih => exact .inl (ExpressionNode.settled_choose (ExpressionNode.hasList_choose.mp list) key)
  | load e _ ih =>
    have list := ExpressionNode.hasList_load.mp list
    exact .inl (ExpressionNode.settled_load list (ih list) e)

end NodeType.Configures

/-- However a node with a list was configured, a fresh node of the type that loads what was saved of it is the same:
    it has the same key, selects the same, and so evaluates to the same everywhere. Only a craft id without a key
    loads with that of the target. -/
theorem loads_as_configured {type : NodeType} {node : ExpressionNode} (configured : type.Configures node)
    (list : node.HasList) (tag : String) :
    ∃ fresh, type.fresh = .expression fresh ∧
      (node ≠ .craftId .unset → fresh.load (node.save (.named tag)) = node) ∧
      (node = .craftId .unset →
        fresh.load (node.save (.named tag)) = .craftId (.ofKey (Selectable.keyOf CraftKind.target))) := by
  rcases configured.settled_or_unset list with settled | rfl
  · obtain ⟨fresh, is_fresh, same⟩ := node.load_setting settled (ExpressionNode.readsBack_of_hasList list)
      (node.save (.named tag)).name []
    rw [configured.type_eq] at is_fresh
    refine ⟨fresh, is_fresh, fun _ => ?_, ?_⟩
    · rw [node.save_named] at same ⊢
      exact same
    · rintro rfl
      cases settled
  · have is_fresh : type.fresh = .expression (.craftId .unset) := by
      rw [← configured.type_eq]
      rfl
    exact ⟨_, is_fresh, fun other => absurd rfl other, fun _ => rfl⟩

/-- The key of a craft id is kept with its blanks and its case, and goes on selecting the craft that executes the
    program. A craft id that was loaded without a key has one from then on. -/
theorem loads_as_configured_of_craftId :
    (∃ fresh, NodeType.craftId.fresh = .expression fresh ∧
      fresh.load ((ExpressionNode.craftId (.ofKey " CURRENT ")).save (.named "GetCraftId")) =
        .craftId (.ofKey " CURRENT ") ∧
      (Choice.ofKey " CURRENT ").selected = some CraftKind.current) ∧
    ∃ fresh, NodeType.craftId.fresh = .expression fresh ∧
      fresh.load ((fresh.load (.named "TargetCraftId")).save (.named "GetCraftId")) =
        fresh.load (.named "TargetCraftId") := by
  constructor
  · have configured : NodeType.craftId.Configures (.craftId (.ofKey " CURRENT ")) := .withKey " CURRENT " rfl
    obtain ⟨fresh, is_fresh, same, -⟩ := loads_as_configured configured (by decide) "GetCraftId"
    exact ⟨fresh, is_fresh, same (by simp [Choice.ofKey, Choice.unset]), by decide +kernel⟩
  · have configured : NodeType.craftId.Configures ((ExpressionNode.craftId .unset).load (.named "TargetCraftId")) :=
      .load _ (.fresh rfl)
    obtain ⟨fresh, is_fresh, same, -⟩ := loads_as_configured configured (by decide) "GetCraftId"
    cases is_fresh
    have chosen := ExpressionNode.loadCraftKind_chosen .unset (.named "TargetCraftId")
    refine ⟨_, rfl, same fun unset => ?_⟩
    rw [ExpressionNode.craftId.inj unset] at chosen
    cases chosen

/-- A craft id that was never configured has no key and selects nothing, but what is saved of it loads as a craft id
    that selects the target. -/
theorem unconfigured_craftId_selects_target :
    NodeType.craftId.Configures (.craftId .unset) ∧ (ExpressionNode.craftId .unset).HasList ∧
      (ExpressionNode.craftId .unset).key? = none ∧ (Choice.unset : Choice CraftKind).selected = none ∧
      (∃ c, (ExpressionNode.craftId .unset).load ((ExpressionNode.craftId .unset).save (.named "GetCraftId")) =
        .craftId c ∧ c.key = some "target" ∧ c.selected = some .target) :=
  ⟨.fresh rfl, by decide, rfl, rfl, _, rfl, by decide +kernel, by decide +kernel⟩

end FlightBlocks
