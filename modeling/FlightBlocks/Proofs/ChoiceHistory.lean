import FlightBlocks.Proofs.AttributeEdits
import FlightBlocks.Proofs.ColorText
import FlightBlocks.Proofs.Configuration
import Mathlib.Data.List.Nodup

/-!
# Nodes with a list after any calls

A node with a list is told what to choose, loads elements and is saved, in any order (`ListCall`). Its key is then the
last one that it was given (`keyAfter`), the option is the only one of the list that goes by this key, and saving
writes the key as it was given and nothing else (`chosen_after_calls`).

The types of nodes differ in their lists, in the attribute of the key and in the key that they begin with. What they
share is said of a choice together with its list and its attribute (`ListChoice`), so that each call is one lemma
about all of them. Only craft ids take a key of their own when they load without one.
-/

namespace FlightBlocks

open Markup (Element)

/-! ## Texts that spell a name -/

namespace Text

/-- The text is the name up to the case of ASCII letters, with blanks around it. -/
def Spells (text name : String) : Prop :=
  ∃ front middle back, text.toList = front ++ (middle ++ back) ∧ (∀ c ∈ front, isBlank c = true) ∧
    (∀ c ∈ back, isBlank c = true) ∧ middle.map Char.toLower = name.toList.map Char.toLower

/-- Neither case of a letter is blank. -/
theorem isBlank_toLower (c : Char) : isBlank c.toLower = isBlank c := by
  by_cases upper : c.val ≥ 'A'.val ∧ c.val ≤ 'Z'.val
  · have low : 65 ≤ c.toNat := UInt32.le_iff_toNat_le.mp upper.1
    have high : c.toNat ≤ 90 := UInt32.le_iff_toNat_le.mp upper.2
    have lowered : c.toLower.toNat = c.toNat + 32 := by
      have same : c.toLower = _ := dif_pos upper
      rw [same]
      exact (UInt32.toNat_add ..).trans (Nat.mod_eq_of_lt (show c.toNat + 32 < 2 ^ 32 by omega))
    have plain : ∀ d : Char, 65 ≤ d.toNat → d.toNat ≤ 122 → isBlank d = false := by
      intro d low high
      simp [isBlank]
      omega
    rw [plain c low (by omega), plain _ (by omega) (by omega)]
  · have same : c.toLower = c := dif_neg upper
    rw [same]

/-- A text without blanks. -/
def Plain (s : String) : Prop := ∀ c ∈ s.toList, isBlank c = false

instance (s : String) : Decidable (Plain s) := List.decidableBAll _ _

/-- A name without blanks is spelled by a text that is the name once it is trimmed. -/
theorem spells_iff {text name : String} (plain : Plain name) :
    Spells text name ↔ sameIgnoringCase name (trim text) = true := by
  rw [sameIgnoringCase, beq_iff_eq]
  constructor
  · rintro ⟨front, middle, back, split, blank_front, blank_back, same⟩
    have inside : ∀ c ∈ middle, isBlank c = false := by
      intro c member
      have lowered : c.toLower ∈ name.toList.map Char.toLower := same ▸ List.mem_map_of_mem member
      obtain ⟨d, of_name, equal⟩ := List.mem_map.mp lowered
      rw [← isBlank_toLower, ← equal, isBlank_toLower]
      exact plain d of_name
    have trimmed : (trim text).toList = middle := trim_eq_iff.mpr ⟨front, back, split, blank_front, blank_back,
      fun c first => inside c (List.mem_of_mem_head? first), fun c last => inside c (List.mem_of_mem_getLast? last)⟩
    rw [trimmed, same]
  · intro same
    obtain ⟨front, back, split, blank_front, blank_back, -⟩ := trim_eq_iff.mp (Eq.refl (trim text).toList)
    exact ⟨front, _, back, split, blank_front, blank_back, same.symm⟩

end Text

/-! ## Options by their keys -/

namespace Selectable

variable {α : Type} [Selectable α]

variable (α) in
/-- The keys of a list differ in more than case, and have no blanks. -/
structure Lawful : Prop where
  distinct : ((options (α := α)).map fun o => o.2.key.toList.map Char.toLower).Nodup
  plain : ∀ o ∈ options (α := α), Text.Plain o.2.key

instance : Decidable (Lawful α) :=
  decidable_of_iff (((options (α := α)).map fun o => o.2.key.toList.map Char.toLower).Nodup ∧
    ∀ o ∈ options (α := α), Text.Plain o.2.key)
    ⟨fun ⟨distinct, plain⟩ => ⟨distinct, plain⟩, fun ⟨distinct, plain⟩ => ⟨distinct, plain⟩⟩

/-- The option is on the list and spelled by the key, and no other one is. -/
def IsOnly (key : String) (o : α × ListItem) : Prop :=
  o ∈ options ∧ Text.Spells key o.2.key ∧ ∀ other ∈ options, Text.Spells key other.2.key → other = o

theorem same_of_find? {key : String} {o : α × ListItem}
    (first : options.find? (fun o => Text.sameIgnoringCase o.2.key (Text.trim key)) = some o) :
    Text.sameIgnoringCase o.2.key (Text.trim key) = true := by
  have same := List.find?_some first
  exact same

theorem Lawful.find?_eq_some_iff (lawful : Lawful α) {key : String} {value : α} :
    find? key = some value ↔ ∃ item, IsOnly key (value, item) := by
  constructor
  · intro found
    obtain ⟨⟨_, item⟩, first, rfl⟩ := Option.map_eq_some_iff.mp found
    have member := List.mem_of_find?_eq_some first
    have same := same_of_find? first
    refine ⟨item, member, (Text.spells_iff (lawful.plain _ member)).mpr same, fun other among spelled => ?_⟩
    have same' := (Text.spells_iff (lawful.plain _ among)).mp spelled
    rw [Text.sameIgnoringCase, beq_iff_eq] at same same'
    exact List.inj_on_of_nodup_map lawful.distinct among member (same'.trans same.symm)
  · rintro ⟨item, member, spelled, only⟩
    have there : (options.find? fun o : α × ListItem => Text.sameIgnoringCase o.2.key (Text.trim key)).isSome :=
      List.find?_isSome.mpr ⟨_, member, (Text.spells_iff (lawful.plain _ member)).mp spelled⟩
    obtain ⟨o, first⟩ := Option.isSome_iff_exists.mp there
    have among := List.mem_of_find?_eq_some first
    have same := only o among ((Text.spells_iff (lawful.plain _ among)).mpr (same_of_find? first))
    rw [find?, first, same]
    rfl

theorem Lawful.find?_eq_none_iff (lawful : Lawful α) {key : String} :
    find? (α := α) key = none ↔ ∀ o ∈ options (α := α), ¬Text.Spells key o.2.key := by
  rw [find?, Option.map_eq_none_iff, List.find?_eq_none]
  exact forall₂_congr fun o member => not_congr (Text.spells_iff (lawful.plain o member)).symm

end Selectable

/-! ## The choice of a node -/

/-- A choice with the list that it is made from and the attribute that it is saved under. -/
structure ListChoice where
  {Options : Type}
  [selectable : Selectable Options]
  slot : String
  choice : Choice Options

attribute [instance] ListChoice.selectable

/-- The same list with another key, or without one. -/
def ListChoice.withKey (l : ListChoice) (key : Option String) : ListChoice := ⟨l.slot, (⟨key⟩ : Choice l.Options)⟩

/-- The key that loading gives to a node that has none when the element has none either. -/
def NodeType.keyIfMissing : NodeType → Option String
  | .craftId => some "target"
  | _ => none

namespace ExpressionNode

/-- The choice of a node with a list. -/
def listChoice? : ExpressionNode → Option ListChoice
  | .operation c => some ⟨"op", c⟩
  | .numericConstant c => some ⟨"type", c⟩
  | .orbitalElement c => some ⟨"element", c⟩
  | .advancedOrbitalElement c => some ⟨"element", c⟩
  | .stateVector c => some ⟨"vector", c⟩
  | .craftId c => some ⟨"type", c⟩
  | .planetInformation c => some ⟨"info", c⟩
  | .comparison c => some ⟨"op", c⟩
  | .transform c => some ⟨"op", c⟩
  | .unaryMath c => some ⟨"op", c⟩
  | .constant _ | .variable _ | .split => none

variable {node : ExpressionNode} {l : ListChoice}

theorem exists_listChoice (list : node.HasList) : ∃ l, node.listChoice? = some l := by
  cases node with
  | constant v => exact absurd rfl list
  | «variable» name => exact absurd rfl list
  | split => exact absurd rfl list
  | _ c => exact ⟨_, rfl⟩

theorem key?_eq (found : node.listChoice? = some l) : node.key? = l.choice.key := by
  cases node <;> cases found <;> rfl

theorem items_eq (found : node.listChoice? = some l) : node.items = Selectable.list l.Options := by
  cases node <;> cases found <;> rfl

/-- All lists have keys that tell their options apart. -/
theorem lawful_of_listChoice (found : node.listChoice? = some l) : Selectable.Lawful l.Options := by
  -- The goals mention the choice, and only closed statements can be decided.
  cases node <;> cases found
  case operation => exact (by decide +kernel : Selectable.Lawful BinaryOperator)
  case numericConstant => exact (by decide +kernel : Selectable.Lawful NumericConstant)
  case orbitalElement => exact (by decide +kernel : Selectable.Lawful OrbitalElement)
  case advancedOrbitalElement => exact (by decide +kernel : Selectable.Lawful AdvancedOrbitalElement)
  case stateVector => exact (by decide +kernel : Selectable.Lawful StateVector)
  case craftId => exact (by decide +kernel : Selectable.Lawful CraftKind)
  case planetInformation => exact (by decide +kernel : Selectable.Lawful PlanetInformation)
  case comparison => exact (by decide +kernel : Selectable.Lawful Comparison)
  case transform => exact (by decide +kernel : Selectable.Lawful Transform)
  case unaryMath => exact (by decide +kernel : Selectable.Lawful UnaryMath)

theorem listChoice?_choose (found : node.listChoice? = some l) (key : String) :
    (node.choose key).listChoice? = some (l.withKey (some key)) := by
  cases node <;> cases found <;> rfl

theorem loadCraftKind_eq (c : Choice CraftKind) (e : Element) :
    loadCraftKind c e = ⟨(c.load e "type").key <|> some "target"⟩ := by
  rw [loadCraftKind]
  generalize c.load e "type" = loaded
  obtain ⟨_ | key⟩ := loaded
  · rfl
  · rfl

theorem listChoice?_load (found : node.listChoice? = some l) (e : Element) : (node.load e).listChoice? =
    some (l.withKey ((e.attribute? l.slot <|> l.choice.key) <|> node.type.keyIfMissing)) := by
  have kept : ∀ {α : Type} (c : Choice α) (slot : String),
      c.load e slot = ⟨(e.attribute? slot <|> c.key) <|> none⟩ := by
    intro α c slot
    simp [Choice.load]
  cases node <;> cases found
  case craftId c =>
    rw [load, loadCraftKind_eq]
    rfl
  all_goals
    rw [load, kept]
    rfl

theorem attributes_save (found : node.listChoice? = some l) (e : Element) :
    (node.save e).attributes = (e.setOptional l.slot l.choice.key).attributes := by
  cases node <;> cases found <;> rfl

end ExpressionNode

/-! ## Calls -/

/-- What is done to a node with a list. -/
inductive ListCall where
  | choose (key : String)
  | load (e : Element)
  | save (e : Element)

namespace ListCall

/-- The key that a call gives to a node whose key is saved under the attribute. -/
def given? (slot : String) : ListCall → Option String
  | .choose key => some key
  | .load e => e.attribute? slot
  | .save _ => none

def isLoad : ListCall → Bool
  | .load _ => true
  | .choose _ | .save _ => false

end ListCall

/-- Saving leaves a node as it is. -/
def ExpressionNode.call (node : ExpressionNode) : ListCall → ExpressionNode
  | .choose key => node.choose key
  | .load e => node.load e
  | .save _ => node

/-- The node after some calls, the first one first. -/
def ExpressionNode.calls (node : ExpressionNode) (calls : List ListCall) : ExpressionNode :=
  calls.foldl ExpressionNode.call node

/-- The last key that some calls gave; without any the initial key, and without that the missing one, once something
    was loaded. -/
def keyAfter (slot : String) (initial missing : Option String) (calls : List ListCall) : Option String :=
  (calls.filterMap (·.given? slot)).getLast? <|> initial <|> if calls.any (·.isLoad) then missing else none

section Calls

variable {slot : String} {initial missing : Option String} {calls : List ListCall}

theorem keyAfter_nil : keyAfter slot initial missing [] = initial := by
  cases initial <;> rfl

theorem keyAfter_choose (key : String) : keyAfter slot initial missing (calls ++ [.choose key]) = some key := by
  simp [keyAfter, ListCall.given?]

theorem keyAfter_load (e : Element) : keyAfter slot initial missing (calls ++ [.load e]) =
    ((e.attribute? slot <|> keyAfter slot initial missing calls) <|> missing) := by
  cases given : e.attribute? slot with
  | some key => simp [keyAfter, ListCall.given?, given]
  | none =>
    have none_given : [ListCall.load e].filterMap (·.given? slot) = [] := by simp [ListCall.given?, given]
    have loaded : (calls ++ [ListCall.load e]).any (·.isLoad) = true := by simp [ListCall.isLoad]
    rw [keyAfter, List.filterMap_append, none_given, List.append_nil, loaded, keyAfter]
    -- The missing key counts from the first load on, so it makes no difference whether there was one before.
    cases (calls.filterMap (·.given? slot)).getLast? <;> cases initial <;> cases missing <;>
      cases calls.any (·.isLoad) <;> rfl

theorem keyAfter_save (e : Element) : keyAfter slot initial missing (calls ++ [.save e]) =
    keyAfter slot initial missing calls := by
  simp [keyAfter, ListCall.given?, ListCall.isLoad]

end Calls

namespace ExpressionNode

variable {node : ExpressionNode} {l : ListChoice}

theorem calls_concat (node : ExpressionNode) (calls : List ListCall) (call : ListCall) :
    node.calls (calls ++ [call]) = (node.calls calls).call call :=
  List.foldl_concat ..

theorem type_calls (node : ExpressionNode) (calls : List ListCall) : (node.calls calls).type = node.type := by
  induction calls using List.reverseRecOn with
  | nil => rfl
  | append_singleton calls call ih =>
    rw [node.calls_concat, ← ih]
    cases call with
    | choose key => exact type_choose _ key
    | load e => exact type_load _ e
    | save e => rfl

/-- A node keeps its list and its attribute, and has the key that its calls lead to. -/
theorem listChoice?_calls (found : node.listChoice? = some l) (calls : List ListCall) :
    (node.calls calls).listChoice? =
      some (l.withKey (keyAfter l.slot l.choice.key node.type.keyIfMissing calls)) := by
  induction calls using List.reverseRecOn with
  | nil =>
    rw [keyAfter_nil]
    exact found
  | append_singleton calls call ih =>
    rw [node.calls_concat]
    cases call with
    | choose key =>
      rw [keyAfter_choose]
      exact listChoice?_choose ih key
    | load e =>
      have loaded := listChoice?_load ih e
      rw [node.type_calls] at loaded
      rw [keyAfter_load]
      exact loaded
    | save e =>
      rw [keyAfter_save]
      exact ih

end ExpressionNode

/-! ## Options kept through calls -/

namespace KeptChoice

variable {α : Type} [Selectable α] {slot : String} {initial missing : Option String}

/-- A choice with the key that it has from the beginning. -/
def start : Option String → KeptChoice α
  | none => .unset
  | some key => .ofKey key

/-- What a call does to a choice that keeps its option. -/
def call (slot : String) (missing : Option String) (c : KeptChoice α) : ListCall → KeptChoice α
  | .choose key => .ofKey key
  | .load e =>
    let loaded := c.load e slot
    if loaded.key.isNone then (missing.map .ofKey).getD loaded else loaded
  | .save _ => c

def calls (slot : String) (missing : Option String) (c : KeptChoice α) (calls : List ListCall) : KeptChoice α :=
  calls.foldl (call slot missing) c

theorem calls_concat (c : KeptChoice α) (calls : List ListCall) (call : ListCall) :
    c.calls slot missing (calls ++ [call]) = (c.calls slot missing calls).call slot missing call :=
  List.foldl_concat ..

/-- The key and the option that are kept come about together. -/
theorem madeAlike_calls (calls : List ListCall) : MadeAlike ((start initial : KeptChoice α).calls slot missing calls)
    ⟨keyAfter slot initial missing calls⟩ := by
  induction calls using List.reverseRecOn with
  | nil =>
    rw [keyAfter_nil]
    cases initial with
    | none => exact .unset
    | some key => exact .ofKey key
  | append_singleton calls call ih =>
    rw [KeptChoice.calls_concat]
    cases call with
    | choose key =>
      rw [keyAfter_choose]
      exact .ofKey key
    | load e =>
      have loaded := ih.load e slot
      rw [keyAfter_load, KeptChoice.call, loaded.option_eq.1, Choice.load]
      rw [Choice.load] at loaded
      -- A key that takes the place of a missing one brings its option along.
      cases now : (e.attribute? slot <|> keyAfter slot initial missing calls) with
      | some key =>
        rw [now] at loaded
        exact loaded
      | none =>
        rw [now] at loaded
        cases missing with
        | none => exact loaded
        | some key => exact .ofKey key
    | save e =>
      rw [keyAfter_save]
      exact ih

end KeptChoice

/-! ## Nodes from their beginnings -/

/-- The key that the nodes of a type begin with. -/
def NodeType.firstKey : NodeType → Option String
  | .comparison => some "equals"
  | .transform => some "to-lower"
  | _ => none

/-- The nodes that a type begins with, with their keys: a fresh one, and those that are made with a key. -/
inductive NodeType.Begins (type : NodeType) : Option String → ExpressionNode → Prop
  | fresh {node} : type.fresh = .expression node → type.Begins type.firstKey node
  | withKey {node} (key : String) : type.withKey key = .expression node → type.Begins (some key) node

theorem NodeType.Begins.key_eq {type : NodeType} {initial : Option String} {node : ExpressionNode} {l : ListChoice}
    (begins : type.Begins initial node) (found : node.listChoice? = some l) :
    l.choice.key = initial ∧ node.type = type := by
  cases begins with
  | fresh is_fresh => cases type <;> cases is_fresh <;> cases found <;> exact ⟨rfl, rfl⟩
  | withKey key has_key => cases type <;> cases has_key <;> cases found <;> exact ⟨rfl, rfl⟩

/-- Whatever a node with a list began with and whatever was done to it: its key is the last one that was chosen or
    loaded, else the one it began with, except that a craft id without a key takes that of the target when it loads.
    It selects the only option of its list that the key spells, whether the option is looked for or was kept beside
    the key all the time, and nothing where there is no such option or no key. What is saved of it is this key as it
    was given, under the attribute of the node, or no such attribute without a key; all other attributes stay. -/
theorem chosen_after_calls {type : NodeType} {initial : Option String} {start : ExpressionNode}
    (begins : type.Begins initial start) (list : start.HasList) (calls : List ListCall) :
    ∃ l : ListChoice, (start.calls calls).listChoice? = some l ∧
      (start.calls calls).items = Selectable.list l.Options ∧
      (start.calls calls).key? = ((calls.filterMap (·.given? l.slot)).getLast? <|> initial <|>
        if calls.any (·.isLoad) then type.keyIfMissing else none) ∧
      (∀ value, l.choice.selected = some value ↔
        ∃ key item, (start.calls calls).key? = some key ∧ Selectable.IsOnly key (value, item)) ∧
      (l.choice.selected = none ↔ ∀ key, (start.calls calls).key? = some key →
        ∀ o ∈ Selectable.options (α := l.Options), ¬Text.Spells key o.2.key) ∧
      ((KeptChoice.start initial : KeptChoice l.Options).calls l.slot type.keyIfMissing calls).option =
        l.choice.selected ∧
      ∀ e, ((start.calls calls).save e).attribute? l.slot = (start.calls calls).key? ∧
        ((start.calls calls).save e).attributes.filter (·.1 != l.slot) = e.attributes.filter (·.1 != l.slot) := by
  obtain ⟨l, found⟩ := ExpressionNode.exists_listChoice list
  obtain ⟨rfl, rfl⟩ := begins.key_eq found
  have now := ExpressionNode.listChoice?_calls found calls
  have key := ExpressionNode.key?_eq now
  have lawful := ExpressionNode.lawful_of_listChoice now
  refine ⟨_, now, ExpressionNode.items_eq now, key, fun value => ?_, ?_, ?_, fun e => ⟨?_, ?_⟩⟩
  · rw [key, Choice.selected, Option.bind_eq_some_iff]
    refine exists_congr fun key => ?_
    rw [lawful.find?_eq_some_iff, exists_and_left]
  · rw [key, Choice.selected, Option.bind_eq_none_iff]
    exact forall₂_congr fun key _ => lawful.find?_eq_none_iff
  · exact (KeptChoice.madeAlike_calls calls).option_eq.2
  · rw [Element.attribute?, ExpressionNode.attributes_save now, key]
    exact Element.attribute?_setOptional.trans (if_pos rfl)
  · rw [ExpressionNode.attributes_save now]
    exact Element.others_setOptional ..

/-- A craft id that nobody configured is saved, becomes that of the target when it loads, and is told otherwise, with
    blanks and in capitals. An element without a key does not change that again. -/
theorem chosen_after_calls_of_craftId :
    let start := ExpressionNode.craftId .unset
    let calls : List ListCall := [.save (.named "GetCraftId"), .load (.named "TargetCraftId"), .choose " ACTIVE\t",
      .load ⟨"GetCraftId", [("style", "craft-id")], []⟩]
    let e : Element := ⟨"TargetCraftId", [("type", "target"), ("style", "craft-id")], []⟩
    NodeType.craftId.Begins none start ∧ start.HasList ∧
      (start.calls (calls.take 2)).key? = some "target" ∧ (start.calls calls).key? = some " ACTIVE\t" ∧
      (∃ item, Selectable.IsOnly " ACTIVE\t" (CraftKind.active, item)) ∧
      ((start.calls calls).save e).attribute? "type" = some " ACTIVE\t" ∧
      ((start.calls calls).save e).attributes.filter (·.1 != "type") = [("style", "craft-id")] := by
  intro start calls e
  have begins : NodeType.craftId.Begins none start := .fresh rfl
  have list : start.HasList := by decide
  obtain ⟨l, found, -, key, -⟩ := chosen_after_calls begins list (calls.take 2)
  cases found
  obtain ⟨l, found, -, key', selects, -, -, saves⟩ := chosen_after_calls begins list calls
  cases found
  obtain ⟨written, others⟩ := saves e
  obtain ⟨_, item, chosen, only⟩ := (selects .active).mp (by decide +kernel)
  obtain rfl := Option.some.inj (key'.symm.trans chosen)
  exact ⟨begins, list, key, key', ⟨item, only⟩, written.trans key', others⟩

end FlightBlocks
