import FlightBlocks.Proofs.NodeRoundTrip

/-!
# Registries that registrations lead to

Registering lets a tag stand for a type, which may leave another type without the tag it was saved
under. It falls back to another of its tags, and it does not matter to which (`Registry.Registers`). The
two tables of a registry stay in step all the same (`Registry.Built.inStep`): a type is saved under a
tag that stands for it, and no type that a tag stands for is left without one. When the tags can be
written as names and none of them is taken for a body, such a registry is faithful
(`Registry.Built.faithful`).
-/

namespace FlightBlocks.Registry

open Markup (IsName)

/-- A registry that some registrations lead to, one after the other. -/
inductive Built : Registry → Prop where
  | empty : Built .empty
  | register {r : Registry} (before : Built r) (tag : String) (type : NodeType) : Built (r.register tag type)

theorem Built.registerAll {r : Registry} (built : r.Built) (entries : List (String × NodeType)) :
    (r.registerAll entries).Built := by
  induction entries generalizing r with
  | nil => exact built
  | cons entry rest ih => exact ih (built.register entry.1 entry.2)

theorem full_built : full.Built := (Built.empty.registerAll hostEntries).registerAll extensionEntries

/-! ## The two tables -/

/-- Tags and types lead to one another: a type is saved under a tag that stands for it, and every type
    that a tag stands for is saved under some tag. -/
structure InStep (r : Registry) : Prop where
  leads_back : ∀ {type : NodeType} {tag : String}, r.tag? type = some tag → r.type? tag = some type
  tagged : ∀ {tag : String} {type : NodeType}, r.type? tag = some type → (r.tag? type).isSome

theorem inStep_empty : empty.InStep where
  leads_back found := by cases found
  tagged found := by simp [type?, empty] at found

theorem type?_register (r : Registry) (tag : String) (type : NodeType) (other : String) :
    (r.register tag type).type? other = if tag = other then some type else r.type? other := by
  simp [type?, register, Std.ExtTreeMap.getElem?_insert]

theorem type?_of_firstTag? {types : Std.ExtTreeMap String NodeType} {type : NodeType} {tag : String}
    (first : firstTag? types type = some tag) : types[tag]? = some type := by
  obtain ⟨⟨tag', type'⟩, found, rfl⟩ := Option.map_eq_some_iff.mp first
  have same : type' = type := by simpa using List.find?_some found
  rw [← same]
  exact Std.ExtTreeMap.mem_toList_iff_getElem?_eq_some.mp (List.mem_of_find?_eq_some found)

theorem firstTag?_isSome {types : Std.ExtTreeMap String NodeType} {type : NodeType} {tag : String}
    (found : types[tag]? = some type) : (firstTag? types type).isSome := by
  have member := Std.ExtTreeMap.mem_toList_iff_getElem?_eq_some.mpr found
  simp only [firstTag?, Option.isSome_map, List.find?_isSome]
  exact ⟨_, member, by simp⟩

/-- The tag that a type is saved under once `tag` stands for another: where the tag was taken from the
    type, one that is left, and else the one before. -/
theorem tag?_register_other (r : Registry) (tag : String) {type other : NodeType} (differs : other ≠ type) :
    (r.register tag type).tag? other =
      if r.type? tag = some other ∧ r.tag? other = some tag then firstTag? (r.types.insert tag type) other
      else r.tag? other := by
  simp only [register, retag, if_neg differs]
  cases found : r.type? tag with
  | none => simp
  | some old =>
    by_cases displaced : old = other
    · subst displaced
      by_cases saved : r.tag? old = some tag
      · simp [differs, saved, retag]
      · simp [saved]
    · have untouched : ∀ tag', retag r.tag? old tag' other = r.tag? other := fun tag' => if_neg (Ne.symm displaced)
      by_cases taken : old ≠ type ∧ r.tag? old = some tag
      · simp only [if_pos taken, untouched]
        simp [displaced]
      · simp only [if_neg taken]
        simp [displaced]

/-- What a registration leads to. A type that loses the tag it was saved under falls back to another of its
    tags, whichever that is. -/
structure Registers (r : Registry) (tag : String) (type : NodeType) (after : Registry) : Prop where
  types : ∀ other, after.type? other = if tag = other then some type else r.type? other
  own : after.tag? type = some tag
  kept : ∀ other, other ≠ type → ¬(r.type? tag = some other ∧ r.tag? other = some tag) →
    after.tag? other = r.tag? other
  falls_back : ∀ other, other ≠ type → r.type? tag = some other → r.tag? other = some tag →
    (∀ left, after.tag? other = some left → after.type? left = some other) ∧
      ∀ left, after.type? left = some other → (after.tag? other).isSome

theorem registers (r : Registry) (tag : String) (type : NodeType) : r.Registers tag type (r.register tag type) where
  types := type?_register r tag type
  own := by simp [register, retag]
  kept := by
    intro other differs kept
    rw [tag?_register_other r tag differs, if_neg kept]
  falls_back := by
    intro other differs stood saved
    rw [tag?_register_other r tag differs, if_pos ⟨stood, saved⟩]
    constructor
    · exact fun left first => type?_of_firstTag? first
    · exact fun left found => firstTag?_isSome found

/-- The tables stay in step, whatever a type falls back to. -/
theorem InStep.of_registers {r after : Registry} (h : r.InStep) {tag : String} {type : NodeType}
    (registers : r.Registers tag type after) : after.InStep where
  leads_back := by
    intro other found saved
    by_cases same : other = type
    · subst same
      obtain rfl : tag = found := Option.some.inj (registers.own.symm.trans saved)
      rw [registers.types, if_pos rfl]
    · by_cases displaced : r.type? tag = some other ∧ r.tag? other = some tag
      · exact (registers.falls_back other same displaced.1 displaced.2).1 found saved
      · rw [registers.kept other same displaced] at saved
        have stood := h.leads_back saved
        have untouched : tag ≠ found := by
          rintro rfl
          exact displaced ⟨stood, saved⟩
        rw [registers.types, if_neg untouched, stood]
  tagged := by
    intro other found stands
    by_cases same : found = type
    · rw [same, registers.own]
      rfl
    · by_cases displaced : r.type? tag = some found ∧ r.tag? found = some tag
      · exact (registers.falls_back found same displaced.1 displaced.2).2 other stands
      · rw [registers.kept found same displaced]
        rw [registers.types] at stands
        split at stands
        · exact absurd (Option.some.inj stands).symm same
        · exact h.tagged stands

theorem InStep.register {r : Registry} (h : r.InStep) (tag : String) (type : NodeType) :
    (r.register tag type).InStep := h.of_registers (registers r tag type)

/-- Whatever is registered, the tables stay in step. -/
theorem Built.inStep {r : Registry} (built : r.Built) : r.InStep := by
  induction built with
  | empty => exact inStep_empty
  | register _ tag type ih => exact ih.register tag type

/-! ## Tags that can be written -/

/-- The name that a type is saved under is one of its tags. The nodes of a craft id have a name of
    their own, which has to be a tag of theirs. -/
theorem InStep.savedName {r : Registry} (h : r.InStep)
    (craft : (∃ tag, r.type? tag = some .craftId) → r.type? NodeType.craftId.name = some .craftId)
    {tag : String} {type : NodeType} (found : r.type? tag = some type) : r.type? (r.savedName type) = some type := by
  unfold Registry.savedName
  by_cases is_craft : type = .craftId
  · subst is_craft
    rw [if_pos rfl]
    exact craft ⟨tag, found⟩
  · obtain ⟨under, saved⟩ := Option.isSome_iff_exists.mp (h.tagged found)
    rw [if_neg is_craft, saved]
    exact h.leads_back saved

theorem mem_tags_iff {r : Registry} {tag : String} : tag ∈ r.tags ↔ ∃ type, r.type? tag = some type := by
  rw [tags, Std.ExtTreeMap.mem_keys, Std.ExtTreeMap.mem_iff_isSome_getElem?, Option.isSome_iff_exists]
  rfl

/-- Every node of a registry can be saved when its tags are names, none is that of a body, and craft
    ids have the tag that they are always saved under. -/
theorem Built.faithful {r : Registry} (built : r.Built)
    (names : ∀ tag ∈ r.tags, IsName tag ∧ tag ≠ Document.instructionsTag)
    (craft : (∃ tag, r.type? tag = some .craftId) → r.type? NodeType.craftId.name = some .craftId) :
    r.Faithful := by
  intro tag type found
  have leads_back := built.inStep.savedName craft found
  obtain ⟨is_name, no_chain⟩ := names _ (mem_tags_iff.mpr ⟨type, leads_back⟩)
  exact ⟨built.inStep.tagged found, leads_back, is_name, no_chain⟩

end FlightBlocks.Registry
