import FlightBlocks.Proofs.History

/-!
# Registrations made again or in another order

The second time that a list of tags is registered, each of them stands for its type already. So no type loses a tag,
and each type of the list gets back the last of its tags, under which it was saved before (`registered_twice`).

Of two registrations one may take a tag to which the other lets a type fall back. Where there is no choice between
several tags to fall back to, both orders leave that type with a tag that neither of the two takes, or with none
(`registered_in_either_order`).
-/

namespace FlightBlocks

namespace Registry

variable {r after : Registry} {entries : List (String × NodeType)} {tag : String} {type : NodeType}

/-- A registry is known by what its two tables say. -/
theorem eq_of_entries {s : Registry} (types : ∀ tag, r.type? tag = s.type? tag)
    (tags : ∀ type, r.tag? type = s.tag? type) : r = s := by
  obtain ⟨table, tag?⟩ := r
  obtain ⟨table', tag?'⟩ := s
  obtain rfl : table = table' := Std.ExtTreeMap.ext_getElem? types
  obtain rfl : tag? = tag?' := funext tags
  rfl

/-! ## Lists of registrations -/

/-- Registering a list of tags in order may lead from one registry to another. -/
inductive RegistersAll : Registry → List (String × NodeType) → Registry → Prop
  | nil (r : Registry) : RegistersAll r [] r
  | cons {r next after : Registry} {tag : String} {type : NodeType} {rest : List (String × NodeType)}
      (first : r.Registers tag type next) (others : RegistersAll next rest after) :
      RegistersAll r ((tag, type) :: rest) after

theorem registersAll (r : Registry) (entries : List (String × NodeType)) :
    r.RegistersAll entries (r.registerAll entries) := by
  induction entries generalizing r with
  | nil => exact .nil r
  | cons entry rest ih => exact .cons (registers r entry.1 entry.2) (ih _)

/-- The tag that a list registers last for a type. -/
def lastTag? (type : NodeType) : List (String × NodeType) → Option String
  | [] => none
  | (tag, other) :: rest => (lastTag? type rest).or (if other = type then some tag else none)

namespace RegistersAll

theorem type?_of_not_mem (all : r.RegistersAll entries after) (unnamed : tag ∉ entries.map (·.1)) :
    after.type? tag = r.type? tag := by
  induction all with
  | nil r => rfl
  | cons first _ ih =>
    obtain ⟨differs, unnamed⟩ := List.ne_and_not_mem_of_not_mem_cons unnamed
    rw [ih unnamed, first.types, if_neg (Ne.symm differs)]

/-- Each tag stands for the type that it was registered for. -/
theorem type?_of_mem (all : r.RegistersAll entries after) (distinct : (entries.map (·.1)).Nodup)
    (member : (tag, type) ∈ entries) : after.type? tag = some type := by
  induction all with
  | nil r => cases member
  | cons first others ih =>
    obtain ⟨new, distinct⟩ := List.nodup_cons.mp distinct
    rcases List.mem_cons.mp member with same | later
    · cases same
      rw [others.type?_of_not_mem new, first.types, if_pos rfl]
    · exact ih distinct later

/-- A type keeps its tag when neither of them is in the list. -/
theorem tag?_of_not_mem (all : r.RegistersAll entries after) (saved : r.tag? type = some tag)
    (unnamed : tag ∉ entries.map (·.1)) (absent : lastTag? type entries = none) : after.tag? type = some tag := by
  induction all with
  | nil r => exact saved
  | cons first _ ih =>
    obtain ⟨differs, unnamed⟩ := List.ne_and_not_mem_of_not_mem_cons unnamed
    obtain ⟨absent, other⟩ := Option.or_eq_none_iff.mp absent
    refine ih ?_ unnamed absent
    rw [first.kept _ (by rintro rfl; simp at other), saved]
    rintro ⟨-, taken⟩
    exact differs (Option.some.inj (saved.symm.trans taken))

/-- Each type of the list is saved under the last of its tags. -/
theorem tag?_of_lastTag? (all : r.RegistersAll entries after) (distinct : (entries.map (·.1)).Nodup)
    (last : lastTag? type entries = some tag) : after.tag? type = some tag := by
  induction all with
  | nil r => cases last
  | @cons r next after new other rest first others ih =>
    obtain ⟨unnamed, distinct⟩ := List.nodup_cons.mp distinct
    rw [lastTag?] at last
    cases later : lastTag? type rest with
    | some found =>
      rw [later] at last
      exact ih distinct (later.trans last)
    | none =>
      rw [later, Option.none_or] at last
      by_cases same : other = type
      · subst same
        obtain rfl : new = tag := by simpa using last
        exact others.tag?_of_not_mem first.own unnamed later
      · rw [if_neg same] at last
        cases last

/-- Registering tags for the types that they stand for already only chooses the tags of these types. -/
theorem of_registered (all : r.RegistersAll entries after)
    (stand : ∀ entry ∈ entries, r.type? entry.1 = some entry.2) :
    (∀ tag, after.type? tag = r.type? tag) ∧ ∀ type, after.tag? type = (lastTag? type entries).or (r.tag? type) := by
  induction all with
  | nil r => exact ⟨fun _ => rfl, fun _ => rfl⟩
  | @cons r next after new other rest first others ih =>
    obtain ⟨stands, stand⟩ := List.forall_mem_cons.mp stand
    have types : ∀ tag, next.type? tag = r.type? tag := by
      intro tag
      rw [first.types]
      split
      · rename_i same
        rw [← same, stands]
      · rfl
    obtain ⟨types', tags⟩ := ih fun entry member => (types entry.1).trans (stand entry member)
    refine ⟨fun tag => (types' tag).trans (types tag), fun type => ?_⟩
    rw [tags, lastTag?, Option.or_assoc]
    by_cases same : other = type
    · subst same
      rw [first.own, if_pos rfl]
      rfl
    · have kept : next.tag? type = r.tag? type := by
        refine first.kept type (Ne.symm same) ?_
        rintro ⟨taken, -⟩
        exact same (Option.some.inj (stands.symm.trans taken))
      rw [kept, if_neg same, Option.none_or]

/-- A list of different tags that is registered again changes nothing. -/
theorem again {once twice : Registry} (first : r.RegistersAll entries once) (distinct : (entries.map (·.1)).Nodup)
    (second : once.RegistersAll entries twice) : twice = once := by
  obtain ⟨types, tags⟩ := second.of_registered fun _ member => first.type?_of_mem distinct member
  refine eq_of_entries types fun type => ?_
  rw [tags]
  cases last : lastTag? type entries with
  | none => rfl
  | some tag => rw [Option.some_or, first.tag?_of_lastTag? distinct last]

end RegistersAll

/-! ## Two registrations -/

/-- The other tags of a type are one at most, so that it has no choice when it loses a tag. -/
def OneOther (r : Registry) (tag : String) (type : NodeType) : Prop :=
  ∀ left right, left ≠ tag → right ≠ tag → r.type? left = some type → r.type? right = some type → left = right

/-- A type that loses the tag it is saved under, when this is registered for another type, has one other tag at most
    to fall back to. -/
def FallsBackUniquely (r : Registry) (tag : String) (type : NodeType) : Prop :=
  ∀ other, other ≠ type → r.type? tag = some other → r.tag? other = some tag → r.OneOther tag other

section TwoRegistrations

variable {next : Registry} {a b left : String} {first second other : NodeType}

/-- Registering a tag takes it from every other type and nothing else. -/
theorem Registers.type?_iff (step : r.Registers tag type after) (differs : other ≠ type) (left : String) :
    after.type? left = some other ↔ left ≠ tag ∧ r.type? left = some other := by
  rw [step.types]
  by_cases same : tag = left
  · simp [same, Ne.symm differs]
  · simp [same, Ne.symm same]

/-- A type that loses its tag falls back to the one that is left, if there is one. -/
theorem Registers.tag?_iff (step : r.Registers tag type after) (differs : other ≠ type)
    (stood : r.type? tag = some other) (saved : r.tag? other = some tag) (one : r.OneOther tag other) (left : String) :
    after.tag? other = some left ↔ left ≠ tag ∧ r.type? left = some other := by
  obtain ⟨leads_back, some_left⟩ := step.falls_back other differs stood saved
  rw [← step.type?_iff differs]
  constructor
  · exact leads_back left
  · intro stands
    obtain ⟨found, falls⟩ := Option.isSome_iff_exists.mp (some_left left stands)
    obtain ⟨untaken, before⟩ := (step.type?_iff differs left).mp stands
    obtain ⟨untaken', before'⟩ := (step.type?_iff differs found).mp (leads_back found falls)
    rw [falls, one found left untaken' untaken before' before]

theorem OneOther.of_registers (one : r.OneOther a other) (step : r.Registers a first next) (differs : other ≠ first)
    (tag : String) : next.OneOther tag other := by
  intro left right _ _ stands stands'
  obtain ⟨untaken, before⟩ := (step.type?_iff differs left).mp stands
  obtain ⟨untaken', before'⟩ := (step.type?_iff differs right).mp stands'
  exact one left right untaken untaken' before before'

/-- A type that loses its tag to the first of two registrations ends with a tag that neither takes: where it falls back
    to the tag that the second takes, it loses that too. -/
theorem tag?_of_loss_then (step : r.Registers a first next) (then_step : next.Registers b second after) (tags : a ≠ b)
    (not_first : other ≠ first) (not_second : other ≠ second) (stood : r.type? a = some other)
    (saved : r.tag? other = some a) (one : r.OneOther a other) (left : String) :
    after.tag? other = some left ↔ left ≠ b ∧ left ≠ a ∧ r.type? left = some other := by
  have falls := step.tag?_iff not_first stood saved one
  by_cases taken : r.type? b = some other
  · have stood' : next.type? b = some other := (step.type?_iff not_first b).mpr ⟨tags.symm, taken⟩
    have saved' : next.tag? other = some b := (falls b).mpr ⟨tags.symm, taken⟩
    rw [then_step.tag?_iff not_second stood' saved' (one.of_registers step not_first b), step.type?_iff not_first]
  · have kept : after.tag? other = next.tag? other := by
      refine then_step.kept other not_second ?_
      rintro ⟨stands, -⟩
      exact taken ((step.type?_iff not_first b).mp stands).2
    rw [kept, falls]
    constructor
    · rintro ⟨untaken, stands⟩
      exact ⟨fun same => taken (same ▸ stands), untaken, stands⟩
    · exact And.right

/-- A type that loses its tag to the second of two registrations ends with a tag that neither takes. -/
theorem tag?_of_loss_behind (step : r.Registers b second next) (then_step : next.Registers a first after) (tags : a ≠ b)
    (not_first : other ≠ first) (not_second : other ≠ second) (stood : r.type? a = some other)
    (saved : r.tag? other = some a) (one : r.OneOther a other) (left : String) :
    after.tag? other = some left ↔ left ≠ b ∧ left ≠ a ∧ r.type? left = some other := by
  have kept : next.tag? other = some a := by
    rw [step.kept other not_second, saved]
    rintro ⟨-, taken⟩
    exact tags (Option.some.inj (saved.symm.trans taken))
  have stands : next.type? a = some other := (step.type?_iff not_second a).mpr ⟨tags, stood⟩
  have one_left : next.OneOther a other := fun left right untaken untaken' stands stands' =>
    one left right untaken untaken' ((step.type?_iff not_second left).mp stands).2
      ((step.type?_iff not_second right).mp stands').2
  rw [then_step.tag?_iff not_first stands kept one_left, step.type?_iff not_second, and_left_comm]

/-- A type that loses its tag to neither of two registrations keeps it. -/
theorem tag?_of_no_loss (step : r.Registers a first next) (then_step : next.Registers b second after)
    (not_first : other ≠ first) (not_second : other ≠ second)
    (keeps : ¬(r.type? a = some other ∧ r.tag? other = some a))
    (keeps' : ¬(r.type? b = some other ∧ r.tag? other = some b)) : after.tag? other = r.tag? other := by
  have kept := step.kept other not_first keeps
  rw [then_step.kept other not_second, kept]
  rintro ⟨stands, saved⟩
  exact keeps' ⟨((step.type?_iff not_first b).mp stands).2, kept.symm.trans saved⟩

/-- The types that two registrations are for are saved under the tags of these, whichever is made first. -/
theorem tag?_of_two (step : r.Registers a first next) (then_step : next.Registers b second after) (tags : a ≠ b)
    (types : first ≠ second) : after.tag? first = some a ∧ after.tag? second = some b := by
  refine ⟨?_, then_step.own⟩
  rw [then_step.kept first types, step.own]
  rintro ⟨-, taken⟩
  exact tags (Option.some.inj (step.own.symm.trans taken))

theorem type?_of_two (step : r.Registers a first next) (then_step : next.Registers b second after) (tag : String) :
    after.type? tag = if b = tag then some second else if a = tag then some first else r.type? tag := by
  rw [then_step.types, step.types]

end TwoRegistrations

/-- Two registrations lead to one registry in either order. -/
theorem Registers.comm {r m₁ m₂ r₁₂ r₂₁ : Registry} {a b : String} {first second : NodeType} (tags : a ≠ b)
    (types : first ≠ second) (one : r.FallsBackUniquely a first) (two : r.FallsBackUniquely b second)
    (step₁ : r.Registers a first m₁) (step₁₂ : m₁.Registers b second r₁₂)
    (step₂ : r.Registers b second m₂) (step₂₁ : m₂.Registers a first r₂₁) : r₁₂ = r₂₁ := by
  apply eq_of_entries
  · intro tag
    rw [type?_of_two step₁ step₁₂, type?_of_two step₂ step₂₁]
    by_cases at_a : a = tag
    · subst at_a
      rw [if_neg tags.symm, if_pos rfl, if_pos rfl]
    · rw [if_neg at_a, if_neg at_a]
  · intro other
    by_cases is_first : other = first
    · subst is_first
      rw [(tag?_of_two step₁ step₁₂ tags types).1, (tag?_of_two step₂ step₂₁ tags.symm types.symm).2]
    by_cases is_second : other = second
    · subst is_second
      rw [(tag?_of_two step₁ step₁₂ tags types).2, (tag?_of_two step₂ step₂₁ tags.symm types.symm).1]
    by_cases loss_a : r.type? a = some other ∧ r.tag? other = some a
    · have only := one other is_first loss_a.1 loss_a.2
      ext left
      rw [tag?_of_loss_then step₁ step₁₂ tags is_first is_second loss_a.1 loss_a.2 only,
        tag?_of_loss_behind step₂ step₂₁ tags is_first is_second loss_a.1 loss_a.2 only]
    by_cases loss_b : r.type? b = some other ∧ r.tag? other = some b
    · have only := two other is_second loss_b.1 loss_b.2
      ext left
      rw [tag?_of_loss_behind step₁ step₁₂ tags.symm is_second is_first loss_b.1 loss_b.2 only,
        tag?_of_loss_then step₂ step₂₁ tags.symm is_second is_first loss_b.1 loss_b.2 only]
    rw [tag?_of_no_loss step₁ step₁₂ is_first is_second loss_a loss_b,
      tag?_of_no_loss step₂ step₂₁ is_second is_first loss_b loss_a]

end Registry

open Registry

/-- Registering a list of different tags again, over whatever registry it was first registered, changes neither what
    the tags stand for nor the tag that any type is saved under. So does installing the extension again. -/
theorem registered_twice {entries : List (String × NodeType)} (distinct : (entries.map (·.1)).Nodup) (r : Registry) :
    (∀ once twice, r.RegistersAll entries once → once.RegistersAll entries twice → twice = once) ∧
      (r.registerAll entries).registerAll entries = r.registerAll entries ∧
      r.withExtension.withExtension = r.withExtension :=
  ⟨fun _ _ first second => first.again distinct second,
    (registersAll r entries).again distinct (registersAll _ entries),
    (registersAll r extensionEntries).again (by decide +kernel) (registersAll _ extensionEntries)⟩

/-- The tags of the language and then those of the extension, over the registry that they make up. -/
theorem registered_twice_for_the_extension :
    ((hostEntries ++ extensionEntries).map (·.1)).Nodup ∧
      full.registerAll (hostEntries ++ extensionEntries) = full ∧ full.withExtension = full := by
  have distinct : ((hostEntries ++ extensionEntries).map (·.1)).Nodup := by decide +kernel
  have all : full = Registry.empty.registerAll (hostEntries ++ extensionEntries) := List.foldl_append.symm
  refine ⟨distinct, ?_, ?_⟩
  · rw [all]
    exact (registered_twice distinct Registry.empty).2.1
  · exact (registered_twice distinct host).2.2

/-- Two registrations of different tags for different types lead to the same answers in either order, each made in
    any way that is open to it, where a type that loses a tag never has a choice of others to fall back to. -/
theorem registered_in_either_order {r m₁ m₂ r₁₂ r₂₁ : Registry} {a b : String} {first second : NodeType}
    (tags : a ≠ b) (types : first ≠ second) (one : r.FallsBackUniquely a first) (two : r.FallsBackUniquely b second)
    (step₁ : r.Registers a first m₁) (step₁₂ : m₁.Registers b second r₁₂)
    (step₂ : r.Registers b second m₂) (step₂₁ : m₂.Registers a first r₂₁) :
    (∀ tag, r₁₂.create? tag = r₂₁.create? tag) ∧ (∀ type, r₁₂.entryOf? type = r₂₁.entryOf? type) ∧
      ∀ type, r₁₂.tag? type = r₂₁.tag? type := by
  obtain rfl := Registers.comm tags types one two step₁ step₁₂ step₂ step₂₁
  exact ⟨fun _ => rfl, fun _ => rfl, fun _ => rfl⟩

/-- Two tags for constants, which are saved under the second. -/
def twoNames : Registry := Registry.empty.registerAll [("Value", .constant), ("Number", .constant)]

theorem type?_twoNames {tag : String} {type : NodeType} (found : twoNames.type? tag = some type) :
    (tag = "Value" ∨ tag = "Number") ∧ type = .constant := by
  simp only [twoNames, registerAll, List.foldl_cons, List.foldl_nil, type?_register] at found
  split at found
  · rename_i number
    exact ⟨.inr number.symm, (Option.some.inj found).symm⟩
  split at found
  · rename_i value
    exact ⟨.inl value.symm, (Option.some.inj found).symm⟩
  · simp [type?, Registry.empty] at found

/-- Where both tags are taken, constants fall back from one to the other or lose the other first; they end without a
    tag either way. -/
theorem registered_in_either_order_over_two_names :
    twoNames.tag? .constant = some "Number" ∧
      (∀ type, ((twoNames.register "Number" .variable).register "Value" .log).tag? type =
        ((twoNames.register "Value" .log).register "Number" .variable).tag? type) ∧
      (twoNames.register "Number" .variable).tag? .constant = some "Value" ∧
      ((twoNames.register "Number" .variable).register "Value" .log).tag? .constant = none := by
  have one : twoNames.FallsBackUniquely "Number" .variable := by
    intro other _ _ _ left right untaken untaken' stands stands'
    rw [(type?_twoNames stands).1.resolve_right untaken, (type?_twoNames stands').1.resolve_right untaken']
  have two : twoNames.FallsBackUniquely "Value" .log := by
    intro other _ _ _ left right untaken untaken' stands stands'
    rw [(type?_twoNames stands).1.resolve_left untaken, (type?_twoNames stands').1.resolve_left untaken']
  have same := registered_in_either_order (by decide) (by decide) one two (registers _ "Number" .variable)
    (registers _ "Value" .log) (registers _ "Value" .log) (registers _ "Number" .variable)
  exact ⟨by decide +kernel, same.2.2, by decide +kernel, by decide +kernel⟩

end FlightBlocks
