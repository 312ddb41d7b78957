import FlightBlocks.Extension.Basic
import FlightBlocks.Proofs.Inventory
import FlightBlocks.Proofs.Placement
import FlightBlocks.Proofs.Registration
import FlightBlocks.Proofs.Scanning

/-!
# When the extension is required

A craft requires the extension when a search of one of its programs finds a node of the extension. A text
needs the extension when it loads with it and does not load without it. The first implies the second, and
the other way round where each instruction has one body at most (`required_iff_used`). A body that was given
up for another one makes the difference: its nodes are loaded, but no search finds them.
-/

namespace FlightBlocks

open Markup (Element)

/-! ## The tags of the language itself -/

namespace Registry

/-- The tags of the language itself are those that stand for its types with the extension, too. -/
theorem host_type? (tag : String) : host.type? tag = (full.type? tag).filter fun type => decide type.IsHost := by
  have known : ∀ tag ∈ full.tags, host.type? tag = (full.type? tag).filter fun type => decide type.IsHost := by
    decide +kernel
  have more : ∀ tag ∈ host.tags, tag ∈ full.tags := by
    decide +kernel
  by_cases found : tag ∈ full.tags
  · exact known tag found
  · have not_host : tag ∉ host.tags := fun member => found (more tag member)
    rw [mem_tags_iff, not_exists] at found not_host
    rw [Option.eq_none_iff_forall_ne_some.mpr found, Option.eq_none_iff_forall_ne_some.mpr not_host]
    rfl

theorem host_type?_eq {tag : String} {type : NodeType} (found : host.type? tag = some type) :
    full.type? tag = some type := by
  rw [host_type?, Option.filter_eq_some_iff] at found
  exact found.1

/-- A tag that stands for a type stands for it without the extension just when the language supplies the
    type. -/
theorem host_type?_eq_none_iff {tag : String} {type : NodeType} (found : full.type? tag = some type) :
    host.type? tag = none ↔ ¬type.IsHost := by
  rw [host_type?, found]
  simp

end Registry

namespace Document

variable {r other : Registry}

/-! ## Registries that agree -/

theorem expressionNode_congr {e : Element} (same : r.type? e.name = other.type? e.name) :
    expressionNode r e = expressionNode other e := by
  unfold expressionNode Registry.create?
  rw [same]

theorem instructionNode_congr {e : Element} (same : r.type? e.name = other.type? e.name) :
    instructionNode r e = instructionNode other e := by
  unfold instructionNode Registry.create?
  rw [same]

/-- Two registries let the tags of some elements stand for the same types. -/
def Agree (r other : Registry) (o : Occurrences) : Prop :=
  ∀ x ∈ o.all, r.type? x.element.name = other.type? x.element.name

theorem Agree.of_append {o more : Occurrences} (agree : Agree r other (o ++ more)) :
    Agree r other o ∧ Agree r other more :=
  ⟨fun x member => agree x (Occurrences.mem_append.mpr (.inl member)),
    fun x member => agree x (Occurrences.mem_append.mpr (.inr member))⟩

theorem Agree.of_discard {o : Occurrences} (agree : Agree r other o.discard) : Agree r other o := by
  intro x member
  refine agree { x with kept := false } ?_
  simp only [Occurrences.all, Occurrences.discard, List.mem_append, List.mem_map] at member ⊢
  rcases member with expression | instruction
  · exact .inl ⟨x, expression, rfl⟩
  · exact .inr ⟨x, instruction, rfl⟩

mutual

theorem readExpression_congr : ∀ (e : Element), Agree r other (.ofExpression e) →
    readExpression r e = readExpression other e
  | ⟨tag, attributes, children⟩, agree => by
    rw [Occurrences.ofExpression] at agree
    obtain ⟨below, itself⟩ := agree.of_append
    rw [readExpression, readExpression, expressionNode_congr (itself ⟨_, true⟩ (by simp)),
      readExpressions_congr children below]

theorem readExpressions_congr : ∀ (es : List Element), Agree r other (.ofExpressions es) →
    readExpressions r es = readExpressions other es
  | [], _ => rfl
  | e :: rest, agree => by
    rw [Occurrences.ofExpressions] at agree
    obtain ⟨first, more⟩ := agree.of_append
    rw [readExpressions, readExpressions, readExpression_congr e first, readExpressions_congr rest more]

end

mutual

theorem readInstruction_congr : ∀ (e : Element), Agree r other (.ofInstruction e) →
    readInstruction r e = readInstruction other e
  | ⟨tag, attributes, children⟩, agree => by
    rw [Occurrences.ofInstruction] at agree
    obtain ⟨below, itself⟩ := agree.of_append
    rw [readInstruction, readInstruction, instructionNode_congr (itself ⟨_, true⟩ (by simp))]
    congr 1
    funext node
    rw [readHeld_congr tag node.hasBody children below]

theorem readHeld_congr (tag : String) (hasBody : Bool) : ∀ (es : List Element) {held : Held},
    Agree r other (.ofParts es) → readHeld r tag hasBody held es = readHeld other tag hasBody held es
  | [], _, _ => by rw [readHeld, readHeld]
  | ⟨name, attributes, children⟩ :: rest, held, agree => by
    rw [Occurrences.ofParts] at agree
    rw [readHeld, readHeld]
    by_cases body : name = instructionsTag
    · rw [if_pos body] at agree
      obtain ⟨inside, behind⟩ := agree.of_append
      have chain : Agree r other (.ofInstructions children) := by
        split at inside
        · exact inside.of_discard
        · exact inside
      rw [if_pos body, if_pos body, readInstructions_congr children chain]
      simp only [readHeld_congr tag hasBody rest behind]
    · rw [if_neg body] at agree
      obtain ⟨first, behind⟩ := agree.of_append
      rw [if_neg body, if_neg body, readExpression_congr _ first]
      simp only [readHeld_congr tag hasBody rest behind]

theorem readInstructions_congr : ∀ (es : List Element), Agree r other (.ofInstructions es) →
    readInstructions r es = readInstructions other es
  | [], _ => by rw [readInstructions, readInstructions]
  | e :: rest, agree => by
    rw [Occurrences.ofInstructions] at agree
    obtain ⟨first, more⟩ := agree.of_append
    rw [readInstructions, readInstructions, readInstruction_congr e first, readInstructions_congr rest more]

end

theorem readCustomInstructions_congr (es : List Element) (agree : Agree r other (.ofCustomInstructions es)) :
    readCustomInstructions r es = readCustomInstructions other es := by
  induction es with
  | nil => rfl
  | cons e rest ih =>
    rw [Occurrences.ofCustomInstructions] at agree
    obtain ⟨first, more⟩ := agree.of_append
    rw [readCustomInstructions, readCustomInstructions, readInstructions_congr _ first, ih more]

theorem readSection_congr (e : Element) (t : ProgramTree) (agree : Agree r other (.ofSection e)) :
    readSection r t e = readSection other t e := by
  unfold Occurrences.ofSection at agree
  unfold readSection
  split_ifs at agree ⊢
  · rw [readInstructions_congr _ agree]
  · rw [readExpressions_congr _ agree]
  · rw [readCustomInstructions_congr _ agree]
  · rw [readExpressions_congr _ agree]
  · rfl

/-- A program is read alike with registries that agree on its elements. -/
theorem read_congr {root : Element} (agree : Agree r other (.ofProgram root)) : read r root = read other root := by
  have sections : ∀ (es : List Element) (t : ProgramTree), Agree r other (.ofSections es) →
      es.foldlM (readSection r) t = es.foldlM (readSection other) t := by
    intro es
    induction es with
    | nil => exact fun _ _ => rfl
    | cons e rest ih =>
      intro t agree
      rw [Occurrences.ofSections] at agree
      obtain ⟨first, more⟩ := agree.of_append
      rw [List.foldlM_cons, List.foldlM_cons, readSection_congr e t first]
      congr 1
      funext next
      exact ih next more
  unfold read
  rw [sections root.children _ agree]

/-! ## Programs that load without the extension -/

/-- What is paired with something is paired with one of its list. -/
theorem exists_of_forall₂ {α β : Type} {R : α → β → Prop} {as : List α} {bs : List β} (pairs : List.Forall₂ R as bs) :
    ∀ a ∈ as, ∃ b, R a b := by
  induction pairs with
  | nil => simp
  | cons first _ ih => exact List.forall_mem_cons.mpr ⟨⟨_, first⟩, ih⟩

/-- The tag of every element that was loaded stands for a type. -/
theorem Accounts.tagged {p : Program} {o : Occurrences} (accounts : Accounts r p o) :
    ∀ x ∈ o.all, ∃ type, r.type? x.element.name = some type := by
  intro x member
  rcases List.mem_append.mp member with expression | instruction
  · obtain ⟨slot, made⟩ := exists_of_forall₂ accounts.expressions x expression
    obtain ⟨type, _, found, -⟩ := expressionNode_iff.mp made
    exact ⟨type, found⟩
  · obtain ⟨slot, made⟩ := exists_of_forall₂ accounts.instructions x instruction
    obtain ⟨type, _, found, -⟩ := instructionNode_iff.mp made
    exact ⟨type, found⟩

/-- Of the programs that load with the extension those load without it whose elements all have a tag of the
    language itself. -/
theorem loads_host_iff {root : Element} {p : Program} (loads : load .full root = .ok p) :
    (∃ q, load .host root = .ok q) ↔
      ∀ x ∈ (Occurrences.ofProgram root).all, Registry.host.type? x.element.name ≠ none := by
  constructor
  · rintro ⟨q, loads_host⟩ x member unknown
    obtain ⟨type, found⟩ := (load_accounts loads_host).tagged x member
    rw [unknown] at found
    cases found
  · intro known
    have agree : Agree .host .full (.ofProgram root) := by
      intro x member
      obtain ⟨type, found⟩ := Option.ne_none_iff_exists'.mp (known x member)
      rw [found, Registry.host_type?_eq found]
    obtain ⟨t, reads, -⟩ := read_of_load loads
    have same := load_builds .host root
    rw [read_congr agree, reads] at same
    obtain ⟨q, loads_host, -⟩ := same
    exact ⟨q, loads_host⟩

/-! ## Programs in which a search finds the extension -/

/-- The program keeps an element that has no tag of the language itself. -/
def KeepsExtension (root : Element) : Prop :=
  ∃ x ∈ (Occurrences.ofProgram root).all, x.kept = true ∧ Registry.host.type? x.element.name = none

theorem allHost_iff {root : Element} {p : Program} (loads : load .full root = .ok p) {t : ProgramTree}
    (reads : read .full root = .ok t) : t.AllHost ↔ ¬KeepsExtension root := by
  rw [ProgramTree.AllHost, ProgramTree.every_iff, Occurrences.nodes_good_iff (read_nodes reads), KeepsExtension]
  constructor
  · rintro host ⟨x, member, kept, unknown⟩
    obtain ⟨type, found, is_host⟩ := host x member kept
    exact (Registry.host_type?_eq_none_iff found).mp unknown is_host
  · intro nothing x member kept
    obtain ⟨type, found⟩ := (load_accounts loads).tagged x member
    refine ⟨type, found, ?_⟩
    by_contra extension
    exact nothing ⟨x, member, kept, (Registry.host_type?_eq_none_iff found).mpr extension⟩

/-- A program that loads uses the extension just when it keeps an element of it. -/
theorem usesExtension_loaded {root : Element} {p : Program} (loads : load .full root = .ok p) :
    ∃ uses, p.usesExtension = .ok uses ∧ (uses = true ↔ KeepsExtension root) := by
  obtain ⟨t, reads, builds⟩ := read_of_load loads
  have every : t.Every (LoadedInstruction fun _ => True) (LoadedExpression fun _ => True) :=
    read_every (fun _ _ _ => trivial) reads
  obtain ⟨found, search, nothing⟩ := Program.findExtension_shows builds.shows every
  refine ⟨found.isSome, by rw [Program.usesExtension, search]; rfl, ?_⟩
  rw [allHost_iff loads reads] at nothing
  rw [← not_iff_not, ← nothing]
  simp

/-- A text loads with the extension, and the program keeps an element of it. -/
def UsesExtension (text : String) : Prop :=
  ∃ root p, Element.parse text = .ok root ∧ load .full root = .ok p ∧ KeepsExtension root

/-- A text loads with the extension, and does not load without it. -/
def NeedsExtension (text : String) : Prop := (∃ p, parse .full text = .ok p) ∧ ¬∃ p, parse .host text = .ok p

theorem parse_iff {text : String} {p : Program} :
    parse r text = .ok p ↔ ∃ root, Element.parse text = .ok root ∧ load r root = .ok p := by
  unfold parse
  cases Element.parse text <;> simp

/-- The extension is needed for any of its elements, kept or not. -/
theorem needsExtension_iff {text : String} : NeedsExtension text ↔
    ∃ root p, Element.parse text = .ok root ∧ load .full root = .ok p ∧
      ∃ x ∈ (Occurrences.ofProgram root).all, Registry.host.type? x.element.name = none := by
  have split : ∀ {root p}, load .full root = .ok p → ((¬∃ q, load .host root = .ok q) ↔
      ∃ x ∈ (Occurrences.ofProgram root).all, Registry.host.type? x.element.name = none) := by
    intro root p loads
    rw [loads_host_iff loads]
    simp
  constructor
  · rintro ⟨⟨p, parses⟩, rejected⟩
    obtain ⟨root, reads, loads⟩ := parse_iff.mp parses
    refine ⟨root, p, reads, loads, (split loads).mp ?_⟩
    rintro ⟨q, loads_host⟩
    exact rejected ⟨q, parse_iff.mpr ⟨root, reads, loads_host⟩⟩
  · rintro ⟨root, p, reads, loads, unknown⟩
    refine ⟨⟨p, parse_iff.mpr ⟨root, reads, loads⟩⟩, ?_⟩
    rintro ⟨q, parses⟩
    obtain ⟨root', reads', loads_host⟩ := parse_iff.mp parses
    rw [reads] at reads'
    cases reads'
    exact (split loads).mpr unknown ⟨q, loads_host⟩

theorem UsesExtension.needs {text : String} (uses : UsesExtension text) : NeedsExtension text := by
  obtain ⟨root, p, reads, loads, x, member, -, unknown⟩ := uses
  exact needsExtension_iff.mpr ⟨root, p, reads, loads, x, member, unknown⟩

/-- A text in which no instruction has more than one body. -/
def SingleBodies (text : String) : Prop :=
  ∀ root, Element.parse text = .ok root → (Occurrences.ofProgram root).Single

theorem NeedsExtension.uses {text : String} (needs : NeedsExtension text) (single : SingleBodies text) :
    UsesExtension text := by
  obtain ⟨root, p, reads, loads, x, member, unknown⟩ := needsExtension_iff.mp needs
  have kept := Occurrences.kept_of_single (single root reads)
  exact ⟨root, p, reads, loads, x, member, kept x member, unknown⟩

end Document

/-! ## Crafts -/

namespace Craft

/-- The texts of the flight programs of a craft. -/
def texts (c : Craft) : List String := (c.parts.getD []).filterMap fun part => part.flightProgram.map (·.text)

/-- No flight program of a craft is loaded. -/
def GivenAsText (c : Craft) : Prop := ∀ part ∈ c.parts.getD [], ∀ program ∈ part.flightProgram, program.loaded = none

theorem toOption_eq_some_iff {ε α : Type} {m : Except ε α} {a : α} : m.toOption = some a ↔ m = .ok a := by
  cases m <;> simp [Except.toOption]

/-- The programs to look at are those of the texts that can be read. -/
theorem GivenAsText.programs {c : Craft} (given : c.GivenAsText) (r : Registry) :
    c.programs r = c.texts.filterMap fun text => (Document.parse r text).toOption := by
  rw [Craft.programs, texts, List.filterMap_filterMap]
  refine List.filterMap_congr fun part member => ?_
  cases has_program : part.flightProgram with
  | none => rfl
  | some program =>
    simp [FlightProgram.program?, given part member program has_program]

theorem GivenAsText.mem_programs {c : Craft} (given : c.GivenAsText) {r : Registry} {p : Program} :
    p ∈ c.programs r ↔ ∃ text ∈ c.texts, Document.parse r text = .ok p := by
  rw [given.programs, List.mem_filterMap]
  simp only [toOption_eq_some_iff]

end Craft

namespace Extension

/-- Where the search of every program ends, one of them uses the extension or none does. -/
theorem anyUses_iff {programs : List Program} (ends : ∀ p ∈ programs, ∃ uses, p.usesExtension = .ok uses) :
    ∃ any, anyUses programs = .ok any ∧ (any = true ↔ ∃ p ∈ programs, p.usesExtension = .ok true) := by
  induction programs with
  | nil => exact ⟨false, rfl, by simp⟩
  | cons p rest ih =>
    obtain ⟨⟨uses, search⟩, ends⟩ := List.forall_mem_cons.mp ends
    obtain ⟨any, others, any_iff⟩ := ih ends
    cases uses with
    | true => exact ⟨true, by simp [anyUses, search, bind, Except.bind, pure, Except.pure], by simp [search]⟩
    | false => exact ⟨any, by simp [anyUses, search, others, bind, Except.bind], by simp [search, any_iff]⟩

end Extension

/-- Whether a craft requires the extension can be told from the texts of its flight programs, however many
    there are and whether they can be read: it does when one of them loads with the extension and keeps an
    element of it. Then this one does not load without the extension. If no instruction in the texts has more
    than one body, the craft requires the extension just when one of its texts needs it. -/
theorem required_iff_used (settings : Settings) (resources : Palette.Resources) {c : Craft} (given : c.GivenAsText) :
    ∃ required, (Extension.install settings .host resources).isRequiredFor c = .ok required ∧
      (required = true ↔ ∃ text ∈ c.texts, Document.UsesExtension text) ∧
      (required = true → ∃ text ∈ c.texts, Document.NeedsExtension text) ∧
      ((∀ text ∈ c.texts, Document.SingleBodies text) →
        (required = true ↔ ∃ text ∈ c.texts, Document.NeedsExtension text)) := by
  have ends : ∀ p ∈ c.programs .full, ∃ uses, p.usesExtension = .ok uses := by
    intro p member
    obtain ⟨text, -, parses⟩ := given.mem_programs.mp member
    obtain ⟨root, -, loads⟩ := Document.parse_iff.mp parses
    obtain ⟨uses, search, -⟩ := Document.usesExtension_loaded loads
    exact ⟨uses, search⟩
  obtain ⟨required, search, required_iff⟩ := Extension.anyUses_iff ends
  have used : required = true ↔ ∃ text ∈ c.texts, Document.UsesExtension text := by
    rw [required_iff]
    constructor
    · rintro ⟨p, member, found⟩
      obtain ⟨text, inside, parses⟩ := given.mem_programs.mp member
      obtain ⟨root, reads, loads⟩ := Document.parse_iff.mp parses
      obtain ⟨uses, search, uses_iff⟩ := Document.usesExtension_loaded loads
      rw [found] at search
      cases search
      exact ⟨text, inside, root, p, reads, loads, uses_iff.mp rfl⟩
    · rintro ⟨text, inside, root, p, reads, loads, kept⟩
      obtain ⟨uses, search, uses_iff⟩ := Document.usesExtension_loaded loads
      rw [uses_iff.mpr kept] at search
      exact ⟨p, given.mem_programs.mpr ⟨text, inside, Document.parse_iff.mpr ⟨root, reads, loads⟩⟩, search⟩
  refine ⟨required, search, used, ?_, ?_⟩
  · intro is_required
    obtain ⟨text, inside, uses⟩ := used.mp is_required
    exact ⟨text, inside, uses.needs⟩
  · intro single
    rw [used]
    constructor
    · rintro ⟨text, inside, uses⟩
      exact ⟨text, inside, uses.needs⟩
    · rintro ⟨text, inside, needs⟩
      exact ⟨text, inside, needs.uses (single text inside)⟩

/-- A craft with a part that has no program, one whose program cannot be read, one whose program does without
    the extension, and one whose program goes on with a loop. -/
def mixedCraft : Craft where
  name := "mixed"
  parts := some [⟨"tank", none⟩, ⟨"broken", some ⟨none, "<Program"⟩⟩,
    ⟨"plain", some ⟨none, "<Program><Instructions><Log/></Instructions></Program>"⟩⟩,
    ⟨"loop", some ⟨none, "<Program><Instructions><While><Instructions><Continue/></Instructions></While>" ++
      "</Instructions></Program>"⟩⟩]

/-- The craft requires the extension, which one of its texts needs. -/
theorem required_iff_used_of_mixed : mixedCraft.GivenAsText ∧
    (Extension.install .default .host Blocks.resources).isRequiredFor mixedCraft = .ok true ∧
    ∃ text ∈ mixedCraft.texts, Document.NeedsExtension text := by
  have given : mixedCraft.GivenAsText := by
    simp [Craft.GivenAsText, mixedCraft]
  have evaluated :
      ((Extension.install .default .host Blocks.resources).isRequiredFor mixedCraft).toOption = some true := by
    decide +kernel
  obtain ⟨required, search, -, needs, -⟩ := required_iff_used .default Blocks.resources given
  rw [search] at evaluated
  cases evaluated
  exact ⟨given, search, needs rfl⟩

/-- A program that goes on with a loop in a body that is given up for an empty one. -/
def givenUpText : String :=
  "<Program><Instructions><If><Instructions><Continue/></Instructions><Instructions/></If></Instructions></Program>"

def givenUpCraft : Craft where
  name := "given up"
  parts := some [⟨"computer", some ⟨none, givenUpText⟩⟩]

/-- A text may need the extension although the craft does not require it. -/
theorem needed_not_required : givenUpCraft.GivenAsText ∧
    (Extension.install .default .host Blocks.resources).isRequiredFor givenUpCraft = .ok false ∧
    givenUpText ∈ givenUpCraft.texts ∧ Document.NeedsExtension givenUpText := by
  have evaluated :
      ((Extension.install .default .host Blocks.resources).isRequiredFor givenUpCraft).toOption = some false := by
    decide +kernel
  have loads : (Document.parse .full givenUpText).toOption.isSome = true := by
    decide +kernel
  have rejected : (Document.parse .host givenUpText).toOption = none := by
    decide +kernel
  obtain ⟨p, parses⟩ := Option.isSome_iff_exists.mp loads
  refine ⟨by simp [Craft.GivenAsText, givenUpCraft], Craft.toOption_eq_some_iff.mp evaluated, by decide, ?_⟩
  refine ⟨⟨p, Craft.toOption_eq_some_iff.mp parses⟩, ?_⟩
  rintro ⟨q, parses_host⟩
  rw [parses_host] at rejected
  cases rejected

end FlightBlocks
