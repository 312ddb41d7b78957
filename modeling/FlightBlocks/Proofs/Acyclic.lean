import FlightBlocks.Proofs.Faults
import FlightBlocks.Proofs.Reaching
import FlightBlocks.Proofs.Requirement
import FlightBlocks.Proofs.Saving
import Mathlib.Data.Finset.Card

/-!
# Programs whose links do not run in a circle

A program need not have been loaded. Built node by node it may share what its links name, begin twice at one
position and keep a body at an instruction that has none. What its links must do is to stay in the tables
(`Program.InRange`) and never to come back to where they began (`Program.Acyclic`). Then no path has more links
than there are positions (`exists_rank`), so that saving and searching both end.

They go different ways, and the element that is saved is loaded again on a third one. All of them meet the same
nodes: a search finds nothing in a program just when its element is a program without the extension, too
(`Document.save_writes`). So the use of the extension shows in the element (`use_shows_in_element`).
-/

namespace FlightBlocks

open Markup (Element)

/-! ## Paths that end -/

section Rank

open Relation (TransGen)

variable {R : Nat → Nat → Prop} {size : Nat}

open Classical in
/-- The positions of a table that links lead to. -/
noncomputable def ahead (R : Nat → Nat → Prop) (size position : Nat) : Finset Nat :=
  (Finset.range size).filter (TransGen R position)

/-- A link leads to a position with less ahead of it. -/
theorem ahead_ssubset (acyclic : ∀ a, ¬TransGen R a a) {a b : Nat} (inside : b < size) (link : R a b) :
    ahead R size b ⊂ ahead R size a := by
  have onward : ahead R size b ⊆ ahead R size a := by
    intro c
    simp only [ahead, Finset.mem_filter]
    exact fun ⟨in_table, path⟩ => ⟨in_table, .head link path⟩
  refine (Finset.ssubset_iff_of_subset onward).mpr ⟨b, ?_, ?_⟩
  · simp [ahead, inside, TransGen.single link]
  · simp [ahead, acyclic b]

/-- Where links stay in a table and do not run in a circle, they lead downwards in some ranking, which ranks
    nothing higher than the size of the table. -/
theorem exists_rank (inside : ∀ a b, R a b → b < size) (acyclic : ∀ a, ¬TransGen R a a) :
    ∃ rank : Nat → Nat, (∀ a, rank a ≤ size) ∧ ∀ a b, R a b → rank b < rank a := by
  refine ⟨fun a => (ahead R size a).card, fun a => ?_, fun a b link => ?_⟩
  · have in_table : ahead R size a ⊆ Finset.range size := by
      classical exact Finset.filter_subset _ _
    calc (ahead R size a).card ≤ (Finset.range size).card := Finset.card_le_card in_table
      _ = size := Finset.card_range size
  · exact Finset.card_lt_card (ahead_ssubset acyclic (inside a b link) link)

end Rank

namespace Program

/-- Links and roots name positions that the tables have. -/
structure InRange (p : Program) : Prop where
  links : ∀ x y, p.Link x y → p.HasPosition y
  roots : ∀ x ∈ p.roots, p.HasPosition x

/-- No path of links comes back to where it began. -/
def Acyclic (p : Program) : Prop := ∀ x, ¬Relation.TransGen p.Link x x

/-- Links that lead downwards in some ranking do not run in a circle. -/
theorem acyclic_of_rank {p : Program} (rank : Position → Nat) (falls : ∀ x y, p.Link x y → rank y < rank x) :
    p.Acyclic := by
  intro x path
  have lower : ∀ y, Relation.TransGen p.Link x y → rank y < rank x := by
    intro y path
    induction path with
    | single link => exact falls _ _ link
    | tail _ link ih => exact (falls _ _ link).trans ih
  exact Nat.lt_irrefl _ (lower x path)

/-- All links of a program lead to what was there before. -/
structure Backward (p : Program) : Prop where
  children : ∀ id (inside : id < p.expressions.size), ∀ child ∈ p.expressions[id].children, child < id
  arguments : ∀ id (inside : id < p.instructions.size), ∀ e ∈ p.instructions[id].expressions, e < p.expressions.size
  next : ∀ id (inside : id < p.instructions.size), ∀ next ∈ p.instructions[id].next, next < id
  body : ∀ id (inside : id < p.instructions.size), ∀ first ∈ p.instructions[id].body, first < id
  roots : ∀ x ∈ p.roots, p.HasPosition x

/-- The two tables as one, expressions first. -/
def order (p : Program) : Position → Nat
  | .expression id => id
  | .instruction id => p.expressions.size + id

variable {p : Program}

theorem Backward.link (backward : p.Backward) {x y : Position} (link : p.Link x y) :
    p.HasPosition y ∧ p.order y < p.order x := by
  cases link with
  | child at_id member =>
    obtain ⟨inside, rfl⟩ := Array.getElem?_eq_some_iff.mp at_id
    have earlier := backward.children _ inside _ member
    exact ⟨earlier.trans inside, earlier⟩
  | argument at_id member =>
    obtain ⟨inside, rfl⟩ := Array.getElem?_eq_some_iff.mp at_id
    have in_table := backward.arguments _ inside _ member
    exact ⟨in_table, Nat.lt_add_right _ in_table⟩
  | next at_id follows =>
    obtain ⟨inside, rfl⟩ := Array.getElem?_eq_some_iff.mp at_id
    have earlier := backward.next _ inside _ follows
    exact ⟨earlier.trans inside, Nat.add_lt_add_left earlier _⟩
  | body at_id begins =>
    obtain ⟨inside, rfl⟩ := Array.getElem?_eq_some_iff.mp at_id
    have earlier := backward.body _ inside _ begins
    exact ⟨earlier.trans inside, Nat.add_lt_add_left earlier _⟩

theorem Backward.inRange (backward : p.Backward) : p.InRange where
  links _ _ link := (backward.link link).1
  roots := backward.roots

theorem Backward.acyclic (backward : p.Backward) : p.Acyclic :=
  acyclic_of_rank p.order fun _ _ link => (backward.link link).2

/-- The links between expressions lead downwards. -/
theorem Acyclic.expression_rank (acyclic : p.Acyclic) (in_range : p.InRange) : ∃ rank : ExpressionId → Nat,
    (∀ id, rank id ≤ p.expressions.size) ∧
      ∀ a b, p.Link (.expression a) (.expression b) → rank b < rank a :=
  exists_rank (R := fun a b => p.Link (.expression a) (.expression b)) (fun _ _ link => in_range.links _ _ link)
    fun a path => acyclic (.expression a) (path.lift Position.expression fun _ _ link => link)

/-- The links between instructions lead downwards. -/
theorem Acyclic.instruction_rank (acyclic : p.Acyclic) (in_range : p.InRange) : ∃ rank : InstructionId → Nat,
    (∀ id, rank id ≤ p.instructions.size) ∧
      ∀ a b, p.Link (.instruction a) (.instruction b) → rank b < rank a :=
  exists_rank (R := fun a b => p.Link (.instruction a) (.instruction b)) (fun _ _ link => in_range.links _ _ link)
    fun a path => acyclic (.instruction a) (path.lift Position.instruction fun _ _ link => link)

end Program

/-! ## Lists -/

/-- What can be made of each entry of a list can be made of the list. -/
theorem exists_mapM {ε α β : Type} {f : α → Except ε β} {good : α → β → Prop} {xs : List α}
    (each : ∀ x ∈ xs, ∃ y, f x = .ok y ∧ good x y) : ∃ ys, xs.mapM f = .ok ys ∧ List.Forall₂ good xs ys := by
  induction xs with
  | nil => exact ⟨[], rfl, .nil⟩
  | cons x rest ih =>
    obtain ⟨⟨y, makes, first⟩, each⟩ := List.forall_mem_cons.mp each
    obtain ⟨ys, others, more⟩ := ih each
    exact ⟨y :: ys, by rw [List.mapM_cons, makes, others]; rfl, .cons first more⟩

theorem Answers.forall₂ {ε α β γ : Type} {f : α → Except ε (Option β)} {clear : γ → Prop} {xs : List α} {ys : List γ}
    (pairs : List.Forall₂ (fun x y => Answers (f x) (clear y)) xs ys) :
    Answers (xs.findSomeM? f) (∀ y ∈ ys, clear y) := by
  induction pairs with
  | nil => exact Answers.nil.congr (by simp)
  | cons first _ ih => exact (first.cons ih).congr List.forall_mem_cons.symm

/-- What is true of the second in each pair is true of all that are paired. -/
theorem forall_of_forall₂ {α β : Type} {R : α → β → Prop} {good : β → Prop} {xs : List α} {ys : List β}
    (pairs : List.Forall₂ R xs ys) (second : ∀ x y, R x y → good y) : ∀ y ∈ ys, good y := by
  induction pairs with
  | nil => simp
  | cons first _ ih => exact List.forall_mem_cons.mpr ⟨second _ _ first, ih⟩

/-! ## Elements under the names of their types -/

theorem Registry.full_saves (type : NodeType) : Registry.full.Saves type := by
  have known : ∀ type ∈ NodeType.all, full.type? (full.savedName type) = some type := by
    decide +kernel
  exact full_faithful _ _ (known type type.mem_all)

/-- Without the extension the name of a type stands for the type, if the language supplies it, and else for
    nothing. -/
theorem Registry.host_savedName {type : NodeType} {good : NodeType → Prop} :
    (∃ found, Registry.host.type? (Registry.full.savedName type) = some found ∧ good found) ↔
      type.IsHost ∧ good type := by
  rw [Registry.host_type?, (Registry.full_saves type).leads_back]
  by_cases host : type.IsHost <;> simp [Option.filter, host]

namespace Document

variable {r : Registry} {p : Program}

theorem isExpression_mk {tag : String} {attributes : List Markup.Attribute} {children : List Element} :
    IsExpression r ⟨tag, attributes, children⟩ ↔
      ∃ type, r.type? tag = some type ∧ type.kind = .expression ∧ ∀ c ∈ children, IsExpression r c := by
  constructor
  · rintro ⟨found, kind, inside⟩
    exact ⟨_, found, kind, inside⟩
  · rintro ⟨type, found, kind, inside⟩
    exact .intro found kind inside

/-- An instruction whose expressions stand in front of its bodies. -/
theorem isInstruction_mk {tag : String} {attributes : List Markup.Attribute} {expressions bodies : List Element}
    (no_body : ∀ e ∈ expressions, e.name ≠ instructionsTag) (named : ∀ b ∈ bodies, b.name = instructionsTag) :
    IsInstruction r ⟨tag, attributes, expressions ++ bodies⟩ ↔
      ∃ type, r.type? tag = some type ∧ type.kind = .instruction ∧ (bodies ≠ [] → type.hasBody = true) ∧
        (∀ e ∈ expressions, IsExpression r e) ∧ ∀ b ∈ bodies, ∀ i ∈ b.children, IsInstruction r i := by
  constructor
  · rintro ⟨found, kind, nests, inside, others⟩
    refine ⟨_, found, kind, ?_, ?_, ?_⟩
    · intro some_body
      obtain ⟨b, member⟩ := List.exists_mem_of_ne_nil bodies some_body
      exact nests b (List.mem_append_right _ member) (named b member)
    · exact fun e member => others e (List.mem_append_left _ member) (no_body e member)
    · exact fun b member => inside b (List.mem_append_right _ member) (named b member)
  · rintro ⟨type, found, kind, nests, values, inside⟩
    have is_body : ∀ c ∈ expressions ++ bodies, c.name = instructionsTag → c ∈ bodies := by
      intro c member body
      exact (List.mem_append.mp member).resolve_left fun value => no_body c value body
    refine .intro found kind ?_ ?_ ?_
    · exact fun c member body => nests (List.ne_nil_of_mem (is_body c member body))
    · exact fun c member body => inside c (is_body c member body)
    · intro c member other
      exact values c ((List.mem_append.mp member).resolve_right fun body => other (named c body))

/-! ## Expressions -/

/-- An element of an expression. A search that begins there finds nothing just when the language itself has the
    element. -/
structure WritesExpression (search : Except BrokenLink (Option ExtensionUse)) (e : Element) : Prop where
  full : IsExpression .full e
  no_body : e.name ≠ instructionsTag
  answers : Answers search (IsExpression .host e)

theorem WritesExpression.forall₂ {f : ExpressionId → Except BrokenLink (Option ExtensionUse)} {ids : List ExpressionId}
    {es : List Element} (pairs : List.Forall₂ (fun id e => WritesExpression (f id) e) ids es) :
    (∀ e ∈ es, IsExpression .full e) ∧ (∀ e ∈ es, e.name ≠ instructionsTag) ∧
      Answers (ids.findSomeM? f) (∀ e ∈ es, IsExpression .host e) :=
  ⟨forall_of_forall₂ pairs fun _ _ writes => writes.full, forall_of_forall₂ pairs fun _ _ writes => writes.no_body,
    .forall₂ (pairs.imp fun _ _ writes => writes.answers)⟩

/-- An expression is written with all below it. The rank bounds how far its links lead. -/
theorem saveExpression_writes (in_range : p.InRange) {rank : ExpressionId → Nat}
    (falls : ∀ a b, p.Link (.expression a) (.expression b) → rank b < rank a) {depth : Nat} {id : ExpressionId}
    (inside : id < p.expressions.size) (room : rank id < depth) :
    ∃ e, saveExpression .full p depth id = .ok e ∧ WritesExpression (p.findInExpression depth id) e := by
  induction depth generalizing id with
  | zero => exact absurd room (Nat.not_lt_zero _)
  | succ depth ih =>
    obtain ⟨⟨node, children⟩, at_id⟩ : ∃ slot, p.expressions[id]? = some slot :=
      ⟨_, Array.getElem?_eq_getElem inside⟩
    have below : ∀ child ∈ children, ∃ e, saveExpression .full p depth child = .ok e ∧
        WritesExpression (p.findInExpression depth child) e := by
      intro child member
      have link : p.Link (.expression id) (.expression child) := .child at_id member
      exact ih (in_range.links _ _ link) (Nat.lt_of_lt_of_le (falls _ _ link) (Nat.lt_succ_iff.mp room))
    obtain ⟨es, saves, pairs⟩ := exists_mapM below
    obtain ⟨full, -, answers⟩ := WritesExpression.forall₂ pairs
    have known := Registry.full_saves node.type
    obtain ⟨e, tag, saved⟩ := tagged_expression known.tagged
    refine ⟨⟨Registry.full.savedName node.type, node.setting.toList, es⟩, ?_, ?_, known.no_chain, ?_⟩
    · simp only [saveExpression, follow_expression at_id, tag, saves, saved, bind, Except.bind, pure, Except.pure]
    · exact isExpression_mk.mpr ⟨_, known.leads_back, node.kind_type, full⟩
    · rw [isExpression_mk, Registry.host_savedName]
      by_cases host : node.type.IsHost
      · rw [Program.findInExpression_host at_id host]
        exact answers.congr (by simp [host, node.kind_type])
      · rw [Program.findInExpression_extension at_id host]
        exact ⟨_, rfl, by simp [host]⟩

/-- All expressions of a program are written. -/
def WritesExpressions (p : Program) : Prop :=
  ∀ id < p.expressions.size, ∃ e, saveRoot .full p id = .ok e ∧ WritesExpression (p.findInExpression p.maxPath id) e

theorem saveRoots_writes (writes : WritesExpressions p) (ids : List ExpressionId)
    (inside : ∀ id ∈ ids, id < p.expressions.size) : ∃ es, ids.mapM (saveRoot .full p) = .ok es ∧
      (∀ e ∈ es, IsExpression .full e) ∧ (∀ e ∈ es, e.name ≠ instructionsTag) ∧
      Answers (p.findInExpressions ids) (∀ e ∈ es, IsExpression .host e) := by
  obtain ⟨es, saves, pairs⟩ := exists_mapM fun id member => writes id (inside id member)
  exact ⟨es, saves, WritesExpression.forall₂ pairs⟩

/-! ## Instructions -/

/-- Elements of instructions. A search that begins there finds nothing just when the language itself has all of
    them. -/
structure WritesInstructions (search : Except BrokenLink (Option ExtensionUse)) (es : List Element) : Prop where
  full : ∀ e ∈ es, IsInstruction .full e
  answers : Answers search (∀ e ∈ es, IsInstruction .host e)

/-- What is written behind an instruction, with the search that goes on there. -/
theorem saveNext_writes {depth : Nat} {slot : InstructionSlot}
    (follows : ∀ next, slot.next = some next → ∃ es, saveFrom .full p depth next = .ok es ∧
      WritesInstructions (p.findInInstruction depth next) es) :
    ∃ es, saveNext .full p depth slot = .ok es ∧
      WritesInstructions (slot.next.toList.findSomeM? (p.findInInstruction depth)) es := by
  unfold saveNext
  cases has_next : slot.next with
  | none => exact ⟨[], rfl, by simp, Answers.nil.congr (by simp)⟩
  | some next =>
    obtain ⟨es, saves, writes⟩ := follows next has_next
    exact ⟨es, saves, writes.full, (writes.answers.cons .nil).congr (by simp)⟩

/-- A body is written only where it counts, and no search looks at any other. -/
theorem saveBody_writes {depth : Nat} {slot : InstructionSlot}
    (begins : ∀ first, slot.body = some first → ∃ es, saveFrom .full p depth first = .ok es ∧
      WritesInstructions (p.findInInstruction depth first) es) :
    ∃ bodies, saveBody .full p depth slot = .ok bodies ∧ (∀ b ∈ bodies, b.name = instructionsTag) ∧
      (bodies ≠ [] → slot.node.hasBody = true) ∧ (∀ b ∈ bodies, ∀ i ∈ b.children, IsInstruction .full i) ∧
      Answers ((if slot.node.hasBody then slot.body else none).toList.findSomeM? (p.findInInstruction depth))
        (∀ b ∈ bodies, ∀ i ∈ b.children, IsInstruction .host i) := by
  unfold saveBody
  cases nests : slot.node.hasBody with
  | false => exact ⟨[], rfl, by simp, by simp, by simp, Answers.nil.congr (by simp)⟩
  | true =>
    cases has_body : slot.body with
    | none => exact ⟨[], rfl, by simp, by simp, by simp, Answers.nil.congr (by simp)⟩
    | some first =>
      obtain ⟨es, saves, writes⟩ := begins first has_body
      refine ⟨[chainElement es], ?_, by simp [chainElement], by simp, ?_, ?_⟩
      · dsimp only
        rw [saves]
        rfl
      · simpa [chainElement] using writes.full
      · exact (writes.answers.cons .nil).congr (by simp [chainElement])

/-- An instruction is written with all it holds and all that follows it. -/
theorem saveFrom_writes (in_range : p.InRange) (values : WritesExpressions p) {rank : InstructionId → Nat}
    (falls : ∀ a b, p.Link (.instruction a) (.instruction b) → rank b < rank a) {depth : Nat} {id : InstructionId}
    (inside : id < p.instructions.size) (room : rank id < depth) :
    ∃ es, saveFrom .full p depth id = .ok es ∧ WritesInstructions (p.findInInstruction depth id) es := by
  induction depth generalizing id with
  | zero => exact absurd room (Nat.not_lt_zero _)
  | succ depth ih =>
    obtain ⟨slot, at_id⟩ : ∃ slot, p.instructions[id]? = some slot := ⟨_, Array.getElem?_eq_getElem inside⟩
    have onward : ∀ other, p.Link (.instruction id) (.instruction other) → ∃ es,
        saveFrom .full p depth other = .ok es ∧ WritesInstructions (p.findInInstruction depth other) es := by
      intro other link
      exact ih (in_range.links _ _ link) (Nat.lt_of_lt_of_le (falls _ _ link) (Nat.lt_succ_iff.mp room))
    obtain ⟨expressions, saves, full, no_body, answers⟩ := saveRoots_writes values slot.expressions
      fun argument member => in_range.links _ _ (.argument at_id member)
    obtain ⟨bodies, saves_body, named, nests, full_body, answers_body⟩ :=
      saveBody_writes fun first begins => onward first (.body at_id begins)
    obtain ⟨rest, saves_rest, more⟩ := saveNext_writes fun next follows => onward next (.next at_id follows)
    have known := Registry.full_saves slot.node.type
    have counts : bodies ≠ [] → slot.node.type.hasBody = true := by
      intro some_body
      rw [slot.node.hasBody_type]
      exact nests some_body
    obtain ⟨e, tag, saved⟩ := tagged_instruction known.tagged
    refine ⟨⟨Registry.full.savedName slot.node.type, slot.node.setting.toList, expressions ++ bodies⟩ :: rest,
      ?_, List.forall_mem_cons.mpr ⟨?_, more.full⟩, ?_⟩
    · simp only [saveFrom_succ at_id, tag, saves, saves_body, saves_rest, saved, bind, Except.bind, pure, Except.pure]
    · exact (isInstruction_mk no_body named).mpr
        ⟨_, known.leads_back, slot.node.kind_type, counts, full, full_body⟩
    · rw [List.forall_mem_cons, isInstruction_mk no_body named, Registry.host_savedName]
      by_cases host : slot.node.type.IsHost
      · rw [Program.findInInstruction_host at_id host, Program.followed]
        refine Answers.congr (answers.bind (answers_body.append more.answers) fun _ => rfl) ?_
        simp only [host, slot.node.kind_type, iff_true_intro counts, true_and, and_assoc]
      · rw [Program.findInInstruction_extension at_id host]
        exact ⟨_, rfl, by simp [host]⟩

/-- All instructions of a program are written. -/
def WritesChains (p : Program) : Prop :=
  ∀ id < p.instructions.size, ∃ c, saveChain .full p id = .ok c ∧ c.name = instructionsTag ∧
    WritesInstructions (p.findInInstruction (p.instructions.size + 1) id) c.children

theorem saveChains_writes (writes : WritesChains p) (ids : List InstructionId)
    (inside : ∀ id ∈ ids, id < p.instructions.size) : ∃ cs, ids.mapM (saveChain .full p) = .ok cs ∧
      (∀ c ∈ cs, c.name = instructionsTag) ∧ (∀ c ∈ cs, ∀ e ∈ c.children, IsInstruction .full e) ∧
      Answers (p.findInInstructions ids) (∀ c ∈ cs, ∀ e ∈ c.children, IsInstruction .host e) := by
  obtain ⟨cs, saves, pairs⟩ := exists_mapM fun id member => writes id (inside id member)
  exact ⟨cs, saves, forall_of_forall₂ pairs fun _ _ writes => writes.1,
    forall_of_forall₂ pairs fun _ _ writes => writes.2.full, .forall₂ (pairs.imp fun _ _ writes => writes.2.answers)⟩

/-! ## Programs -/

/-- What has to be in the sections of a program that was saved. -/
theorem isProgram_mk {attributes : List Markup.Attribute} {threads expressions chains custom : List Element}
    (named : ∀ c ∈ threads, c.name = instructionsTag) (chains_named : ∀ c ∈ chains, c.name = instructionsTag) :
    IsProgram r ⟨programTag, attributes, threads ++
        [⟨expressionsTag, [], expressions⟩, ⟨customInstructionsTag, [], chains⟩, ⟨customExpressionsTag, [], custom⟩]⟩ ↔
      (∀ c ∈ threads, ∀ e ∈ c.children, IsInstruction r e) ∧ (∀ e ∈ expressions, IsExpression r e) ∧
        (∀ e ∈ custom, IsExpression r e) ∧ ∀ c ∈ chains, ∀ e ∈ c.children, IsInstruction r e := by
  constructor
  · intro program
    refine ⟨?_, ?_, ?_, ?_⟩
    · intro c member
      exact program.threads c (List.mem_append_left _ member) (named c member)
    · exact program.expressions ⟨expressionsTag, [], expressions⟩ (by simp) rfl
    · exact program.customExpressions ⟨customExpressionsTag, [], custom⟩ (by simp) rfl
    · intro c member
      exact (program.customInstructions ⟨customInstructionsTag, [], chains⟩ (by simp) rfl c member).2
  · rintro ⟨in_threads, in_expressions, in_custom, in_chains⟩
    have other : ∀ c ∈ threads, ∀ {tag}, instructionsTag ≠ tag → c.name ≠ tag := by
      intro c member tag differs
      rwa [named c member]
    refine ⟨rfl, ?_, ?_, ?_, ?_⟩ <;> rw [List.forall_mem_append]
    · exact ⟨fun c member _ => in_threads c member, by simp [sectionTags_ne]⟩
    · refine ⟨fun c member name => absurd name (other c member (by simp [sectionTags_ne])), ?_⟩
      simpa [sectionTags_ne] using in_expressions
    · refine ⟨fun c member name => absurd name (other c member (by simp [sectionTags_ne])), ?_⟩
      have bodies : ∀ c ∈ chains, c.name = instructionsTag ∧ ∀ e ∈ c.children, IsInstruction r e := by
        intro c member
        exact ⟨chains_named c member, in_chains c member⟩
      simpa [sectionTags_ne] using bodies
    · refine ⟨fun c member name => absurd name (other c member (by simp [sectionTags_ne])), ?_⟩
      simpa [sectionTags_ne] using in_custom

section Whole

variable (in_range : p.InRange) (acyclic : p.Acyclic)

include in_range acyclic

theorem writesExpressions : WritesExpressions p := by
  obtain ⟨rank, bounded, falls⟩ := acyclic.expression_rank in_range
  intro id inside
  exact saveExpression_writes in_range falls inside (Nat.lt_succ_of_le (bounded id))

theorem writesChains : WritesChains p := by
  obtain ⟨rank, bounded, falls⟩ := acyclic.instruction_rank in_range
  intro id inside
  obtain ⟨es, saves, writes⟩ := saveFrom_writes in_range (writesExpressions in_range acyclic) falls inside
    (Nat.lt_succ_of_le (bounded id))
  refine ⟨chainElement es, ?_, rfl, writes⟩
  rw [saveChain, saves]
  rfl

/-- A program is saved as one that loads with the extension. A search finds nothing in it just when its element
    is a program without the extension, too. -/
theorem save_writes : ∃ e, save .full p = .ok e ∧ IsProgram .full e ∧
    Answers p.findExtension (IsProgram .host e) := by
  have values := writesExpressions in_range acyclic
  have chains := writesChains in_range acyclic
  have instruction_root : ∀ id, .instruction id ∈ p.roots → id < p.instructions.size :=
    fun id member => in_range.roots _ member
  have expression_root : ∀ id, .expression id ∈ p.roots → id < p.expressions.size :=
    fun id member => in_range.roots _ member
  obtain ⟨threads, saves_threads, named, full_threads, threads_answer⟩ := saveChains_writes chains
    p.rootInstructions fun id member => instruction_root id (by simp [Program.roots, member])
  obtain ⟨free, saves_free, full_free, -, free_answer⟩ := saveRoots_writes values
    p.rootExpressions fun id member => expression_root id (by simp [Program.roots, member])
  obtain ⟨bodies, saves_bodies, bodies_named, full_bodies, bodies_answer⟩ := saveChains_writes chains
    p.customInstructions fun id member => instruction_root id (by simp [Program.roots, member])
  obtain ⟨custom, saves_custom, full_custom, -, custom_answer⟩ := saveRoots_writes values
    p.customExpressions fun id member => expression_root id (by simp [Program.roots, member])
  have saves : save .full p = .ok ⟨programTag, [("name", p.name)], threads ++ [⟨expressionsTag, [], free⟩,
      ⟨customInstructionsTag, [], bodies⟩, ⟨customExpressionsTag, [], custom⟩]⟩ := by
    rw [save, saves_threads, saves_free, saves_bodies, saves_custom]
    rfl
  refine ⟨_, saves, (isProgram_mk named bodies_named).mpr ⟨full_threads, full_free, full_custom, full_bodies⟩, ?_⟩
  rw [isProgram_mk named bodies_named]
  -- A search goes through the custom expressions before the custom instructions.
  refine threads_answer.bind (free_answer.bind ?_ fun _ => rfl) fun _ => rfl
  exact custom_answer.bind bodies_answer fun _ => rfl

end Whole

end Document

/-- A program is saved, however it was built, as long as its links stay in its tables and do not run in a circle.
    If a search finds the extension in it, an element has a tag that is none of the language itself, and loading
    the element without the extension fails; if not, there is no such tag, and the element loads. -/
theorem use_shows_in_element (p : Program) (in_range : p.InRange) (acyclic : p.Acyclic) :
    ∃ e uses, Document.save .full p = .ok e ∧ p.usesExtension = .ok uses ∧
      (uses = true ↔ ∃ x ∈ (Document.Occurrences.ofProgram e).all, x.element.name ∉ Registry.host.tags) ∧
      (uses = true ↔ ∃ fault, Document.load .host e = .error fault) ∧
      (uses = false → ∃ q, Document.load .host e = .ok q) := by
  obtain ⟨e, saves, full, found, search, nothing⟩ := Document.save_writes in_range acyclic
  have loads_iff : ∀ r : Registry, (∃ q, Document.load r e = .ok q) ↔ Document.IsProgram r e :=
    fun r => (Document.load_stops e).ok_iff.trans Document.isProgram_iff
  obtain ⟨q, loads⟩ := (loads_iff .full).mpr full
  have known : (∃ q, Document.load .host e = .ok q) ↔
      ∀ x ∈ (Document.Occurrences.ofProgram e).all, x.element.name ∈ Registry.host.tags := by
    rw [Document.loads_host_iff loads]
    simp only [Registry.mem_tags_iff, Option.ne_none_iff_exists']
  have uses_iff : found.isSome = true ↔ ¬∃ q, Document.load .host e = .ok q := by
    rw [loads_iff, ← nothing, Option.isSome_iff_ne_none]
  refine ⟨e, found.isSome, saves, ?_, ?_, ?_, ?_⟩
  · rw [Program.usesExtension, search]
    rfl
  · rw [uses_iff, known]
    simp
  · rw [uses_iff]
    cases Document.load .host e <;> simp
  · intro unused
    by_contra rejected
    rw [uses_iff.mpr rejected] at unused
    cases unused

/-- The tags of the language itself. -/
example : Registry.host.tags =
    ["BinaryOp", "Break", "Constant", "If", "Log", "SetVariable", "Variable", "While"] := by
  decide +kernel

/-- A program that begins twice at a branch. The condition names one expression for both of its sides, the log
    behind the branch is also its body, and the log keeps a body that does not count. -/
def sharing (side : ExpressionNode) : Program where
  name := "sharing"
  expressions := #[⟨side, []⟩, ⟨.operation ⟨some "="⟩, [0, 0]⟩]
  instructions := #[⟨.continueLoop, [], none, none⟩, ⟨.log, [0], none, some 0⟩, ⟨.branch, [1], some 1, some 1⟩]
  rootInstructions := [2, 2]

theorem backward_sharing {side : ExpressionNode} (known : side = .craftId ⟨none⟩ ∨ side = .constant (.bool true)) :
    (sharing side).Backward where
  children := by rcases known with rfl | rfl <;> decide
  arguments := by rcases known with rfl | rfl <;> decide
  next := by rcases known with rfl | rfl <;> decide
  body := by rcases known with rfl | rfl <;> decide
  roots := by simp [sharing, Program.roots, Program.HasPosition]

/-- With a craft id for both sides of the condition, which is saved under a name of its own, the program uses the
    extension, and without one it does not, although the log still keeps a body. -/
theorem use_shows_in_element_of_sharing :
    (∃ e fault, Document.save .full (sharing (.craftId ⟨none⟩)) = .ok e ∧
      (sharing (.craftId ⟨none⟩)).usesExtension = .ok true ∧ Document.load .host e = .error fault) ∧
    ∃ e q, Document.save .full (sharing (.constant (.bool true))) = .ok e ∧
      (sharing (.constant (.bool true))).usesExtension = .ok false ∧ Document.load .host e = .ok q := by
  constructor
  · have backward := backward_sharing (.inl rfl)
    have search : (sharing (.craftId ⟨none⟩)).usesExtension = .ok true := by rfl
    obtain ⟨e, uses, saves, searched, -, rejects, -⟩ := use_shows_in_element _ backward.inRange backward.acyclic
    obtain rfl : true = uses := Except.ok.inj (search.symm.trans searched)
    obtain ⟨fault, rejected⟩ := rejects.mp rfl
    exact ⟨e, fault, saves, search, rejected⟩
  · have backward := backward_sharing (.inr rfl)
    have search : (sharing (.constant (.bool true))).usesExtension = .ok false := by rfl
    obtain ⟨e, uses, saves, searched, -, -, loads⟩ := use_shows_in_element _ backward.inRange backward.acyclic
    obtain rfl : false = uses := Except.ok.inj (search.symm.trans searched)
    obtain ⟨q, loaded⟩ := loads rfl
    exact ⟨e, q, saves, search, loaded⟩

end FlightBlocks
