import FlightBlocks.Proofs.Growth

/-!
# What is loaded

Loading an element adds its tree to a program and names only what it added. So an element loads
exactly when its tree can be read, with the same error otherwise, and the program that is loaded
shows that tree and has its links in order (`load_builds`).
-/

namespace FlightBlocks.Document

open Markup (Element)
open Program (AddsExpressions AddsRow AddsChain)

/-- Loading ends like reading: with the same error, or with a result that is good for the tree. -/
def Matches {α β : Type} (good : β → α → Prop) (loaded : Except LoadError β) : Except LoadError α → Prop
  | .error e => loaded = .error e
  | .ok a => ∃ b, loaded = .ok b ∧ good b a

theorem Matches.bind {α β γ δ : Type} {good : β → α → Prop} {better : δ → γ → Prop}
    {loaded : Except LoadError β} {result : Except LoadError α} {f : β → Except LoadError δ}
    {g : α → Except LoadError γ} (h : Matches good loaded result)
    (next : ∀ b a, good b a → Matches better (f b) (g a)) : Matches better (loaded >>= f) (result >>= g) := by
  cases result with
  | error e =>
    cases h
    rfl
  | ok a =>
    obtain ⟨b, rfl, holds⟩ := h
    exact next b a holds

/-- A computation that both go through changes nothing. -/
theorem Matches.both {α β γ : Type} {good : β → α → Prop} (m : Except LoadError γ) {f : γ → Except LoadError β}
    {g : γ → Except LoadError α} (next : ∀ c, m = .ok c → Matches good (f c) (g c)) :
    Matches good (m >>= f) (m >>= g) := by
  cases m with
  | error e => rfl
  | ok c => exact next c rfl

theorem Matches.mono {α β : Type} {good better : β → α → Prop} {loaded : Except LoadError β}
    {result : Except LoadError α} (h : Matches good loaded result) (stronger : ∀ b a, good b a → better b a) :
    Matches better loaded result := by
  cases result with
  | error e => exact h
  | ok a =>
    obtain ⟨b, same, holds⟩ := h
    exact ⟨b, same, stronger b a holds⟩

/-! ## Expressions -/

mutual

theorem loadExpression_matches (r : Registry) : ∀ (e : Element) (p : Program),
    Matches (fun (id, q) tree => p.AddsExpressions q [id] [tree]) (loadExpression r p e) (readExpression r e)
  | ⟨tag, attributes, children⟩, p => by
    unfold loadExpression readExpression
    refine Matches.both _ fun node _ => ?_
    refine (loadExpressions_matches r children p).bind ?_
    rintro ⟨ids, q⟩ trees adds
    exact ⟨_, rfl, adds.single node⟩

theorem loadExpressions_matches (r : Registry) : ∀ (es : List Element) (p : Program),
    Matches (fun (ids, q) trees => p.AddsExpressions q ids trees) (loadExpressions r p es) (readExpressions r es)
  | [], p => ⟨_, rfl, .refl p, rfl, fun linked => linked, rfl⟩
  | e :: rest, p => by
    unfold loadExpressions readExpressions
    refine (loadExpression_matches r e p).bind ?_
    rintro ⟨id, q⟩ tree first
    refine (loadExpressions_matches r rest q).bind ?_
    rintro ⟨ids, s⟩ trees more
    exact ⟨_, rfl, first.cons more⟩

end

/-! ## Instructions -/

/-- From some parts of an instruction, whose chains begin at `low` at the earliest, others were made
    by adding to a program. -/
structure AddsParts (low : Nat) (p : Program) (parts : Parts) (q : Program) (parts' : Parts) (held : Held) :
    Prop where
  grows : p.Grows q
  linked : ∀ {openE openI}, p.Linked (parts.expressions ++ openE) (parts.body.toList ++ openI) →
    q.Linked (parts'.expressions ++ openE) (parts'.body.toList ++ openI)
  holds : q.HoldsExpressions parts'.expressions held.expressions
  chain : q.HoldsChain low q.instructions.size parts'.body held.body

theorem AddsParts.trans {low : Nat} {p q s : Program} {parts parts' parts'' : Parts} {held held' : Held}
    (first : AddsParts low p parts q parts' held) (second : AddsParts low q parts' s parts'' held') :
    AddsParts low p parts s parts'' held' :=
  ⟨first.grows.trans second.grows, fun linked => second.linked (first.linked linked), second.holds, second.chain⟩

/-- One more expression. -/
theorem AddsParts.expression {low : Nat} {p q : Program} {parts : Parts} {held : Held} {id : ExpressionId}
    {tree : ExpressionTree} (holds : p.HoldsExpressions parts.expressions held.expressions)
    (chain : p.HoldsChain low p.instructions.size parts.body held.body)
    (adds : p.AddsExpressions q [id] [tree]) :
    AddsParts low p parts q { parts with expressions := parts.expressions ++ [id] }
      { held with expressions := held.expressions ++ [tree] } where
  grows := adds.grows
  linked linked := (adds.linked linked).of_subperm (by simpa using List.perm_middle.subperm) (List.Subperm.refl _)
  holds := (Program.holdsExpressions_mono adds.grows.expression _ holds).append adds.holds
  chain := by
    rw [adds.instructions]
    exact Program.holdsChain_frame adds.grows.expression _ (fun i _ _ => by rw [adds.instructions]) chain

/-- Another body in the place of the one so far, which nothing will name. -/
theorem AddsParts.body {low : Nat} {p q : Program} {parts : Parts} {held : Held} {head : Option InstructionId}
    {trees : List InstructionTree} (bounded : low ≤ p.instructions.size)
    (holds : p.HoldsExpressions parts.expressions held.expressions) (adds : p.AddsChain q head trees) :
    AddsParts low p parts q { parts with body := head } { held with body := trees } where
  grows := adds.grows
  linked linked := (adds.linked linked).of_subperm (List.Subperm.refl _)
    ((List.subperm_append_left _).mpr (List.sublist_append_right _ _).subperm)
  holds := Program.holdsExpressions_mono adds.grows.expression _ holds
  chain := Program.holdsChain_widen _ bounded (Nat.le_refl _) adds.chain

theorem AddsParts.row {p q : Program} {parts : Parts} {held : Held}
    (h : AddsParts p.instructions.size p ⟨[], none⟩ q parts held) (node : InstructionNode) :
    p.AddsRow (q.addInstruction node parts.expressions parts.body).2
      [(q.addInstruction node parts.expressions parts.body).1] [⟨node, held.expressions, held.body⟩] where
  grows := h.grows.trans (Program.grows_addInstruction q node _ _)
  linked linked := (h.linked (by simpa using linked)).addInstruction node
  row := by
    have grows := Program.grows_addInstruction q node parts.expressions parts.body
    refine ⟨q.instructions.size, [], rfl, h.grows.size_le, ?_, ⟨parts.expressions, parts.body, ?_, ?_, ?_⟩, rfl⟩
    · simp [Program.addInstruction]
    · simp [Program.addInstruction]
    · exact Program.holdsExpressions_mono grows.expression _ h.holds
    · exact Program.holdsChain_frame grows.expression _ (fun i _ below => grows.instruction below) h.chain

mutual

theorem loadInstruction_matches (r : Registry) : ∀ (e : Element) (p : Program),
    Matches (fun (id, q) tree => p.AddsRow q [id] [tree]) (loadInstruction r p e) (readInstruction r e)
  | ⟨tag, attributes, children⟩, p => by
    unfold loadInstruction readInstruction
    refine Matches.both _ fun node _ => ?_
    refine (loadParts_matches r tag node.hasBody p.instructions.size children p ⟨[], none⟩ ⟨[], []⟩
      (Nat.le_refl _) rfl rfl).bind ?_
    rintro ⟨parts, q⟩ held adds
    exact ⟨_, rfl, adds.row node⟩

theorem loadParts_matches (r : Registry) (tag : String) (hasBody : Bool) (low : Nat) :
    ∀ (es : List Element) (p : Program) (parts : Parts) (held : Held), low ≤ p.instructions.size →
      p.HoldsExpressions parts.expressions held.expressions →
      p.HoldsChain low p.instructions.size parts.body held.body →
      Matches (fun (parts', q) held' => AddsParts low p parts q parts' held')
        (loadParts r tag hasBody parts p es) (readHeld r tag hasBody held es)
  | [], p, parts, held, _, holds, chain => by
    unfold loadParts readHeld
    exact ⟨_, rfl, .refl p, fun linked => linked, holds, chain⟩
  | ⟨name, attributes, children⟩ :: rest, p, parts, held, bounded, holds, chain => by
    unfold loadParts readHeld
    by_cases body : name = instructionsTag
    · simp only [body, if_true]
      cases hasBody with
      | false => rfl
      | true =>
        refine (loadInstructions_matches r children p).bind ?_
        rintro ⟨ids, q⟩ trees adds
        have step : AddsParts low p parts _ _ _ := AddsParts.body bounded holds adds.link
        exact (loadParts_matches r tag true low rest _ _ _ (Nat.le_trans bounded step.grows.size_le)
          step.holds step.chain).mono fun _ _ => step.trans
    · simp only [body, if_false]
      refine (loadExpression_matches r ⟨name, attributes, children⟩ p).bind ?_
      rintro ⟨id, q⟩ tree adds
      have step := AddsParts.expression holds chain adds
      exact (loadParts_matches r tag hasBody low rest _ _ _ (Nat.le_trans bounded step.grows.size_le)
        step.holds step.chain).mono fun _ _ => step.trans

theorem loadInstructions_matches (r : Registry) : ∀ (es : List Element) (p : Program),
    Matches (fun (ids, q) trees => p.AddsRow q ids trees) (loadInstructions r p es) (readInstructions r es)
  | [], p => by
    unfold loadInstructions readInstructions
    exact ⟨_, rfl, .refl p, fun linked => linked, rfl⟩
  | e :: rest, p => by
    unfold loadInstructions readInstructions
    refine (loadInstruction_matches r e p).bind ?_
    rintro ⟨id, q⟩ tree first
    refine (loadInstructions_matches r rest q).bind ?_
    rintro ⟨ids, s⟩ trees more
    exact ⟨_, rfl, first.cons more⟩

end

theorem loadChain_matches (r : Registry) (es : List Element) (p : Program) :
    Matches (fun (head, q) trees => p.AddsChain q head trees) (loadChain r p es) (readInstructions r es) := by
  rw [← bind_pure (readInstructions r es)]
  unfold loadChain
  refine (loadInstructions_matches r es p).bind ?_
  rintro ⟨ids, q⟩ trees adds
  exact ⟨_, rfl, adds.link⟩

/-! ## Programs -/

/-- A program with its links in order that shows a tree. -/
structure Builds (p : Program) (t : ProgramTree) : Prop where
  linked : p.Linked [] []
  shows : p.Shows t

/-- A program shows a tree when a program that it grew from holds what its roots name. -/
theorem shows_of_kept {p q : Program} {t : ProgramTree} (kept : p.Keeps q) (name : q.name = t.name)
    (threads : List.Forall₂ (fun id chain => p.Holds (some id) chain) q.rootInstructions t.threads)
    (expressions : List.Forall₂ p.HoldsExpression q.rootExpressions t.expressions)
    (customInstructions :
      List.Forall₂ (fun id chain => p.Holds (some id) chain) q.customInstructions t.customInstructions)
    (customExpressions : List.Forall₂ p.HoldsExpression q.customExpressions t.customExpressions) : q.Shows t where
  name := name
  threads := threads.imp fun _ _ => kept.holds
  expressions := expressions.imp fun _ tree => Program.holdsExpression_mono kept.expression tree
  customInstructions := customInstructions.imp fun _ _ => kept.holds
  customExpressions := customExpressions.imp fun _ tree => Program.holdsExpression_mono kept.expression tree

namespace Builds

variable {p q : Program} {t : ProgramTree}

theorem shows_mono (h : Builds p t) (grows : p.Grows q) : q.Shows t :=
  shows_of_kept grows.toKeeps (grows.name.trans h.shows.name) (grows.rootInstructions ▸ h.shows.threads)
    (grows.rootExpressions ▸ h.shows.expressions) (grows.customInstructions ▸ h.shows.customInstructions)
    (grows.customExpressions ▸ h.shows.customExpressions)

/-- A thread of some instructions; without any there is none. -/
theorem thread {head : Option InstructionId} {trees : List InstructionTree} (h : Builds p t)
    (adds : p.AddsChain q head trees) :
    Builds ((head.map q.addRootInstruction).getD q) { t with threads := t.threads ++ nonempty trees } := by
  have shown := h.shows_mono adds.grows
  have linked := adds.linked h.linked
  cases trees with
  | nil =>
    obtain rfl : head = none := adds.chain
    exact ⟨linked, by simpa [nonempty] using shown⟩
  | cons tree rest =>
    obtain ⟨id, next, rfl, -⟩ := adds.chain
    have holds : q.Holds (some id) (tree :: rest) :=
      Program.holdsChain_widen _ (Nat.zero_le _) (Nat.le_refl _) adds.chain
    refine ⟨linked.addRootInstruction, shows_of_kept (p := q) (.of_tables rfl rfl) shown.name ?_
      shown.expressions shown.customInstructions shown.customExpressions⟩
    exact List.rel_append shown.threads (.cons holds .nil)

/-- A custom instruction, unless its chain is empty. -/
theorem customInstruction {head : Option InstructionId} {trees : List InstructionTree} (h : Builds p t)
    (adds : p.AddsChain q head trees) :
    Builds ((head.map q.addCustomInstruction).getD q)
      { t with customInstructions := t.customInstructions ++ nonempty trees } := by
  have shown := h.shows_mono adds.grows
  have linked := adds.linked h.linked
  cases trees with
  | nil =>
    obtain rfl : head = none := adds.chain
    exact ⟨linked, by simpa [nonempty] using shown⟩
  | cons tree rest =>
    obtain ⟨id, next, rfl, -⟩ := adds.chain
    have holds : q.Holds (some id) (tree :: rest) :=
      Program.holdsChain_widen _ (Nat.zero_le _) (Nat.le_refl _) adds.chain
    refine ⟨linked.addCustomInstruction, shows_of_kept (p := q) (.of_tables rfl rfl) shown.name
      shown.threads shown.expressions ?_ shown.customExpressions⟩
    exact List.rel_append shown.customInstructions (.cons holds .nil)

theorem freeExpressions {ids : List ExpressionId} {trees : List ExpressionTree} (h : Builds p t)
    (adds : p.AddsExpressions q ids trees) :
    Builds (ids.foldl Program.addRootExpression q) { t with expressions := t.expressions ++ trees } := by
  have shown := h.shows_mono adds.grows
  refine ⟨(adds.linked h.linked).addRootExpressions, ?_⟩
  rw [Program.foldl_addRootExpression]
  refine shows_of_kept (p := q) (.of_tables rfl rfl) shown.name shown.threads ?_
    shown.customInstructions shown.customExpressions
  exact List.rel_append shown.expressions adds.holds.forall₂

theorem customExpressions {ids : List ExpressionId} {trees : List ExpressionTree} (h : Builds p t)
    (adds : p.AddsExpressions q ids trees) :
    Builds (ids.foldl Program.addCustomExpression q)
      { t with customExpressions := t.customExpressions ++ trees } := by
  have shown := h.shows_mono adds.grows
  refine ⟨(adds.linked h.linked).addCustomExpressions, ?_⟩
  rw [Program.foldl_addCustomExpression]
  refine shows_of_kept (p := q) (.of_tables rfl rfl) shown.name shown.threads shown.expressions
    shown.customInstructions ?_
  exact List.rel_append shown.customExpressions adds.holds.forall₂

end Builds

theorem loadCustomInstructions_matches (r : Registry) (es : List Element) {p : Program} {t : ProgramTree}
    (h : Builds p t) :
    Matches (fun q chains => Builds q { t with customInstructions := t.customInstructions ++ chains })
      (loadCustomInstructions r p es) (readCustomInstructions r es) := by
  induction es generalizing p t with
  | nil => exact ⟨p, rfl, by simpa using h⟩
  | cons e rest ih =>
    unfold loadCustomInstructions readCustomInstructions
    refine Matches.both _ fun _ _ => ?_
    refine (loadChain_matches r e.children p).bind ?_
    rintro ⟨head, q⟩ chain adds
    dsimp only
    rw [← bind_pure (loadCustomInstructions r _ rest)]
    refine (ih (h.customInstruction adds)).bind ?_
    intro s chains builds
    exact ⟨s, rfl, by simpa using builds⟩

theorem loadSection_matches (r : Registry) (e : Element) {p : Program} {t : ProgramTree} (h : Builds p t) :
    Matches Builds (loadSection r p e) (readSection r t e) := by
  unfold loadSection readSection
  split
  · refine (loadChain_matches r e.children p).bind ?_
    rintro ⟨head, q⟩ chain adds
    exact ⟨_, rfl, h.thread adds⟩
  · split
    · refine (loadExpressions_matches r e.children p).bind ?_
      rintro ⟨ids, q⟩ trees adds
      exact ⟨_, rfl, h.freeExpressions adds⟩
    · split
      · rw [← bind_pure (loadCustomInstructions r p e.children)]
        refine (loadCustomInstructions_matches r e.children h).bind ?_
        intro q chains builds
        exact ⟨q, rfl, builds⟩
      · split
        · refine (loadExpressions_matches r e.children p).bind ?_
          rintro ⟨ids, q⟩ trees adds
          exact ⟨_, rfl, h.customExpressions adds⟩
        · exact ⟨p, rfl, h⟩

theorem loadSections_matches (r : Registry) (es : List Element) {p : Program} {t : ProgramTree}
    (h : Builds p t) : Matches Builds (es.foldlM (loadSection r) p) (es.foldlM (readSection r) t) := by
  induction es generalizing p t with
  | nil => exact ⟨p, rfl, h⟩
  | cons e rest ih =>
    rw [List.foldlM_cons, List.foldlM_cons]
    exact (loadSection_matches r e h).bind fun _ _ builds => ih builds

/-- An element loads when it can be read, and the program shows what was read. -/
theorem load_builds (r : Registry) (root : Element) : Matches Builds (load r root) (read r root) := by
  unfold load read
  refine Matches.both _ fun _ _ => loadSections_matches r root.children ⟨Program.linked_empty _, ?_⟩
  exact ⟨rfl, .nil, .nil, .nil, .nil⟩

theorem read_of_load {r : Registry} {root : Element} {p : Program} (loads : load r root = .ok p) :
    ∃ t, read r root = .ok t ∧ Builds p t := by
  have same := load_builds r root
  cases reads : read r root with
  | error e =>
    rw [reads, loads] at same
    cases same
  | ok t =>
    rw [reads, loads] at same
    obtain ⟨q, loaded, builds⟩ := same
    cases loaded
    exact ⟨t, rfl, builds⟩

end FlightBlocks.Document
