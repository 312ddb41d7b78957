import FlightBlocks.Proofs.Depth
import FlightBlocks.Proofs.Scanning
import FlightBlocks.Scanner

/-!
# Searches with stacks

A search that keeps stacks looks at the same positions as one that calls itself, in the same order, whatever the links
of a program. A turn of one of its loops settles the position on top of the stack, or it puts those positions on the
stack that the other search looks at one link deeper (`Turn`). So where one of the two searches ends the other one does,
too, with the same (`Program.scanExtension_eq_pure_iff`). Where links run in a circle before anything is found, the
search that calls itself is cut short, and the one with stacks never ends (`ComesTo.never`).
-/

namespace FlightBlocks

/-! ## Loops -/

namespace Scan

variable {α : Type} {turn : Scan (Option α)} {s later : Scanner}

theorem loop_goes_on (goes_on : turn.run s = pure (none, later)) : turn.loop.run s = turn.loop.run later := by
  refine PFun.fix_fwd_eq ?_
  rw [goes_on]
  exact Part.mem_map outcome (Part.mem_some _)

theorem loop_ends {a : α} (ends : turn.run s = pure (some a, later)) : turn.loop.run s = pure (a, later) := by
  refine Part.eq_some_iff.mpr (PFun.fix_stop ?_)
  rw [ends]
  exact Part.mem_map outcome (Part.mem_some _)

theorem loop_fails {e : BrokenLink} (fails : turn.run s = throw e) : turn.loop.run s = throw e := by
  refine Part.eq_some_iff.mpr (PFun.fix_stop ?_)
  rw [fails]
  exact Part.mem_map outcome (Part.mem_some _)

/-- What holds of the states in which a loop ends, and of a state if it holds of the one after a turn, holds of every
    state from which the loop ends. -/
theorem loop_induction {motive : Scanner → Prop} {result : Except BrokenLink (α × Scanner)}
    (ends : result ∈ (turn.loop.run s).run)
    (last : ∀ s r, r ∈ (turn.run s).run → (∀ later, r ≠ .ok (none, later)) → motive s)
    (before : ∀ s later, .ok (none, later) ∈ (turn.run s).run → motive later → motive s) : motive s := by
  refine PFun.fixInduction' ends (fun s final => ?_) fun s next _ goes_on holds => ?_
  · obtain ⟨r, member, stops⟩ := (Part.mem_map_iff outcome).mp final
    refine last s r member fun later goes_on => ?_
    rw [goes_on] at stops
    cases stops
  · obtain ⟨r, member, continues⟩ := (Part.mem_map_iff outcome).mp goes_on
    obtain e | ⟨a | a, later⟩ := r
    · cases continues
    · cases continues
      exact before s next member holds
    · cases continues

end Scan

namespace Scanner

theorem pushInstructions_eq (s : Scanner) (ids : List InstructionId) :
    s.pushInstructions ids = { s with instructionStack := ids ++ s.instructionStack } := by
  unfold pushInstructions
  induction ids with
  | nil => rfl
  | cons id rest ih =>
    rw [List.reverse_cons, List.foldl_append, ih]
    rfl

theorem pushExpressions_eq (s : Scanner) (ids : List ExpressionId) :
    s.pushExpressions ids = { s with expressionStack := ids ++ s.expressionStack } := by
  unfold pushExpressions
  induction ids with
  | nil => rfl
  | cons id rest ih =>
    rw [List.reverse_cons, List.foldl_append, ih]
    rfl

end Scanner

/-! ## Two searches side by side -/

theorem never_bind {α β : Type} {run : ExceptT BrokenLink Part α} {next : α → ExceptT BrokenLink Part β}
    (never : run.run = .none) : (run >>= next).run = .none := by
  change run.run.bind _ = .none
  rw [never]
  exact Part.bind_none _

/-- What a search with stacks comes to, beside what a search that calls itself does: it ends with the same, or it never
    ends where the other one is cut short. -/
inductive ComesTo {α : Type} (run : ExceptT BrokenLink Part (α × Scanner)) (keeps : Scanner → Prop) :
    Except BrokenLink α → Prop where
  | ends {a : α} {later : Scanner} (kept : keeps later) (same : run = pure (a, later)) : ComesTo run keeps (.ok a)
  | fails {e : BrokenLink} (known : e ≠ .endless) (same : run = throw e) : ComesTo run keeps (.error e)
  | never (same : run.run = .none) : ComesTo run keeps (.error .endless)

theorem ComesTo.imp {α : Type} {run : ExceptT BrokenLink Part (α × Scanner)} {keeps holds : Scanner → Prop}
    {found : Except BrokenLink α} (comes : ComesTo run keeps found) (implies : ∀ s, keeps s → holds s) :
    ComesTo run holds found := by
  cases comes with
  | ends kept same => exact .ends (implies _ kept) same
  | fails known same => exact .fails known same
  | never same => exact .never same

/-- Searches go on side by side from any state that the first ones end in. -/
theorem ComesTo.bind {α β : Type} {search : Scan α} {next : α → Scan β} {keeps : Scanner → Prop}
    {found : Except BrokenLink α} {rest : α → Except BrokenLink β} {s : Scanner}
    (first : ComesTo (search.run s) keeps found)
    (second : ∀ a later, ComesTo ((next a).run later) keeps (rest a)) :
    ComesTo ((search >>= next).run s) keeps (found >>= rest) := by
  cases first with
  | @ends a later kept same =>
    have goes_on : (search >>= next).run s = (next a).run later := by rw [StateT.run_bind, same, pure_bind]
    rw [goes_on]
    exact second a later
  | @fails e known same =>
    refine .fails known ?_
    rw [StateT.run_bind, same]
    exact Part.bind_some _ _
  | never same => exact .never (never_bind same)

/-- What is read off a result is read off the same result of the other search. -/
theorem ComesTo.map_eq_pure_iff {α β : Type} {run : ExceptT BrokenLink Part (α × Scanner)} {keeps : Scanner → Prop}
    {found : Except BrokenLink α} (comes : ComesTo run keeps found) (read : α → β) {b : β} :
    (fun result => read result.1) <$> run = pure b ↔ found.map read = .ok b := by
  cases comes with
  | ends _ same =>
    rw [same, map_pure]
    constructor
    · intro equal
      exact Part.some_injective equal
    · intro equal
      exact congrArg pure (Except.ok.inj equal)
  | @fails e _ same =>
    have failed : (fun result => read result.1) <$> run = throw e := by
      rw [same, map_eq_pure_bind]
      exact Part.bind_some _ _
    rw [failed]
    exact ⟨fun equal => Part.some_injective equal, nofun⟩
  | never same =>
    have nothing : ((fun result => read result.1) <$> run).run = .none := by
      rw [map_eq_pure_bind]
      exact never_bind same
    exact ⟨fun equal => absurd ((congrArg ExceptT.run equal).symm.trans nothing) (Part.some_ne_none _), nofun⟩

/-- What a turn does with the position on top of a stack, beside what a search of this position does. -/
inductive Turn (turn : Scan (Option (Option ExtensionUse))) (stack : Scanner → List Nat) (keeps : Scanner → Prop)
    (find : (depth id : Nat) → Except BrokenLink (Option ExtensionUse)) (s : Scanner) : Prop where
  | last (empty : stack s = []) (ends : turn.run s = pure (some none, s))
  /-- The node at the position is one to find, or something is found beside it. -/
  | finds {id : Nat} {rest : List Nat} {use : ExtensionUse} {later : Scanner} (on_top : stack s = id :: rest)
      (kept : keeps later) (found : ∀ depth, find (depth + 1) id = .ok (some use))
      (ends : turn.run s = pure (some (some use), later))
  /-- What is below the position comes on top of the stack. -/
  | descends {id : Nat} {rest below : List Nat} {later : Scanner} (on_top : stack s = id :: rest) (kept : keeps later)
      (next : stack later = below ++ rest) (found : ∀ depth, find (depth + 1) id = below.findSomeM? (find depth))
      (ends : turn.run s = pure (none, later))
  | fails {id : Nat} {rest : List Nat} {e : BrokenLink} (on_top : stack s = id :: rest) (known : e ≠ .endless)
      (found : ∀ depth, find (depth + 1) id = .error e) (ends : turn.run s = throw e)
  | never {id : Nat} {rest : List Nat} (on_top : stack s = id :: rest)
      (found : ∀ depth, find (depth + 1) id = .error .endless) (ends : (turn.run s).run = .none)

namespace Turn

variable {turn : Scan (Option (Option ExtensionUse))} {stack : Scanner → List Nat} {keeps : Scanner → Prop}
  {find : (depth id : Nat) → Except BrokenLink (Option ExtensionUse)} {below : Nat → List Nat} {size : Nat}
  (along : ByDepth find below size) (turns : ∀ s, keeps s → Turn turn stack keeps find s)

/-- What a loop comes to with positions on top of the stack that are searched beside it: it ends with the same, or
    goes on with the rest. -/
def Yields (turn : Scan (Option (Option ExtensionUse))) (stack : Scanner → List Nat) (keeps : Scanner → Prop)
    (s : Scanner) (rest : List Nat) : Except BrokenLink (Option ExtensionUse) → Prop
  | .ok (some use) => ∃ later, keeps later ∧ turn.loop.run s = pure (some use, later)
  | .ok none => ∃ later, keeps later ∧ stack later = rest ∧ turn.loop.run s = turn.loop.run later
  | .error e => turn.loop.run s = throw e

theorem Yields.of_goes_on {s later : Scanner} {rest : List Nat} {found : Except BrokenLink (Option ExtensionUse)}
    (goes_on : turn.loop.run s = turn.loop.run later) (yields : Yields turn stack keeps later rest found) :
    Yields turn stack keeps s rest found := by
  unfold Yields at yields ⊢
  rwa [goes_on]

include along

/-- Where the search of what is below a position and of others behind it ends, so does that of the position and the
    others one link deeper. -/
theorem ends_above {depth id : Nat} {below rest : List Nat}
    (found : find (depth + 1) id = below.findSomeM? (find depth))
    (ends : (below ++ rest).findSomeM? (find depth) ≠ .error .endless) :
    (id :: rest).findSomeM? (find (depth + 1)) ≠ .error .endless := by
  rw [findSomeM?_append] at ends
  rw [List.findSomeM?, found]
  cases first : below.findSomeM? (find depth) with
  | error e =>
    rw [first] at ends
    exact ends
  | ok answer =>
    rw [first] at ends
    cases answer with
    | some use => exact ends
    | none =>
      have same : rest.findSomeM? (find (depth + 1)) = rest.findSomeM? (find depth) :=
        findSomeM?_eq_of_ne (fun _ _ ends => along.longer ends depth.le_succ) ends
      exact same ▸ ends

include turns

/-- Where the search of some positions ends, a loop with these on top of the stack comes to the same. -/
theorem yields {depth : Nat} {ids rest : List Nat} {s : Scanner} (kept : keeps s) (on_top : stack s = ids ++ rest)
    (ends : ids.findSomeM? (find depth) ≠ .error .endless) :
    Yields turn stack keeps s rest (ids.findSomeM? (find depth)) := by
  induction depth generalizing ids rest s with
  | zero =>
    cases ids with
    | nil => exact ⟨s, kept, on_top, rfl⟩
    | cons id others =>
      rw [List.findSomeM?, along.zero] at ends
      exact absurd rfl ends
  | succ depth deeper =>
    induction ids generalizing s with
    | nil => exact ⟨s, kept, on_top, rfl⟩
    | cons id others ih =>
      rw [List.findSomeM?] at ends ⊢
      cases turns s kept with
      | last empty _ => cases empty.symm.trans on_top
      | finds on_top' kept found stops =>
        cases on_top'.symm.trans on_top
        rw [found]
        exact ⟨_, kept, Scan.loop_ends stops⟩
      | fails on_top' known found stops =>
        cases on_top'.symm.trans on_top
        rw [found]
        exact Scan.loop_fails stops
      | never on_top' found _ =>
        cases on_top'.symm.trans on_top
        rw [found] at ends
        exact absurd rfl ends
      | @descends _ _ below later on_top' kept next found goes_on =>
        cases on_top'.symm.trans on_top
        rw [found] at ends ⊢
        -- What is below the position is searched one link less deep, then the others as they are.
        have inside : below.findSomeM? (find depth) ≠ .error .endless := fun cut => ends (by rw [cut]; rfl)
        have searched := deeper kept next inside
        refine Yields.of_goes_on (Scan.loop_goes_on goes_on) ?_
        cases first : below.findSomeM? (find depth) with
        | error e =>
          rw [first] at searched
          exact searched
        | ok answer =>
          rw [first] at searched ends
          cases answer with
          | some use => exact searched
          | none =>
            obtain ⟨behind, kept, on_top, goes_on⟩ := searched
            exact Yields.of_goes_on goes_on (ih kept on_top ends)

/-- Where a loop ends, the search of what is on its stack is not cut short at some depth. -/
theorem exists_depth {s : Scanner} {result : Except BrokenLink (Option ExtensionUse × Scanner)} (kept : keeps s)
    (ends : result ∈ (turn.loop.run s).run) :
    ∃ depth, (stack s).findSomeM? (find depth) ≠ .error .endless := by
  refine Scan.loop_induction (motive := fun s => keeps s → ∃ depth, (stack s).findSomeM? (find depth) ≠ .error .endless)
    ends (fun s r member stops kept => ?_) (fun s later goes_on holds kept => ?_) kept
  · cases turns s kept with
    | last empty _ =>
      refine ⟨0, ?_⟩
      rw [empty]
      rintro ⟨⟩
    | finds on_top _ found _ =>
      refine ⟨1, ?_⟩
      rw [on_top, List.findSomeM?, found]
      rintro ⟨⟩
    | fails on_top known found _ =>
      refine ⟨1, ?_⟩
      rw [on_top, List.findSomeM?, found]
      exact fun same => known (Except.error.inj same)
    | @descends _ _ _ later _ _ _ _ goes_on =>
      rw [goes_on] at member
      exact absurd (Part.mem_some_iff.mp member) (stops later)
    | never _ _ never =>
      rw [never] at member
      exact absurd member (Part.notMem_none _)
  · cases turns s kept with
    | last _ stops | finds _ _ _ stops | fails _ _ _ stops =>
      rw [stops] at goes_on
      cases Part.mem_some_iff.mp goes_on
    | never _ _ never =>
      rw [never] at goes_on
      exact absurd goes_on (Part.notMem_none _)
    | descends on_top kept next found continues =>
      rw [continues] at goes_on
      cases Part.mem_some_iff.mp goes_on
      obtain ⟨depth, ends⟩ := holds kept
      rw [next] at ends
      exact ⟨depth + 1, on_top ▸ ends_above along (found depth) ends⟩

/-- A loop comes to what the search of the positions on its stack comes to. -/
theorem loop_comesTo {s : Scanner} (kept : keeps s) :
    ComesTo (turn.loop.run s) keeps ((stack s).findSomeM? (find (size + 1))) := by
  by_cases cut : (stack s).findSomeM? (find (size + 1)) = .error .endless
  · rw [cut]
    refine .never (Part.eq_none_iff.mpr fun result ends => ?_)
    obtain ⟨depth, uncut⟩ := exists_depth along turns kept ends
    exact uncut (by
      rw [← findSomeM?_eq_of_ne (fun id _ ends => along.eq_of_ends ends) uncut]
      exact cut)
  · have searched := yields along turns kept (List.append_nil (stack s)).symm cut
    cases found : (stack s).findSomeM? (find (size + 1)) with
    | error e =>
      rw [found] at searched cut
      exact .fails (fun same => cut (by rw [same])) searched
    | ok answer =>
      rw [found] at searched
      cases answer with
      | some use =>
        obtain ⟨later, kept, stops⟩ := searched
        exact .ends kept stops
      | none =>
        obtain ⟨later, kept, empty, goes_on⟩ := searched
        cases turns later kept with
        | last _ stops => exact .ends kept (goes_on.trans (Scan.loop_ends stops))
        | finds on_top | fails on_top | descends on_top | never on_top => cases on_top.symm.trans empty

end Turn

/-! ## The searches of a program -/

namespace Program

variable {p : Program}

theorem lift_ok {α : Type} (a : α) :
    (monadLift (.ok a : Except BrokenLink α) : ExceptT BrokenLink Part α) = pure a := rfl

theorem lift_error {α : Type} (e : BrokenLink) :
    (monadLift (.error e : Except BrokenLink α) : ExceptT BrokenLink Part α) = throw e := rfl

theorem not_extension {type : NodeType} (host : type.IsHost) : type.origin ≠ .extension :=
  fun extension => NodeType.extension_iff.mp extension host

/-! ### Expressions -/

/-- The search of an expression depends on those of its children. -/
theorem findInExpression_byDepth (p : Program) :
    ByDepth p.findInExpression p.childrenOf p.expressions.size where
  zero _ := rfl
  succ {depth more id} same ends := by
    cases at_id : p.expressions[id]? with
    | none => rw [findInExpression_missing at_id, findInExpression_missing at_id]
    | some slot =>
      by_cases host : slot.node.type.IsHost
      · rw [childrenOf_eq at_id] at same
        rw [findInExpression_host at_id host] at ends ⊢
        rw [findInExpression_host at_id host]
        exact findSomeM?_eq_of_ne same ends
      · rw [findInExpression_extension at_id host, findInExpression_extension at_id host]
  outside {depth id} beyond := by
    rw [findInExpression_missing (Array.getElem?_eq_none beyond)]
    nofun

/-- A turn takes one expression off the stack and leaves the stack of instructions alone. -/
theorem scanExpression_turn (pending : List InstructionId) (s : Scanner) (kept : s.instructionStack = pending) :
    Turn p.scanExpression Scanner.expressionStack (·.instructionStack = pending) p.findInExpression s := by
  cases on_top : s.expressionStack with
  | nil => exact .last on_top (by simp [scanExpression, on_top])
  | cons id rest =>
    cases at_id : p.expressions[id]? with
    | none =>
      refine .fails (e := .noExpression id) on_top nofun (fun _ => findInExpression_missing at_id) ?_
      simp [scanExpression, on_top, expression, at_id, lift_error]
    | some slot =>
      by_cases host : slot.node.type.IsHost
      · have goes_on : p.scanExpression.run s = pure (none, { s with expressionStack := slot.children ++ rest }) := by
          simp [scanExpression, on_top, expression, at_id, lift_ok, not_extension host, Scanner.pushExpressions_eq]
        refine .descends on_top ?_ ?_ (fun _ => findInExpression_host at_id host) goes_on
        · exact kept
        · rfl
      · have stops : p.scanExpression.run s =
            pure (some (some (.expression id)), { s with expressionStack := rest }) := by
          simp [scanExpression, on_top, expression, at_id, lift_ok, NodeType.extension_iff.mpr host]
        refine .finds on_top ?_ (fun _ => findInExpression_extension at_id host) stops
        exact kept

/-- The stack of expressions may hold anything at the beginning. -/
theorem scanExpressions_comesTo (ids : List ExpressionId) (s : Scanner) :
    ComesTo ((p.scanExpressions ids).run s) (·.instructionStack = s.instructionStack) (p.findInExpressions ids) := by
  have restarted : (p.scanExpressions ids).run s = p.scanExpression.loop.run { s with expressionStack := ids } := by
    simp [scanExpressions, Scanner.pushExpressions_eq]
  rw [restarted]
  exact Turn.loop_comesTo p.findInExpression_byDepth (scanExpression_turn s.instructionStack) rfl

/-! ### Instructions -/

/-- The instructions that a search goes on with from an instruction. -/
def followedFrom (p : Program) (id : InstructionId) : List InstructionId := p.instructions[id]?.elim [] followed

theorem followedFrom_eq {id : InstructionId} {slot : InstructionSlot} (at_id : p.instructions[id]? = some slot) :
    p.followedFrom id = followed slot := by
  rw [followedFrom, at_id, Option.elim_some]

theorem findInInstruction_byDepth (p : Program) :
    ByDepth p.findInInstruction p.followedFrom p.instructions.size where
  zero _ := rfl
  succ {depth more id} same ends := by
    cases at_id : p.instructions[id]? with
    | none => rw [findInInstruction_missing at_id, findInInstruction_missing at_id]
    | some slot =>
      by_cases host : slot.node.type.IsHost
      · rw [followedFrom_eq at_id] at same
        rw [findInInstruction_host at_id host] at ends ⊢
        rw [findInInstruction_host at_id host]
        refine bind_eq_of_ne (fun _ => rfl) (fun found more => ?_) ends
        cases found with
        | some use => rfl
        | none => exact findSomeM?_eq_of_ne same more
      · rw [findInInstruction_extension at_id host, findInInstruction_extension at_id host]
  outside {depth id} beyond := by
    rw [findInInstruction_missing (Array.getElem?_eq_none beyond)]
    nofun

/-- A turn takes one instruction off the stack and searches all its expressions. -/
theorem scanInstruction_turn (s : Scanner) :
    Turn p.scanInstruction Scanner.instructionStack (fun _ => True) p.findInInstruction s := by
  cases on_top : s.instructionStack with
  | nil => exact .last on_top (by simp [scanInstruction, on_top])
  | cons id rest =>
    cases at_id : p.instructions[id]? with
    | none =>
      refine .fails (e := .noInstruction id) on_top nofun (fun _ => findInInstruction_missing at_id) ?_
      simp [scanInstruction, on_top, instruction, at_id, lift_error]
    | some slot =>
      by_cases host : slot.node.type.IsHost
      · have finds : ∀ depth, p.findInInstruction (depth + 1) id = _ := fun _ => findInInstruction_host at_id host
        have searched := scanExpressions_comesTo (p := p) slot.expressions { s with instructionStack := rest }
        generalize p.findInExpressions slot.expressions = found at searched finds
        cases searched with
        | @ends answer later kept same =>
          cases answer with
          | some use =>
            have stops : p.scanInstruction.run s = pure (some (some use), later) := by
              simp [scanInstruction, on_top, instruction, at_id, lift_ok, not_extension host, same]
            exact .finds on_top trivial finds stops
          | none =>
            have goes_on : p.scanInstruction.run s =
                pure (none, { later with instructionStack := followed slot ++ later.instructionStack }) := by
              cases nests : slot.node.hasBody <;> cases follows : slot.next <;> cases begins : slot.body <;>
                simp [scanInstruction, on_top, instruction, at_id, lift_ok, not_extension host, same,
                  Scanner.pushInstruction, followed, nests, follows, begins]
            exact .descends on_top trivial (congrArg (followed slot ++ ·) kept) finds goes_on
        | @fails e known same =>
          refine .fails on_top known finds ?_
          simp [scanInstruction, on_top, instruction, at_id, lift_ok, not_extension host, same]
        | never same =>
          refine .never on_top finds ?_
          simpa [scanInstruction, on_top, instruction, at_id, lift_ok, not_extension host] using never_bind same
      · have stops : p.scanInstruction.run s =
            pure (some (some (.instruction id)), { s with instructionStack := rest }) := by
          simp [scanInstruction, on_top, instruction, at_id, lift_ok, NodeType.extension_iff.mpr host]
        exact .finds on_top trivial (fun _ => findInInstruction_extension at_id host) stops

/-- Both stacks may hold anything at the beginning. -/
theorem scanInstructions_comesTo (ids : List InstructionId) (s : Scanner) :
    ComesTo ((p.scanInstructions ids).run s) (fun _ => True) (p.findInInstructions ids) := by
  have restarted : (p.scanInstructions ids).run s = p.scanInstruction.loop.run { s with instructionStack := ids } := by
    simp [scanInstructions, Scanner.pushInstructions_eq]
  rw [restarted]
  exact Turn.loop_comesTo p.findInInstruction_byDepth (fun s _ => scanInstruction_turn s) trivial

/-! ### Programs -/

section Roots

variable {threads customInstructions : List InstructionId} {expressions customExpressions : List ExpressionId}

theorem scanFrom_comesTo (s : Scanner) :
    ComesTo ((p.scanFrom threads expressions customExpressions customInstructions).run s) (fun _ => True)
      (p.findExtensionFrom threads expressions customExpressions customInstructions) := by
  refine (scanInstructions_comesTo threads s).bind fun in_threads s => ?_
  cases in_threads with
  | some use => exact .ends trivial rfl
  | none =>
  refine ((scanExpressions_comesTo expressions s).imp fun _ _ => trivial).bind fun in_expressions s => ?_
  cases in_expressions with
  | some use => exact .ends trivial rfl
  | none =>
  refine ((scanExpressions_comesTo customExpressions s).imp fun _ _ => trivial).bind fun in_custom s => ?_
  cases in_custom with
  | some use => exact .ends trivial rfl
  | none => exact scanInstructions_comesTo customInstructions s

/-- The search with stacks ends with something, or with nothing, exactly where the one that calls itself does. -/
theorem scanFrom_eq_pure_iff {found : Option ExtensionUse} (s : Scanner) :
    (p.scanFrom threads expressions customExpressions customInstructions).run' s = pure found ↔
      p.findExtensionFrom threads expressions customExpressions customInstructions = .ok found := by
  have comes : ComesTo _ _ (p.findExtensionFrom threads expressions customExpressions customInstructions) :=
    scanFrom_comesTo s
  have same := comes.map_eq_pure_iff id (b := found)
  rwa [Except.map_id] at same

theorem scanUsage_eq_pure_iff {uses : Bool} :
    p.scanUsage threads expressions customExpressions customInstructions = pure uses ↔
      (p.findExtensionFrom threads expressions customExpressions customInstructions).map Option.isSome = .ok uses := by
  rw [scanUsage, StateT.run', Functor.map_map]
  exact (scanFrom_comesTo {}).map_eq_pure_iff Option.isSome

end Roots

theorem scanExtension_eq_pure_iff {found : Option ExtensionUse} :
    p.scanExtension = pure found ↔ p.findExtension = .ok found :=
  scanFrom_eq_pure_iff {}

/-- Whether the extension is used is the same question for both searches. -/
theorem scanExtension_isSome_iff {uses : Bool} :
    Option.isSome <$> p.scanExtension = pure uses ↔ p.usesExtension = .ok uses :=
  scanUsage_eq_pure_iff

end Program

end FlightBlocks
