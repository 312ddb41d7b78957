import FlightBlocks.Proofs.Evaluation
import FlightBlocks.Proofs.WholeNumbers
import FlightBlocks.World.Scene

/-!
# Selecting a craft by its id

A program finds the craft of a kind by its id, and reads its orbit by handing that id on. The two agree on a craft
with an id from zero up, and on the craft that executes the program (`orbit_of_craft_by_id`). They do not on an id
below zero. When there is no craft of the kind, the id is minus one, and to what reads an orbit any id below zero
stands for the craft that executes the program.
-/

namespace FlightBlocks

namespace ExpressionNode

/-- The node reads something of an orbit, and has a value that stands in when there is no orbit. -/
inductive ReadsOrbit : ExpressionNode → (Orbit → Value) → Value → Prop where
  | element {c : Choice OrbitalElement} {reading : OrbitalElement} (chosen : c.selected = some reading) :
    ReadsOrbit (.orbitalElement c) (OrbitReading.read reading) (OrbitReading.neutral OrbitalElement)
  | advanced {c : Choice AdvancedOrbitalElement} {reading : AdvancedOrbitalElement}
      (chosen : c.selected = some reading) :
    ReadsOrbit (.advancedOrbitalElement c) (OrbitReading.read reading) (OrbitReading.neutral AdvancedOrbitalElement)
  | state {c : Choice StateVector} {reading : StateVector} (chosen : c.selected = some reading) :
    ReadsOrbit (.stateVector c) (OrbitReading.read reading) (OrbitReading.neutral StateVector)

variable {ε : Type} {node : ExpressionNode} {read : Orbit → Value} {neutral : Value}

theorem readOrbit_of_selected {α : Type} [OrbitReading α] {c : Choice α} {reading : α}
    (chosen : c.selected = some reading) (world : World) (selector : Value) : readOrbit c world selector =
      ((world.select? selector).map fun found => OrbitReading.read reading found.orbit).getD
        (OrbitReading.neutral α) := by
  unfold readOrbit
  rw [chosen]
  cases world.select? selector <;> rfl

/-- What is read is that of the craft or planet that the first child selects. -/
theorem ReadsOrbit.evaluate_eq (reads : node.ReadsOrbit read neutral) {child : Nat → Except ε Value} {selector : Value}
    (first : child 0 = .ok selector) (world : World) (vars : Variables) : node.evaluate world vars child =
      .ok (((world.select? selector).map fun found => read found.orbit).getD neutral) := by
  cases reads with
  | element chosen | advanced chosen | state chosen =>
    simp only [evaluate, first, ← readOrbit_of_selected chosen]
    rfl

end ExpressionNode

/-- The number is a whole number of 32 bits. -/
def IsWord (i : Int) : Prop := Int32.minValue.toInt ≤ i ∧ i ≤ Int32.maxValue.toInt

instance (i : Int) : Decidable (IsWord i) := inferInstanceAs (Decidable (_ ∧ _))

theorem World.select?_ofInt {i : Int} (word : IsWord i) (world : World) :
    world.select? (.number (Float.ofInt i)) = world.craftById? i := by
  simp only [select?, WholeNumber.toInt32_ofInt word.1 word.2]

namespace Scene

variable {s : Scene} {kind : CraftKind}

/-- The craft of a kind. -/
def craftOf? (s : Scene) : CraftKind → Option OrbitNode
  | .current => s.executing.bind s.craft?
  | .target => s.target.bind s.craft?
  | .active => s.active.bind s.craft?

/-- The id that a program is given for a kind. -/
def givenId (s : Scene) (kind : CraftKind) : Int := (s.world.craftId? kind).getD (-1)

/-- All ids are whole numbers of 32 bits. -/
structure WordIds (s : Scene) : Prop where
  crafts : ∀ craft ∈ s.crafts, IsWord craft.id
  target : ∀ id ∈ s.target, IsWord id
  active : ∀ id ∈ s.active, IsWord id

theorem id_of_craft? {id : Int} {craft : OrbitNode} (found : s.craft? id = some craft) : craft.id = id := by
  simpa using List.find?_some found

/-- The executing craft is found by its own id, even if it shares that with others. -/
theorem craft?_id_of_executing {craft : OrbitNode} (executing : s.craftOf? .current = some craft) :
    s.craft? craft.id = some craft := by
  obtain ⟨id, -, found⟩ := Option.bind_eq_some_iff.mp executing
  rwa [id_of_craft? found]

theorem WordIds.givenId (words : s.WordIds) (kind : CraftKind) : IsWord (s.givenId kind) := by
  have none_given : IsWord (-1) := by decide
  have given : ∀ id ∈ s.world.craftId? kind, IsWord id := by
    cases kind with
    | current =>
      intro id is_given
      obtain ⟨craft, executing, rfl⟩ := Option.map_eq_some_iff.mp is_given
      exact words.crafts craft (List.mem_of_find?_eq_some (craft?_id_of_executing executing))
    | target => exact words.target
    | active => exact words.active
  unfold Scene.givenId
  cases is_given : s.world.craftId? kind with
  | none => exact none_given
  | some id => exact given id is_given

theorem craftById?_of_neg {id : Int} (negative : id < 0) : s.world.craftById? id = s.craftOf? .current :=
  if_neg (Int.not_le.mpr negative)

/-- The id that is given leads back to the craft of the kind, unless it is below zero. -/
theorem craftById?_givenId (back : kind = .current ∨ 0 ≤ s.givenId kind) :
    s.world.craftById? (s.givenId kind) = s.craftOf? kind := by
  by_cases negative : s.givenId kind < 0
  · obtain rfl := back.resolve_right (Int.not_le.mpr negative)
    exact craftById?_of_neg negative
  have by_id : s.world.craftById? (s.givenId kind) = s.craft? (s.givenId kind) := if_pos (Int.not_lt.mp negative)
  rw [by_id]
  unfold givenId at negative ⊢
  cases given : s.world.craftId? kind with
  | none =>
    rw [given] at negative
    exact absurd (by decide) negative
  | some id =>
    cases kind with
    | current =>
      obtain ⟨craft, executing, rfl⟩ := Option.map_eq_some_iff.mp given
      exact (craft?_id_of_executing executing).trans executing.symm
    | target | active =>
      simp only [World.craftId?, world] at given
      rw [craftOf?, given]
      rfl

end Scene

section Selection

variable {p : Program} {id child : ExpressionId} {node : ExpressionNode} {read : Orbit → Value} {neutral : Value}
  {c : Choice CraftKind} {kind : CraftKind} {more below : List ExpressionId} {s : Scene}

theorem evaluate_craftId (at_child : p.expressions[child]? = some ⟨.craftId c, below⟩) (chosen : c.selected = some kind)
    (vars : Variables) : p.evaluate s.world vars child = .ok (.number (Float.ofInt (s.givenId kind))) := by
  rw [Program.evaluate_eq at_child, Scene.givenId]
  simp only [ExpressionNode.evaluate, readCraftId, chosen, Option.bind_some]
  rfl

/-- The orbit that is read is that of the craft to which the id leads that is given for the kind. -/
theorem evaluate_orbit_of_craftId (reads : node.ReadsOrbit read neutral)
    (at_id : p.expressions[id]? = some ⟨node, child :: more⟩)
    (at_child : p.expressions[child]? = some ⟨.craftId c, below⟩) (chosen : c.selected = some kind)
    (words : s.WordIds) (vars : Variables) : p.evaluate s.world vars id =
      .ok (((s.world.craftById? (s.givenId kind)).map fun craft => read craft.orbit).getD neutral) := by
  rw [Program.evaluate_eq at_id, ← World.select?_ofInt (words.givenId kind)]
  exact reads.evaluate_eq (evaluate_craftId at_child chosen vars) s.world vars

/-- What is read of the orbit of a craft that is selected by the id of a kind: that of the craft of the kind, if it
    executes the program or the id is not below zero, and that of the executing craft if it is. Where there is no
    such craft, it is the value that stands in. -/
theorem orbit_of_craft_by_id (reads : node.ReadsOrbit read neutral)
    (at_id : p.expressions[id]? = some ⟨node, child :: more⟩)
    (at_child : p.expressions[child]? = some ⟨.craftId c, below⟩) (chosen : c.selected = some kind)
    (words : s.WordIds) (vars : Variables) :
    p.evaluate s.world vars child = .ok (.number (Float.ofInt (s.givenId kind))) ∧
    (kind = .current ∨ 0 ≤ s.givenId kind →
      p.evaluate s.world vars id = .ok (((s.craftOf? kind).map fun craft => read craft.orbit).getD neutral)) ∧
    (s.givenId kind < 0 →
      p.evaluate s.world vars id = .ok (((s.craftOf? .current).map fun craft => read craft.orbit).getD neutral)) := by
  have value := evaluate_orbit_of_craftId reads at_id at_child chosen words vars
  refine ⟨evaluate_craftId at_child chosen vars, fun back => ?_, fun negative => ?_⟩
  · rw [value, Scene.craftById?_givenId back]
  · rw [value, Scene.craftById?_of_neg negative]

end Selection

/-- Reads half the length of the orbit of the target. -/
def readsTarget : Program where
  name := ""
  expressions := #[⟨.craftId (.ofKey "target"), []⟩, ⟨.orbitalElement (.ofKey "semi-major-axis"), [0]⟩]

/-- Two crafts, of which the first executes the program. -/
def twoCrafts (other : Int) (target : Option Int) : Scene where
  crafts := [⟨1, "", { semiMajorAxis := 10 }⟩, ⟨other, "", { semiMajorAxis := 20 }⟩]
  planets := []
  executing := some 1
  target := target
  active := none

theorem readsTarget_readsOrbit :
    (ExpressionNode.orbitalElement (.ofKey "semi-major-axis")).ReadsOrbit (fun o => .number o.semiMajorAxis) .zero :=
  .element (show _ = some OrbitalElement.semiMajorAxis by decide +kernel)

theorem readsTarget_chosen : (Choice.ofKey "target").selected = some CraftKind.target := by decide +kernel

/-- The orbit of the target is read if there is such a craft, and zero if its id is from zero up and there is none.
    Without a target it is the orbit of the craft that executes the program. -/
theorem orbit_of_craft_by_id_of_target :
    readsTarget.evaluate (twoCrafts 8 (some 8)).world .empty 1 = .ok (.number 20) ∧
      readsTarget.evaluate (twoCrafts 8 (some 9)).world .empty 1 = .ok .zero ∧
      readsTarget.evaluate (twoCrafts 8 none).world .empty 1 = .ok (.number 10) := by
  have there : (twoCrafts 8 (some 8)).WordIds := ⟨by decide, by decide, by decide⟩
  have missing : (twoCrafts 8 (some 9)).WordIds := ⟨by decide, by decide, by decide⟩
  have unset : (twoCrafts 8 none).WordIds := ⟨by decide, by decide, by decide⟩
  refine ⟨?_, ?_, ?_⟩
  · exact (orbit_of_craft_by_id readsTarget_readsOrbit rfl rfl readsTarget_chosen there .empty).2.1 (.inr (by decide))
  · exact (orbit_of_craft_by_id readsTarget_readsOrbit rfl rfl readsTarget_chosen missing .empty).2.1 (.inr (by decide))
  · exact (orbit_of_craft_by_id readsTarget_readsOrbit rfl rfl readsTarget_chosen unset .empty).2.2 (by decide)

/-- Without a target, and with a target whose id is below zero, the orbit of the craft that executes the program is
    read, not zero and not that of the target. -/
theorem orbit_of_executing_craft_for_target :
    ((twoCrafts 8 none).craftOf? .target = none ∧ (twoCrafts 8 none).givenId .target = -1 ∧
      readsTarget.evaluate (twoCrafts 8 none).world .empty 1 = .ok (.number 10)) ∧
    ((twoCrafts (-8) (some (-8))).craftOf? .target).map (·.orbit.semiMajorAxis) = some 20 ∧
      readsTarget.evaluate (twoCrafts (-8) (some (-8))).world .empty 1 = .ok (.number 10) ∧ (10 : Float) ≠ 20 ∧
        (10 : Float) ≠ 0 := by
  have no_target : (twoCrafts 8 none).WordIds := ⟨by decide, by decide, by decide⟩
  have below_zero : (twoCrafts (-8) (some (-8))).WordIds := ⟨by decide, by decide, by decide⟩
  refine ⟨⟨rfl, rfl, ?_⟩, rfl, ?_, by decide +kernel, by decide +kernel⟩
  · rw [evaluate_orbit_of_craftId readsTarget_readsOrbit rfl rfl readsTarget_chosen no_target]
    rfl
  · rw [evaluate_orbit_of_craftId readsTarget_readsOrbit rfl rfl readsTarget_chosen below_zero]
    rfl

end FlightBlocks
