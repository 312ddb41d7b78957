import FlightBlocks.Proofs.Inventory
import FlightBlocks.Proofs.Placement
import FlightBlocks.Proofs.Registration
import FlightBlocks.Proofs.Saving

/-!
# What loading discards

An instruction is given one body, the last of those that its element has. Loading a program discards what
stands in the bodies before, and nothing else (`reached_iff_kept`): every element that stands for
a node is given a position, links lead to it from the roots unless it stands in such a body, and saving the
program writes each node that is reached once. Where each instruction has one body at most, nothing is
discarded.
-/

namespace FlightBlocks

open Markup (Attribute Element)
open Document (chainElement chainElements expressionElement expressionElements instructionElement
  instructionElements element)

/-! ## What is written for nodes -/

/-- The name of an element and its attributes. -/
abbrev Heading := String × List Attribute

mutual

/-- An element and all elements in it, by their headings. -/
def headings : Element → Multiset Heading
  | ⟨name, attributes, children⟩ => headingsOf children + {(name, attributes)}

def headingsOf : List Element → Multiset Heading
  | [] => 0
  | e :: rest => headings e + headingsOf rest

end

theorem headingsOf_append (es more : List Element) : headingsOf (es ++ more) = headingsOf es + headingsOf more := by
  induction es with
  | nil => simp [headingsOf]
  | cons e rest ih => simp [headingsOf, ih, add_assoc]

/-- The attribute that a node is saved with, if there is any. -/
def Node.setting : Node → Option Attribute
  | .expression node => node.setting
  | .instruction node => node.setting

/-- What is written for a node. -/
def Registry.heading (r : Registry) (node : Node) : Heading := (r.savedName node.type, node.setting.toList)

/-- The names of elements that hold what is written for nodes. -/
def frameTags : List String :=
  [Document.programTag, Document.instructionsTag, Document.expressionsTag, Document.customInstructionsTag,
    Document.customExpressionsTag]

/-- Some nodes were written, each as often as it occurs, and nothing else but elements to hold them. -/
def Written (r : Registry) (nodes : Multiset Node) (written : Multiset Heading) : Prop :=
  ∃ frames, written = nodes.map r.heading + frames ∧ ∀ heading ∈ frames, heading.1 ∈ frameTags

namespace Written

variable {r : Registry} {nodes more : Multiset Node} {written others : Multiset Heading}

theorem zero (r : Registry) : Written r 0 0 := ⟨0, by simp, by simp⟩

theorem add (first : Written r nodes written) (second : Written r more others) :
    Written r (nodes + more) (written + others) := by
  obtain ⟨frames, rfl, framed⟩ := first
  obtain ⟨frames', rfl, framed'⟩ := second
  refine ⟨frames + frames', ?_, ?_⟩
  · rw [Multiset.map_add]
    exact add_add_add_comm _ _ _ _
  · intro heading member
    rcases Multiset.mem_add.mp member with left | right
    · exact framed heading left
    · exact framed' heading right

theorem node (node : Node) : Written r {node} {r.heading node} := ⟨0, by simp, by simp⟩

/-- An element around what was written. -/
theorem frame {name : String} {attributes : List Attribute} {children : List Element}
    (inside : Written r nodes (headingsOf children)) (is_frame : name ∈ frameTags) :
    Written r nodes (headings ⟨name, attributes, children⟩) := by
  have around : Written r 0 {(name, attributes)} := ⟨{(name, attributes)}, by simp, by simp [is_frame]⟩
  simpa [headings] using inside.add around

end Written

variable {r : Registry}

mutual

theorem expressionElement_written : ∀ (tree : ExpressionTree),
    Written r tree.nodes (headings (expressionElement r tree))
  | ⟨node, children⟩ => by
    rw [ExpressionTree.nodes, expressionElement, headings]
    exact (expressionElements_written children).add (.node (.expression node))

theorem expressionElements_written : ∀ (trees : List ExpressionTree),
    Written r (expressionNodes trees) (headingsOf (expressionElements r trees))
  | [] => .zero r
  | tree :: rest => by
    rw [expressionNodes, expressionElements, headingsOf]
    exact (expressionElement_written tree).add (expressionElements_written rest)

end

mutual

theorem instructionElement_written : ∀ (tree : InstructionTree),
    Written r tree.nodes (headings (instructionElement r tree))
  | ⟨node, expressions, body⟩ => by
    rw [InstructionTree.nodes, instructionElement, headings, headingsOf_append]
    refine ((expressionElements_written expressions).add ?_).add (.node (.instruction node))
    have inside := instructionElements_written body
    cases body with
    | nil => exact .zero r
    | cons tree rest =>
      have chain : Written r _ (headings (chainElement _)) := inside.frame (by decide)
      simpa [headingsOf] using chain

theorem instructionElements_written : ∀ (trees : List InstructionTree),
    Written r (instructionNodes trees) (headingsOf (instructionElements r trees))
  | [] => by
    rw [instructionElements]
    exact .zero r
  | tree :: rest => by
    rw [instructionNodes, instructionElements, headingsOf]
    exact (instructionElement_written tree).add (instructionElements_written rest)

end

theorem chainElements_written (chains : List (List InstructionTree)) :
    Written r (chains.map instructionNodes).sum (headingsOf (chainElements r chains)) := by
  induction chains with
  | nil => exact .zero r
  | cons chain rest ih =>
    have first : Written r _ (headings (chainElement (instructionElements r chain))) :=
      (instructionElements_written chain).frame (by decide)
    rw [List.map_cons, List.sum_cons]
    exact first.add ih

/-- What a program is saved as are its nodes. -/
theorem element_written (t : ProgramTree) : Written r t.nodes (headings (element r t)) := by
  have expressions : Written r _ (headings ⟨Document.expressionsTag, [], expressionElements r t.expressions⟩) :=
    (expressionElements_written t.expressions).frame (by decide)
  have customInstructions : Written r _ (headings ⟨Document.customInstructionsTag, [], _⟩) :=
    (chainElements_written t.customInstructions).frame (by decide)
  have customExpressions :
      Written r _ (headings ⟨Document.customExpressionsTag, [], expressionElements r t.customExpressions⟩) :=
    (expressionElements_written t.customExpressions).frame (by decide)
  have sections := (chainElements_written t.threads).add (expressions.add (customInstructions.add customExpressions))
  rw [element]
  refine Written.frame ?_ (by decide)
  rw [headingsOf_append, ProgramTree.nodes, add_assoc, add_assoc]
  simpa only [headingsOf, add_zero] using sections

/-! ## What becomes of a program that is loaded -/

namespace Document

/-- Every type that a registration made a tag stand for has a tag of its own. -/
theorem read_tagged {root : Element} {t : ProgramTree} (built : r.Built) (reads : read r root = .ok t) :
    t.Every (LoadedInstruction r.HasTag) (LoadedExpression r.HasTag) :=
  read_every (fun _ _ found => built.inStep.tagged found) reads

end Document

/-- The elements that stand for nodes in a program that loads are its nodes, in the order in which they end,
    one position for each. The roots lead to those that are kept, which are all of them where no instruction
    has several bodies, and else those that do not stand in a body with another one behind it. After any
    registrations the program can be saved, and what is written are the nodes that are kept, each as often as
    it occurs, in elements that hold them. -/
theorem reached_iff_kept {r : Registry} {root : Element} {p : Program} (loads : Document.load r root = .ok p) :
    Document.Accounts r p (.ofProgram root) ∧
    ((Document.Occurrences.ofProgram root).Single → (Document.Occurrences.ofProgram root).AllKept) ∧
    (r.Built → ∃ saved nodes, Document.save r p = .ok saved ∧
      (Document.Occurrences.ofProgram root).nodes r = nodes.map .ok ∧ Written r nodes (headings saved)) := by
  refine ⟨Document.load_accounts loads, Document.Occurrences.kept_of_single, ?_⟩
  intro built
  obtain ⟨t, reads, builds⟩ := Document.read_of_load loads
  have saves := Document.save_shows builds.shows (Document.read_tagged built reads)
  exact ⟨element r t, t.nodes, saves, Document.read_nodes reads, element_written t⟩

/-- A branch with two bodies, around its condition. -/
def twoBodies : Element :=
  ⟨"Program", [], [⟨"Instructions", [], [⟨"If", [], [⟨"Instructions", [], [.named "Log"]⟩,
    ⟨"Constant", [("bool", "true")], []⟩, ⟨"Instructions", [], [.named "Break"]⟩]⟩]⟩]⟩

/-- The roots lead to the branch, its condition and what its second body holds, but not to what the first one
    held; and this is not saved. -/
theorem reached_iff_kept_of_two_bodies : ∃ p saved, Document.load .host twoBodies = .ok p ∧
    p.Reaches p.roots (.instruction 2) ∧ p.Reaches p.roots (.expression 0) ∧ p.Reaches p.roots (.instruction 1) ∧
    ¬p.Reaches p.roots (.instruction 0) ∧ Document.save .host p = .ok saved ∧ ("Log", []) ∉ headings saved := by
  have checked : ((Document.load .host twoBodies).toOption.any fun p =>
      (Document.save .host p).toOption.any fun saved => decide (("Log", []) ∉ headings saved)) = true := by
    decide +kernel
  have built : Registry.host.Built := Registry.Built.empty.registerAll Registry.hostEntries
  cases loads : Document.load .host twoBodies with
  | error e =>
    rw [loads] at checked
    cases checked
  | ok p =>
    rw [loads] at checked
    obtain ⟨accounts, -, saves⟩ := reached_iff_kept loads
    obtain ⟨saved, _, saves, -⟩ := saves built
    simp only [Except.toOption, Option.any_some, saves] at checked
    refine ⟨p, saved, rfl, ?_, ?_, ?_, ?_, saves, of_decide_eq_true checked⟩
    · exact (accounts.instruction_reached 2 _ rfl).mpr rfl
    · exact (accounts.expression_reached 0 _ rfl).mpr rfl
    · exact (accounts.instruction_reached 1 _ rfl).mpr rfl
    · exact fun reaches => absurd ((accounts.instruction_reached 0 _ rfl).mp reaches) (by decide)

/-- A branch with a body and an empty one behind it. -/
def emptyBodyBehind : Element :=
  ⟨"Program", [], [⟨"Instructions", [], [⟨"If", [], [⟨"Instructions", [], [.named "Log"]⟩,
    ⟨"Instructions", [], []⟩]⟩]⟩]⟩

/-- Loading may discard a part of a program, which saving does not write back. -/
theorem body_before_empty_discarded : ∃ p saved, Document.load .host emptyBodyBehind = .ok p ∧
    p.instructions[0]?.map (·.node) = some .log ∧ ¬p.Reaches p.roots (.instruction 0) ∧
    Document.save .host p = .ok saved ∧ ("Log", []) ∉ headings saved := by
  have checked : ((Document.load .host emptyBodyBehind).toOption.any fun p =>
      decide (p.instructions[0]?.map (·.node) = some .log) &&
        (Document.save .host p).toOption.any fun saved => decide (("Log", []) ∉ headings saved)) = true := by
    decide +kernel
  cases loads : Document.load .host emptyBodyBehind with
  | error e =>
    rw [loads] at checked
    cases checked
  | ok p =>
    rw [loads] at checked
    have accounts := Document.load_accounts loads
    cases saves : Document.save .host p with
    | error e => simp [Except.toOption, saves] at checked
    | ok saved =>
      simp only [Except.toOption, Option.any_some, saves, Bool.and_eq_true, decide_eq_true_eq] at checked
      refine ⟨p, saved, rfl, checked.1, ?_, saves, checked.2⟩
      exact fun reaches => absurd ((accounts.instruction_reached 0 _ rfl).mp reaches) (by decide)

end FlightBlocks
