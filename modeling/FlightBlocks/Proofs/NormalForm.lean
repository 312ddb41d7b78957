import FlightBlocks.Proofs.Registration
import FlightBlocks.Proofs.Saving

/-!
# Saved texts are a normal form

What is written for a program is a normal form of the texts that load as it: the program that a saved
text loads as is saved as this very text (`saved_text_stable`). The text that a program is saved as is
made from the tree that the program shows, and the saved text loads as a program that shows the same
tree. So it does not matter which of several tags a node had, in what order sections and bodies stood,
or how a number was written.
-/

namespace FlightBlocks

open Markup (IsName)

/-- Whatever was registered, as long as its tags can be written as names, none of them is taken for a
    body and craft ids have the tag that they are always saved under: a program that was loaded is saved
    as a text, this text loads, and what it loads as is saved as the same text. Every name that markup
    allows is an `IsName`, which rules out blanks and the characters of tags alone. Numbers have to be
    written so that they read back. -/
theorem saved_text_stable {r : Registry} (built : r.Built)
    (names : ∀ tag ∈ r.tags, IsName tag ∧ tag ≠ Document.instructionsTag)
    (craft : (∃ tag, r.type? tag = some .craftId) → r.type? NodeType.craftId.name = some .craftId)
    {text : String} {p : Program} (loads : Document.parse r text = .ok p) (numbers : p.NumbersReadBack) :
    ∃ saved q, Document.render r p = .ok saved ∧ Document.parse r saved = .ok q ∧ Document.render r q = .ok saved := by
  have faithful : r.Faithful := built.faithful names craft
  obtain ⟨t, shows, saveable⟩ := Document.saveable_of_parse faithful loads numbers
  obtain ⟨q, reloads, shows'⟩ := saveable.parse
  exact ⟨(Document.element r t).toXml, q, saveable.render shows, reloads, saveable.render shows'⟩

/-- A registry in which nodes that log have got a new tag, beside their old one. -/
def Registry.outspoken : Registry := full.register "Say" .log

/-- A text in which tags, numbers and the order of parts differ from what is saved: a body stands in
    front of a condition, and an empty thread in front of it all. -/
def unsettledText : String :=
  "<Program><Instructions/><Instructions><If><Instructions><Log><Constant number='1.50'/></Log><Say/></Instructions>" ++
    "<TargetCraftId/></If></Instructions></Program>"

/-- The text is saved as another one, which is saved as it is. -/
theorem saved_text_stable_of_unsettled : ∃ p saved q, Document.parse .outspoken unsettledText = .ok p ∧
    Document.render .outspoken p = .ok saved ∧ saved ≠ unsettledText ∧ Document.parse .outspoken saved = .ok q ∧
    Document.render .outspoken q = .ok saved := by
  have names : ∀ tag ∈ Registry.outspoken.tags, IsName tag ∧ tag ≠ Document.instructionsTag := by
    decide +kernel
  have craft : Registry.outspoken.type? NodeType.craftId.name = some .craftId := by
    decide +kernel
  have checked : ((Document.parse .outspoken unsettledText).toOption.any fun p =>
      decide (p.NumbersReadBack ∧ (Document.render .outspoken p).toOption ≠ some unsettledText)) = true := by
    decide +kernel
  cases loads : Document.parse .outspoken unsettledText with
  | error e =>
    rw [loads] at checked
    cases checked
  | ok p =>
    rw [loads] at checked
    obtain ⟨numbers, changed⟩ := of_decide_eq_true checked
    have built : Registry.outspoken.Built := Registry.full_built.register "Say" .log
    obtain ⟨saved, q, renders, reloads, stable⟩ := saved_text_stable built names (fun _ => craft) loads numbers
    refine ⟨p, saved, q, rfl, renders, ?_, reloads, stable⟩
    rintro rfl
    exact changed (by rw [renders]; rfl)

end FlightBlocks
