import FlightBlocks.CharSet
import FlightBlocks.Proofs.MarkupRoundTrip

/-!
# Proper markup

Names of markup are those of the standard: a letter, an underscore or a colon first, then digits, hyphens, full
stops and marks as well. None of these characters stands for markup, so an element with such names all through
it reads back from its text (`parse_of_proper`), whatever its attributes hold.
-/

namespace FlightBlocks.Markup

/-! ## Names of the standard -/

/-- The characters that begin a name. -/
def nameStarts : CharSet where
  ranges :=
    [⟨0x3a, 0x3a⟩, ⟨0x41, 0x5a⟩, ⟨0x5f, 0x5f⟩, ⟨0x61, 0x7a⟩, ⟨0xc0, 0xd6⟩, ⟨0xd8, 0xf6⟩, ⟨0xf8, 0x2ff⟩,
      ⟨0x370, 0x37d⟩, ⟨0x37f, 0x1fff⟩, ⟨0x200c, 0x200d⟩, ⟨0x2070, 0x218f⟩, ⟨0x2c00, 0x2fef⟩, ⟨0x3001, 0xd7ff⟩,
      ⟨0xf900, 0xfdcf⟩, ⟨0xfdf0, 0xfffd⟩, ⟨0x10000, 0xeffff⟩]

/-- The characters that a name may have behind its first one, in addition to those that begin one. -/
def nameInner : CharSet where
  ranges := [⟨0x2d, 0x2e⟩, ⟨0x30, 0x39⟩, ⟨0xb7, 0xb7⟩, ⟨0x300, 0x36f⟩, ⟨0x203f, 0x2040⟩]

/-- Whether a character can stand in a name. -/
def inName (c : Char) : Bool := nameStarts.contains c || nameInner.contains c

/-- Whether a text is a name. -/
def isProperName (name : String) : Bool :=
  match name.toList with
  | [] => false
  | first :: rest => nameStarts.contains first && rest.all inName

/-- The characters that cannot stand in a name as the reader takes it. -/
def markupChars : List Char := [' ', '\t', '\n', '\r', '<', '>', '/', '=', '!', '?', '\'', '"', '&']

/-- No character that stands for markup can stand in a name. -/
theorem isNameChar_of_inName {c : Char} (inside : inName c = true) : isNameChar c = true := by
  have none_inside : markupChars.all (fun d => !inName d) = true := rfl
  have no_markup : c ∉ markupChars := by
    intro markup
    have outside := List.all_eq_true.mp none_inside c markup
    rw [inside] at outside
    cases outside
  simpa [markupChars, isNameChar, isSpace, and_assoc] using no_markup

theorem IsName.of_proper {name : String} (proper : isProperName name = true) : IsName name := by
  unfold isProperName at proper
  unfold IsName
  cases letters : name.toList with
  | nil => simp [letters] at proper
  | cons first rest =>
    simp only [letters, Bool.and_eq_true, List.all_eq_true] at proper
    refine ⟨List.cons_ne_nil first rest, fun c member => isNameChar_of_inName ?_⟩
    rcases List.mem_cons.mp member with rfl | behind
    · simp [inName, proper.1]
    · exact proper.2 c behind

/-! ## Elements -/

mutual

/-- An element and all that are inside it, in document order. -/
def Element.parts : Element → List Element
  | ⟨name, attributes, children⟩ => ⟨name, attributes, children⟩ :: partsOf children

def partsOf : List Element → List Element
  | [] => []
  | e :: rest => e.parts ++ partsOf rest

end

theorem Element.mem_parts_self (e : Element) : e ∈ e.parts := by
  cases e
  simp [parts]

theorem parts_subset_partsOf {e : Element} {es : List Element} (member : e ∈ es) : e.parts ⊆ partsOf es := by
  induction es with
  | nil => cases member
  | cons other rest ih =>
    rw [partsOf]
    rcases List.mem_cons.mp member with rfl | behind
    · exact List.subset_append_left _ _
    · exact List.Subset.trans (ih behind) (List.subset_append_right _ _)

/-- What is inside a child is inside the element. -/
theorem Element.parts_subset {e child : Element} (member : child ∈ e.children) : child.parts ⊆ e.parts := by
  cases e
  rw [parts]
  exact List.Subset.trans (parts_subset_partsOf member) (List.subset_cons_self _ _)

/-- An element with proper names of its own, and without a key twice. -/
structure Element.Proper (e : Element) : Prop where
  name : isProperName e.name = true
  keys : ∀ a ∈ e.attributes, isProperName a.1 = true
  distinct : (e.attributes.map (·.1)).Nodup

instance (e : Element) : Decidable e.Proper :=
  decidable_of_iff (isProperName e.name = true ∧ (∀ a ∈ e.attributes, isProperName a.1 = true) ∧
    (e.attributes.map (·.1)).Nodup) ⟨fun ⟨name, keys, distinct⟩ => ⟨name, keys, distinct⟩,
      fun ⟨name, keys, distinct⟩ => ⟨name, keys, distinct⟩⟩

mutual

theorem wellFormed_of_proper : ∀ {e : Element}, (∀ part ∈ e.parts, part.Proper) → e.WellFormed
  | ⟨name, attributes, children⟩, proper => by
    have own := proper _ (Element.mem_parts_self _)
    refine ⟨.of_proper own.name, fun a member => .of_proper (own.keys a member), own.distinct, ?_⟩
    exact allWellFormed_of_proper fun part member => proper part (by simp [Element.parts, member])

theorem allWellFormed_of_proper : ∀ {es : List Element}, (∀ part ∈ partsOf es, part.Proper) → AllWellFormed es
  | [], _ => trivial
  | e :: rest, proper =>
    ⟨wellFormed_of_proper fun part member => proper part (by simp [partsOf, member]),
      allWellFormed_of_proper fun part member => proper part (by simp [partsOf, member])⟩

end

/-- An element reads back from its text if it and all inside it have proper names and no key twice. -/
theorem parse_of_proper {e : Element} (proper : ∀ part ∈ e.parts, part.Proper) : Element.parse e.toXml = .ok e :=
  parse_toXml (wellFormed_of_proper proper)

/-- Values with quotes, brackets, texts that look like entities, line breaks and other scripts, in nested elements. -/
theorem parse_of_proper_of_strange_values :
    let e : Element := ⟨"Program", [("name", "\"a\" < 'b' & c > d"), ("xml:lang", "")],
      [⟨"δοκιμή", [("x-1.y", "&amp;lt;&#10;"), ("X", "one\r\ntwo\tthree ")], []⟩,
       ⟨"_", [], [⟨"Log", [("text", "]]>🚀<!-- -->")], []⟩, ⟨"Log", [], []⟩]⟩]⟩
    (∀ part ∈ e.parts, part.Proper) ∧ Element.parse e.toXml = .ok e := by
  intro e
  have proper : ∀ part ∈ e.parts, part.Proper := by decide
  exact ⟨proper, parse_of_proper proper⟩

end FlightBlocks.Markup
