import FlightBlocks.Proofs.NestedTags
import FlightBlocks.Proofs.ProperMarkup
import Mathlib.Tactic.SplitIfs

/-!
# The keys of elements that were read

The reader of a tag keeps the keys that it accepted and fails at one that it meets again, so that the attributes of a
tag have different keys (`keys_of_readAttributes`). What is read as an element takes its attributes from tags, with
all that is inside it, so no element of a text that was read has a key twice (`distinct_of_parse`).
-/

namespace FlightBlocks.Markup

/-! ## Attributes of a tag -/

section Reading

variable {seen : List (String × Nat)} {position : Nat} {rest : List Char} {attributes : List Attribute}

/-- The key of the attribute that is being read, once it was accepted. -/
def AttributeMode.accepted : AttributeMode → List String
  | .beforeValue name | .value name .. => [name]
  | .between | .key .. | .afterKey .. => []

/-- The attributes begin with the key that was accepted last. The keys behind it are different, and new. -/
def AttributeMode.Continues (mode : AttributeMode) (seen : List (String × Nat)) (attributes : List Attribute) : Prop :=
  ∃ later, attributes.map (·.1) = mode.accepted ++ later ∧ later.Nodup ∧ ∀ key ∈ later, seen.lookup key = none

/-- A key that is accepted was not there before, and is kept. -/
theorem acceptKey_eq_ok {start : Nat} {key : List Char} {mode : AttributeMode} {after : List (String × Nat)}
    (accepts : acceptKey seen start key = .ok (mode, after)) :
    ∃ name, seen.lookup name = none ∧ mode = .beforeValue name ∧ after = (name, start) :: seen := by
  rw [acceptKey] at accepts
  cases new : seen.lookup (String.ofList key.reverse) with
  | some previous => simp [new] at accepts
  | none =>
    simp only [new, Except.ok.injEq, Prod.mk.injEq] at accepts
    obtain ⟨rfl, rfl⟩ := accepts
    exact ⟨_, new, rfl, rfl⟩

/-- Behind an equals sign the key that was accepted is the first of those to come. -/
theorem AttributeMode.Continues.of_acceptKey {start : Nat} {key : List Char} {before : AttributeMode}
    (nothing : before.accepted = []) (behind : ∀ {mode after}, readAttributes mode after position rest = .ok attributes →
      mode.Continues after attributes)
    (reads : (match acceptKey seen start key with
      | .ok (mode, seen) => readAttributes mode seen position rest
      | .error fault => .error fault) = .ok attributes) : before.Continues seen attributes := by
  cases accepts : acceptKey seen start key with
  | error fault => simp [accepts] at reads
  | ok accepted =>
    obtain ⟨mode, after⟩ := accepted
    simp only [accepts] at reads
    obtain ⟨name, new, rfl, rfl⟩ := acceptKey_eq_ok accepts
    obtain ⟨later, keys, distinct, unseen⟩ := behind reads
    have differs : ∀ other ∈ later, other ≠ name ∧ seen.lookup other = none := by
      intro other member
      have absent := unseen other member
      rw [List.lookup_cons] at absent
      by_cases same : other = name
      · simp [same] at absent
      · rw [beq_eq_false_iff_ne.mpr same] at absent
        exact ⟨same, absent⟩
    refine ⟨name :: later, by rw [keys, nothing]; rfl, ?_, ?_⟩
    · exact List.nodup_cons.mpr ⟨fun again => (differs name again).1 rfl, distinct⟩
    · intro other member
      rcases List.mem_cons.mp member with rfl | inside
      · exact new
      · exact (differs other inside).2

/-- No key is read twice, whatever the reader is at. -/
theorem keys_of_readAttributes {mode : AttributeMode}
    (reads : readAttributes mode seen position rest = .ok attributes) : mode.Continues seen attributes := by
  induction rest generalizing mode seen position attributes with
  | nil =>
    cases mode with
    | between =>
      cases reads
      exact ⟨[], rfl, .nil, by simp⟩
    | _ => cases reads
  | cons c rest ih =>
    cases mode with
    | between =>
      rw [readAttributes] at reads
      split_ifs at reads
      · have continues := ih reads
        exact continues
      · have continues := ih reads
        exact continues
    | key start key =>
      rw [readAttributes] at reads
      split_ifs at reads
      · exact .of_acceptKey rfl ih reads
      · have continues := ih reads
        exact continues
      · have continues := ih reads
        exact continues
    | afterKey start key =>
      rw [readAttributes] at reads
      split_ifs at reads
      · exact .of_acceptKey rfl ih reads
      · have continues := ih reads
        exact continues
    | beforeValue key =>
      rw [readAttributes] at reads
      split_ifs at reads
      · have continues := ih reads
        exact continues
      · have continues := ih reads
        exact continues
    | value key quote raw =>
      rw [readAttributes] at reads
      split_ifs at reads
      · cases value : unescape raw.reverse with
        | error fault => simp [value] at reads
        | ok text =>
          cases more : readAttributes .between seen (position + c.utf8Size) rest with
          | error fault => simp [value, more, Except.map] at reads
          | ok others =>
            simp only [value, more, Except.map, Except.ok.injEq] at reads
            obtain ⟨later, keys, distinct, unseen⟩ := ih more
            exact ⟨later, by rw [← reads, List.map_cons, keys]; rfl, distinct, unseen⟩
      · have continues := ih reads
        exact continues

theorem distinct_of_readTag {content : List Char} {name : String} (reads : readTag content = .ok (name, attributes)) :
    (attributes.map (·.1)).Nodup := by
  rw [readTag] at reads
  cases read : readAttributes .between [] (byteLength (content.takeWhile (!isSpace ·)))
      (content.dropWhile (!isSpace ·)) with
  | error fault => simp [read] at reads
  | ok found =>
    simp only [read, Except.ok.injEq, Prod.mk.injEq] at reads
    obtain ⟨-, rfl⟩ := reads
    obtain ⟨later, keys, distinct, -⟩ := keys_of_readAttributes read
    rw [keys]
    exact distinct

end Reading

/-! ## Events and elements -/

/-- The attributes of a tag that opens an element. -/
def Event.attributes : Event → List Attribute
  | .start _ attributes | .empty _ attributes => attributes
  | .stop _ | .other => []

theorem distinct_of_ofChunk {names outer : List String} {chunk : Chunk} {event : Event}
    (gives : Event.ofChunk names chunk = .ok (event, outer)) : (event.attributes.map (·.1)).Nodup := by
  have read : ∀ {content : List Char} {make : String × List Attribute → Event × List String},
      (∀ tag, (make tag).1.attributes = tag.2) → (readTag content).map make = .ok (event, outer) →
        (event.attributes.map (·.1)).Nodup := by
    intro content make same reads
    cases tag : readTag content with
    | error fault => simp [tag, Except.map] at reads
    | ok found =>
      simp only [tag, Except.map, Except.ok.injEq] at reads
      rw [show event = (make found).1 by rw [reads], same]
      exact distinct_of_readTag tag
  unfold Event.ofChunk at gives
  split at gives
  · cases gives
    exact .nil
  · dsimp only at gives
    split at gives
    · cases gives
    · split_ifs at gives
      cases gives
      exact .nil
  · split_ifs at gives
    · exact read (fun _ => rfl) gives
    · exact read (fun _ => rfl) gives

theorem distinct_of_ofChunks {names : List String} {found : List Chunk} :
    ∀ event ∈ (Event.ofChunks names found).1, (event.attributes.map (·.1)).Nodup := by
  induction found generalizing names with
  | nil => simp [Event.ofChunks]
  | cons chunk rest ih =>
    rw [Event.ofChunks]
    cases gives : Event.ofChunk names chunk with
    | error fault => simp
    | ok next =>
      intro event member
      rcases List.mem_cons.mp member with rfl | behind
      · exact distinct_of_ofChunk gives
      · exact ih event behind

/-- The attributes of elements are those of their tags. -/
theorem Tags.exists_of_mem_parts {events : List Event} {elements : List Element} (tags : Tags events elements) :
    ∀ part ∈ partsOf elements, ∃ event ∈ events, event.attributes = part.attributes := by
  induction tags with
  | nil => simp [partsOf]
  | empty behind ih =>
    intro part member
    simp only [partsOf, Element.parts, List.cons_append, List.nil_append, List.mem_cons] at member
    rcases member with rfl | later
    · exact ⟨_, List.mem_cons_self, rfl⟩
    · obtain ⟨event, among, same⟩ := ih part later
      exact ⟨event, List.mem_cons_of_mem _ among, same⟩
  | nested inside behind ih_inside ih_behind =>
    intro part member
    simp only [partsOf, Element.parts, List.cons_append, List.mem_cons, List.mem_append] at member
    rcases member with rfl | inner | later
    · exact ⟨_, List.mem_cons_self, rfl⟩
    · obtain ⟨event, among, same⟩ := ih_inside part inner
      exact ⟨event, by simp [among], same⟩
    · obtain ⟨event, among, same⟩ := ih_behind part later
      exact ⟨event, by simp [among], same⟩

/-- No element of a text that was read has a key twice. -/
theorem distinct_of_parse {text : String} {root : Element} (reads : Element.parse text = .ok root) :
    ∀ part ∈ root.parts, (part.attributes.map (·.1)).Nodup := by
  obtain ⟨-, events⟩ := Element.parse_eq_ok_iff.mp reads
  have tags := Element.ofEvents_eq_ok_iff.mp events
  intro part member
  obtain ⟨event, among, same⟩ := tags.exists_of_mem_parts part (by simpa [partsOf] using member)
  rw [← same]
  exact distinct_of_ofChunks event (List.mem_filter.mp among).1

end FlightBlocks.Markup
