import FlightBlocks.Markup.Render
import FlightBlocks.Proofs.NestedTags

/-!
# Markup that was written reads back

The text of an element is cut into the same tags that were written, these give the events of its
tree, and the events give the tree (`parse_toXml`). Names and keys have to be names; values may be
anything, since quotes and brackets in them are written as entities.
-/

namespace FlightBlocks.Markup

/-! ## Names -/

/-- A character that ends no name and stands for no markup. -/
def isNameChar (c : Char) : Bool :=
  !(isSpace c || ['<', '>', '/', '=', '!', '?', '\'', '"', '&'].contains c)

/-- A text that can stand as the name of an element or as a key. -/
def IsName (name : String) : Prop := name.toList ≠ [] ∧ ∀ c ∈ name.toList, isNameChar c = true

instance (name : String) : Decidable (IsName name) :=
  @instDecidableAnd _ _ inferInstance (List.decidableBAll _ _)

mutual

/-- All names are names, and no element has a key twice. -/
def Element.WellFormed : Element → Prop
  | ⟨name, attributes, children⟩ =>
    IsName name ∧ (∀ a ∈ attributes, IsName a.1) ∧ (attributes.map (·.1)).Nodup ∧ AllWellFormed children

def AllWellFormed : List Element → Prop
  | [] => True
  | e :: rest => e.WellFormed ∧ AllWellFormed rest

end

theorem AllWellFormed.append {es more : List Element} (first : AllWellFormed es) (second : AllWellFormed more) :
    AllWellFormed (es ++ more) := by
  induction es with
  | nil => exact second
  | cons e rest ih => exact ⟨first.1, ih first.2⟩

theorem isNameChar_iff {c : Char} : isNameChar c = true ↔ isSpace c = false ∧ c ≠ '<' ∧ c ≠ '>' ∧ c ≠ '/' ∧
    c ≠ '=' ∧ c ≠ '!' ∧ c ≠ '?' ∧ c ≠ '\'' ∧ c ≠ '"' ∧ c ≠ '&' := by
  simp [isNameChar]

/-- No quote is left in a value that is written. -/
theorem quote_not_mem_escape (text : List Char) : ∀ c ∈ escape text, c ≠ '"' := by
  intro c member
  obtain ⟨source, -, inside⟩ := List.mem_flatMap.mp member
  unfold escapeChar at inside
  split at inside
  case h_6 plain =>
    rw [List.mem_singleton.mp inside]
    simpa using plain
  all_goals
    simp at inside
    rcases inside with rfl | rfl | rfl | rfl | rfl | rfl <;> decide

/-! ## Tags -/

/-- An attribute as it stands in a tag. -/
def attributeText (a : Attribute) : List Char :=
  ' ' :: a.1.toList ++ '=' :: '"' :: escape a.2.toList ++ ['"']

/-- What stands in an opening tag. -/
def openingText (name : String) (attributes : List Attribute) : List Char :=
  name.toList ++ attributes.flatMap attributeText

theorem renderOpening_eq (name : String) (attributes : List Attribute) :
    renderOpening name attributes = '<' :: openingText name attributes := rfl

theorem chunks_space (depth : Nat) (rest : List Char) :
    chunks .text (indentation depth ++ rest) = chunks .text rest := by
  unfold indentation
  induction 2 * depth with
  | zero => rfl
  | succ n ih => simpa [List.replicate_succ, chunks, ChunkMode.step] using ih

theorem chunks_plain (acc text rest : List Char) (plain : ∀ c ∈ text, c ≠ '>' ∧ c ≠ '"' ∧ c ≠ '\'') :
    chunks (.tag none acc) (text ++ rest) = chunks (.tag none (text.reverse ++ acc)) rest := by
  induction text generalizing acc with
  | nil => rfl
  | cons c text ih =>
    obtain ⟨bracket, double, single⟩ := plain c (by simp)
    have more := ih (c :: acc) fun d member => plain d (by simp [member])
    simpa [chunks, ChunkMode.step, tagStep, bracket, double, single] using more

theorem chunks_quoted (acc text rest : List Char) (unquoted : ∀ c ∈ text, c ≠ '"') :
    chunks (.tag (some '"') acc) (text ++ rest) = chunks (.tag (some '"') (text.reverse ++ acc)) rest := by
  induction text generalizing acc with
  | nil => rfl
  | cons c text ih =>
    have more := ih (c :: acc) fun d member => unquoted d (by simp [member])
    simpa [chunks, ChunkMode.step, tagStep, unquoted c (by simp)] using more

theorem plain_of_name {name : String} (h : IsName name) : ∀ c ∈ name.toList, c ≠ '>' ∧ c ≠ '"' ∧ c ≠ '\'' := by
  intro c member
  obtain ⟨-, -, bracket, -, -, -, -, single, double, -⟩ := isNameChar_iff.mp (h.2 c member)
  exact ⟨bracket, double, single⟩

theorem chunks_attribute (acc rest : List Char) {a : Attribute} (key : IsName a.1) :
    chunks (.tag none acc) (attributeText a ++ rest) = chunks (.tag none ((attributeText a).reverse ++ acc)) rest := by
  have into := chunks_plain (' ' :: acc) a.1.toList ('=' :: '"' :: (escape a.2.toList ++ '"' :: rest)) (plain_of_name key)
  have value := chunks_quoted ('"' :: '=' :: (a.1.toList.reverse ++ ' ' :: acc)) (escape a.2.toList) ('"' :: rest)
    (quote_not_mem_escape a.2.toList)
  simp only [attributeText, List.cons_append, List.append_assoc, List.nil_append, List.reverse_cons,
    List.reverse_append, List.reverse_nil]
  simp only [chunks, ChunkMode.step, tagStep] at into value ⊢
  simp at into value ⊢
  rw [into, value]

theorem chunks_attributes (acc rest : List Char) (attributes : List Attribute) (keys : ∀ a ∈ attributes, IsName a.1) :
    chunks (.tag none acc) (attributes.flatMap attributeText ++ rest) =
      chunks (.tag none ((attributes.flatMap attributeText).reverse ++ acc)) rest := by
  induction attributes generalizing acc with
  | nil => rfl
  | cons a attributes ih =>
    rw [List.flatMap_cons, List.append_assoc, chunks_attribute acc _ (keys a (by simp)),
      ih _ fun b member => keys b (by simp [member]), List.reverse_append, List.append_assoc]

/-- Behind an opening bracket a tag begins, unless a mark follows. -/
theorem chunks_opened {c : Char} (rest : List Char) (no_bang : c ≠ '!') (no_mark : c ≠ '?') :
    chunks .text ('<' :: c :: rest) = chunks (.tag none []) (c :: rest) := by
  simp [chunks, ChunkMode.step, no_bang, no_mark]

theorem chunks_closed (acc rest : List Char) :
    chunks (.tag none acc) ('>' :: rest) =
      (.tag acc.reverse :: (chunks .text rest).1, (chunks .text rest).2) := by
  simp [chunks, ChunkMode.step, tagStep]

theorem chunks_newline (rest : List Char) : chunks .text ('\n' :: rest) = chunks .text rest := by
  simp [chunks, ChunkMode.step]

/-- An opening tag is cut out as it was written, with or without the slash of an empty element. -/
theorem chunks_opening {name : String} {attributes : List Attribute} (is_name : IsName name)
    (keys : ∀ a ∈ attributes, IsName a.1) (slash rest : List Char) (plain : ∀ c ∈ slash, c ≠ '>' ∧ c ≠ '"' ∧ c ≠ '\'') :
    chunks .text ('<' :: (openingText name attributes ++ (slash ++ '>' :: rest))) =
      (.tag (openingText name attributes ++ slash) :: (chunks .text rest).1, (chunks .text rest).2) := by
  obtain ⟨c, more, shape⟩ := List.exists_cons_of_ne_nil is_name.1
  have first := isNameChar_iff.mp (is_name.2 c (by simp [shape]))
  rw [openingText, List.append_assoc, shape, List.cons_append, chunks_opened _ first.2.2.2.2.2.1 first.2.2.2.2.2.2.1,
    ← List.cons_append, ← shape, chunks_plain _ _ _ (plain_of_name is_name), chunks_attributes _ _ _ keys,
    chunks_plain _ _ _ plain, chunks_closed]
  simp

theorem chunks_closing {name : String} (is_name : IsName name) (rest : List Char) :
    chunks .text ('<' :: '/' :: (name.toList ++ '>' :: rest)) =
      (.tag ('/' :: name.toList) :: (chunks .text rest).1, (chunks .text rest).2) := by
  rw [chunks_opened _ (by decide) (by decide), ← List.cons_append,
    chunks_plain _ ('/' :: name.toList) _ ?_, chunks_closed]
  · simp
  · intro c member
    rcases List.mem_cons.mp member with rfl | inside
    · decide
    · exact plain_of_name is_name c inside

/-! ## Attributes -/

theorem readAttributes_key (start : Nat) (acc text rest : List Char) (seen : List (String × Nat)) (position : Nat)
    (plain : ∀ c ∈ text, isNameChar c = true) :
    ∃ next, readAttributes (.key start acc) seen position (text ++ rest) =
      readAttributes (.key start (text.reverse ++ acc)) seen next rest := by
  induction text generalizing acc position with
  | nil => exact ⟨position, rfl⟩
  | cons c text ih =>
    obtain ⟨space, -, -, -, equals, -⟩ := isNameChar_iff.mp (plain c (by simp))
    obtain ⟨next, more⟩ := ih (c :: acc) (position + c.utf8Size) fun d member => plain d (by simp [member])
    exact ⟨next, by simpa [readAttributes, space, equals] using more⟩

theorem readAttributes_value (key : String) (acc text rest : List Char) (seen : List (String × Nat)) (position : Nat)
    (unquoted : ∀ c ∈ text, c ≠ '"') :
    ∃ next, readAttributes (.value key '"' acc) seen position (text ++ rest) =
      readAttributes (.value key '"' (text.reverse ++ acc)) seen next rest := by
  induction text generalizing acc position with
  | nil => exact ⟨position, rfl⟩
  | cons c text ih =>
    obtain ⟨next, more⟩ := ih (c :: acc) (position + c.utf8Size) fun d member => unquoted d (by simp [member])
    exact ⟨next, by simpa [readAttributes, unquoted c (by simp)] using more⟩

theorem readAttributes_equals (start : Nat) (text rest : List Char) (seen : List (String × Nat)) (position : Nat)
    (new : seen.lookup (String.ofList text) = none) :
    readAttributes (.key start text.reverse) seen position ('=' :: '"' :: rest) =
      readAttributes (.value (String.ofList text) '"' []) ((String.ofList text, start) :: seen) (position + 2) rest := by
  simp [readAttributes, acceptKey, new, isSpace, Char.utf8Size]

theorem readAttributes_close (key : String) (text rest : List Char) (seen : List (String × Nat)) (position : Nat) :
    readAttributes (.value key '"' (escape text).reverse) seen position ('"' :: rest) =
      (readAttributes .between seen (position + 1) rest).map ((key, String.ofList text) :: ·) := by
  simp [readAttributes, unescape_escape, Char.utf8Size]

/-- One attribute is read as it was written. -/
theorem readAttributes_attribute {a : Attribute} (key : IsName a.1) (seen : List (String × Nat)) (position : Nat)
    (rest : List Char) (new : seen.lookup a.1 = none) :
    ∃ start next, readAttributes .between seen position (attributeText a ++ rest) =
      (readAttributes .between ((a.1, start) :: seen) next rest).map (a :: ·) := by
  obtain ⟨c, more, shape⟩ := List.exists_cons_of_ne_nil key.1
  have space := (isNameChar_iff.mp (key.2 c (by simp [shape]))).1
  have whole : String.ofList (c :: more) = a.1 := by rw [← shape, String.ofList_toList]
  obtain ⟨behind, reads_key⟩ := readAttributes_key (position + 1) [c] more
    ('=' :: '"' :: (escape a.2.toList ++ '"' :: rest)) seen (position + 1 + c.utf8Size)
    fun d member => key.2 d (by simp [shape, member])
  obtain ⟨next, reads_value⟩ := readAttributes_value a.1 [] (escape a.2.toList) ('"' :: rest)
    ((a.1, position + 1) :: seen) (behind + 2) (quote_not_mem_escape a.2.toList)
  have equals := readAttributes_equals (position + 1) (c :: more) (escape a.2.toList ++ '"' :: rest) seen behind
    (by rwa [whole])
  have begins : readAttributes .between seen position (attributeText a ++ rest) =
      readAttributes (.key (position + 1) [c]) seen (position + 1 + c.utf8Size)
        (more ++ '=' :: '"' :: (escape a.2.toList ++ '"' :: rest)) := by
    simp [attributeText, shape, readAttributes, space, show isSpace ' ' = true from rfl,
      show Char.utf8Size ' ' = 1 from rfl]
  refine ⟨position + 1, next + 1, ?_⟩
  rw [begins, reads_key, ← List.reverse_cons, equals, whole, reads_value, List.append_nil, readAttributes_close,
    String.ofList_toList]

theorem readAttributes_blanks (seen : List (String × Nat)) (position : Nat) (blanks : List Char)
    (blank : ∀ c ∈ blanks, isSpace c = true) : readAttributes .between seen position blanks = .ok [] := by
  induction blanks generalizing position with
  | nil => rfl
  | cons c rest ih =>
    have more := ih (position + c.utf8Size) fun d member => blank d (by simp [member])
    simpa [readAttributes, blank c (by simp)] using more

/-- The attributes of a tag are read as they were written, with blanks behind them. -/
theorem readAttributes_all (attributes : List Attribute) (keys : ∀ a ∈ attributes, IsName a.1)
    (distinct : (attributes.map (·.1)).Nodup) (seen : List (String × Nat))
    (new : ∀ a ∈ attributes, seen.lookup a.1 = none) (position : Nat) (blanks : List Char)
    (blank : ∀ c ∈ blanks, isSpace c = true) :
    readAttributes .between seen position (attributes.flatMap attributeText ++ blanks) = .ok attributes := by
  induction attributes generalizing seen position with
  | nil => exact readAttributes_blanks seen position blanks blank
  | cons a attributes ih =>
    obtain ⟨not_again, distinct⟩ := List.nodup_cons.mp distinct
    obtain ⟨start, next, reads⟩ := readAttributes_attribute (keys a (by simp)) seen position
      (attributes.flatMap attributeText ++ blanks) (new a (by simp))
    have others : ∀ b ∈ attributes, ((a.1, start) :: seen).lookup b.1 = none := by
      intro b member
      have differs : b.1 ≠ a.1 := fun same => not_again (List.mem_map.mpr ⟨b, member, same⟩)
      rw [List.lookup_cons, beq_eq_false_iff_ne.mpr differs]
      exact new b (by simp [member])
    rw [List.flatMap_cons, List.append_assoc, reads, ih (fun b member => keys b (by simp [member])) distinct _ others]
    rfl

/-! ## Events -/

theorem readTag_opening {name : String} {attributes : List Attribute} (is_name : IsName name)
    (keys : ∀ a ∈ attributes, IsName a.1) (distinct : (attributes.map (·.1)).Nodup) (blanks : List Char)
    (blank : ∀ c ∈ blanks, isSpace c = true) :
    readTag (openingText name attributes ++ blanks) = .ok (name, attributes) := by
  have inside : ∀ c ∈ name.toList, (!isSpace c) = true := by
    intro c member
    rw [(isNameChar_iff.mp (is_name.2 c member)).1]
    rfl
  have ends : (attributes.flatMap attributeText ++ blanks).takeWhile (!isSpace ·) = [] ∧
      (attributes.flatMap attributeText ++ blanks).dropWhile (!isSpace ·) =
        attributes.flatMap attributeText ++ blanks := by
    cases attributes with
    | cons a rest => simp [attributeText, show isSpace ' ' = true from rfl]
    | nil =>
      cases blanks with
      | nil => simp
      | cons c rest => simp [blank c (by simp)]
  unfold readTag openingText
  rw [List.append_assoc, List.takeWhile_append_of_pos inside, List.dropWhile_append_of_pos inside, ends.1, ends.2]
  simp only [List.append_nil, String.ofList_toList,
    readAttributes_all attributes keys distinct [] (by simp) _ blanks blank]

theorem ofChunk_opening {c : Char} (names : List String) (content : List Char) (no_slash : c ≠ '/') :
    Event.ofChunk names (.tag (c :: content)) =
      if (c :: content).getLast? = some '/' then
        (readTag (c :: content).dropLast).map fun (name, attributes) => (.empty name attributes, names)
      else (readTag (c :: content)).map fun (name, attributes) => (.start name attributes, name :: names) := by
  unfold Event.ofChunk
  split <;> simp_all

theorem ofChunk_empty {name : String} {attributes : List Attribute} (names : List String) (is_name : IsName name)
    (keys : ∀ a ∈ attributes, IsName a.1) (distinct : (attributes.map (·.1)).Nodup) :
    Event.ofChunk names (.tag (openingText name attributes ++ [' ', '/'])) = .ok (.empty name attributes, names) := by
  obtain ⟨c, more, shape⟩ := List.exists_cons_of_ne_nil is_name.1
  have no_slash := (isNameChar_iff.mp (is_name.2 c (by simp [shape]))).2.2.2.1
  have reads := readTag_opening is_name keys distinct [' '] (by simp [isSpace])
  have split : openingText name attributes ++ [' ', '/'] =
      c :: (more ++ attributes.flatMap attributeText ++ [' ', '/']) := by
    simp [openingText, shape]
  rw [split, ofChunk_opening names _ no_slash, ← split]
  have last : (openingText name attributes ++ [' ', '/']).getLast? = some '/' := by simp
  have before : (openingText name attributes ++ [' ', '/']).dropLast = openingText name attributes ++ [' '] := by
    simp [List.dropLast_append_of_ne_nil]
  rw [if_pos last, before, reads]
  rfl

theorem ofChunk_start {name : String} {attributes : List Attribute} (names : List String) (is_name : IsName name)
    (keys : ∀ a ∈ attributes, IsName a.1) (distinct : (attributes.map (·.1)).Nodup) :
    Event.ofChunk names (.tag (openingText name attributes)) = .ok (.start name attributes, name :: names) := by
  obtain ⟨c, more, shape⟩ := List.exists_cons_of_ne_nil is_name.1
  have no_slash := (isNameChar_iff.mp (is_name.2 c (by simp [shape]))).2.2.2.1
  have reads := readTag_opening is_name keys distinct [] (by simp)
  rw [List.append_nil] at reads
  have last : (openingText name attributes).getLast? ≠ some '/' := by
    rcases List.eq_nil_or_concat attributes with rfl | ⟨before, a, rfl⟩
    · intro slash
      rw [openingText, List.flatMap_nil, List.append_nil] at slash
      exact (isNameChar_iff.mp (is_name.2 '/' (List.mem_of_getLast? slash))).2.2.2.1 rfl
    · have ends : openingText name (before.concat a) = (name.toList ++ before.flatMap attributeText ++
          (' ' :: a.1.toList ++ '=' :: '"' :: escape a.2.toList)) ++ ['"'] := by simp [openingText, attributeText]
      rw [ends, List.getLast?_concat]
      decide
  have split : openingText name attributes = c :: (more ++ attributes.flatMap attributeText) := by
    simp [openingText, shape]
  rw [split, ofChunk_opening names _ no_slash, ← split, if_neg last, reads]
  rfl

theorem ofChunk_stop {name : String} (names : List String) (is_name : IsName name) :
    Event.ofChunk (name :: names) (.tag ('/' :: name.toList)) = .ok (.stop name, names) := by
  have closes : closingName name.toList = name := by
    obtain ⟨c, more, shape⟩ := List.exists_cons_of_ne_nil (List.reverse_ne_nil_iff.mpr is_name.1)
    have space := (isNameChar_iff.mp (is_name.2 c (List.mem_reverse.mp (by simp [shape])))).1
    have kept : name.toList.reverse.dropWhile isSpace = name.toList.reverse := by simp [shape, space]
    unfold closingName
    rw [kept]
    split
    · rename_i none
      simp [shape] at none
    · rw [List.reverse_reverse, String.ofList_toList]
  simp [Event.ofChunk, closes]

mutual

/-- The tags of an element, as events. -/
def Element.events : Element → List Event
  | ⟨name, attributes, []⟩ => [.empty name attributes]
  | ⟨name, attributes, child :: more⟩ =>
    .start name attributes :: (child.events ++ (eventsOf more ++ [.stop name]))

def eventsOf : List Element → List Event
  | [] => []
  | e :: rest => e.events ++ eventsOf rest

end

/-- The events of what is left of a text, behind some names that are open. -/
def scan (names : List String) (input : List Char) : List Event × Option MarkupError :=
  let (found, cut) := chunks .text input
  let (events, fault) := Event.ofChunks names found
  (events, fault <|> cut.map .malformed)

theorem scan_space (names : List String) (depth : Nat) (rest : List Char) :
    scan names (indentation depth ++ rest) = scan names rest := by
  rw [scan, chunks_space, scan]

/-- A chunk at the front gives its event. -/
theorem scan_chunk {names outer : List String} {input rest : List Char} {chunk : Chunk} {event : Event}
    (cuts : chunks .text input = (chunk :: (chunks .text rest).1, (chunks .text rest).2))
    (gives : Event.ofChunk names chunk = .ok (event, outer)) :
    scan names input = (event :: (scan outer rest).1, (scan outer rest).2) := by
  simp only [scan, cuts, Event.ofChunks, gives]

mutual

/-- What was written for an element gives its events. -/
theorem scan_render (names : List String) : ∀ (e : Element) (depth : Nat) (rest : List Char), e.WellFormed →
    scan names (e.render depth rest) = (e.events ++ (scan names rest).1, (scan names rest).2)
  | ⟨name, attributes, []⟩, depth, rest, ⟨is_name, keys, distinct, _⟩ => by
    have cuts := chunks_opening is_name keys [' ', '/'] ('\n' :: rest) (by simp)
    rw [chunks_newline] at cuts
    have whole := scan_chunk cuts (ofChunk_empty names is_name keys distinct)
    rw [Element.render, Element.events, renderOpening_eq, scan_space]
    exact whole
  | ⟨name, attributes, child :: more⟩, depth, rest, ⟨is_name, keys, distinct, good, others⟩ => by
    have closing : scan (name :: names) (indentation depth ++ '<' :: '/' :: (name.toList ++ '>' :: '\n' :: rest)) =
        (.stop name :: (scan names rest).1, (scan names rest).2) := by
      have cuts := chunks_closing is_name ('\n' :: rest)
      rw [chunks_newline] at cuts
      rw [scan_space]
      exact scan_chunk cuts (ofChunk_stop names is_name)
    have inside := scan_render (name :: names) child (depth + 1) (renderAll (depth + 1) more
      (indentation depth ++ '<' :: '/' :: (name.toList ++ '>' :: '\n' :: rest))) good
    rw [scan_renderAll (name :: names) more (depth + 1) _ others, closing] at inside
    have cuts := chunks_opening is_name keys [] ('\n' :: child.render (depth + 1) (renderAll (depth + 1) more
      (indentation depth ++ '<' :: '/' :: (name.toList ++ '>' :: '\n' :: rest)))) (by simp)
    rw [chunks_newline, List.append_nil] at cuts
    have whole := scan_chunk cuts (ofChunk_start names is_name keys distinct)
    rw [inside] at whole
    rw [Element.render, Element.events, renderOpening_eq, scan_space]
    simpa using whole

theorem scan_renderAll (names : List String) : ∀ (es : List Element) (depth : Nat) (rest : List Char),
    AllWellFormed es → scan names (renderAll depth es rest) = (eventsOf es ++ (scan names rest).1, (scan names rest).2)
  | [], _, _, _ => rfl
  | e :: es, depth, rest, ⟨good, others⟩ => by
    rw [renderAll, scan_render names e depth _ good, scan_renderAll names es depth rest others, eventsOf,
      List.append_assoc]

end

/-! ## Trees -/

mutual

/-- The events of an element are its tags. -/
theorem tags_events : ∀ e : Element, Tags e.events [e]
  | ⟨name, attributes, []⟩ => .empty .nil
  | ⟨name, attributes, child :: others⟩ => by
    have inside : Tags (child.events ++ eventsOf others) (child :: others) :=
      (tags_events child).append (tags_eventsOf others)
    rw [Element.events, ← List.append_assoc]
    exact .nested inside .nil

theorem tags_eventsOf : ∀ es : List Element, Tags (eventsOf es) es
  | [] => .nil
  | e :: rest => (tags_events e).append (tags_eventsOf rest)

end

theorem render_ne_mark (e : Element) (rest : List Char) : ∃ more, e.render 0 rest = '<' :: more := by
  obtain ⟨name, attributes, children⟩ := e
  cases children with
  | nil => exact ⟨_, rfl⟩
  | cons => exact ⟨_, rfl⟩

/-- An element whose names are names reads back from its text. -/
theorem parse_toXml {e : Element} (good : e.WellFormed) : Element.parse e.toXml = .ok e := by
  have events : Event.read e.toXml = (e.events, none) := by
    obtain ⟨more, begins⟩ := render_ne_mark e []
    have scanned := scan_render [] e 0 [] good
    rw [begins] at scanned
    unfold Event.read Element.toXml
    rw [String.toList_ofList, begins]
    simpa [scan, chunks, ChunkMode.endFault, Event.ofChunks] using scanned
  rw [Element.parse_eq_ok_iff, events]
  exact ⟨rfl, (tags_events e).ofEvents_eq⟩

end FlightBlocks.Markup
