import FlightBlocks.Proofs.TagContents

/-!
# Elements renamed in a text

An element is renamed in a text by changing the names in its tags and copying everything else (`renameTags`). Reading
the text then gives the tree in which the same elements are renamed, and nothing else has changed
(`parse_renameTags`). The text is copied along the chunks that it is cut into: a new name ends no tag, and it leaves
the attributes behind it where they are. A closing tag gets the name that the tag opened under.
-/

namespace FlightBlocks.Markup

/-- A new name for an element, from its number and its name. Elements are numbered in the order in which they begin. -/
abbrev Renaming := Nat → String → String

/-- Where a name is changed, it is changed from a name to a name. -/
def Renaming.Proper (rename : Renaming) : Prop :=
  ∀ n name, rename n name = name ∨ IsName name ∧ IsName (rename n name)

/-! ## In a tree -/

mutual

/-- How many elements there are in an element, itself included. -/
def Element.count : Element → Nat
  | ⟨_, _, children⟩ => countAll children + 1

def countAll : List Element → Nat
  | [] => 0
  | e :: rest => e.count + countAll rest

end

mutual

/-- An element with new names for itself and the elements in it, where it has the number `n`. -/
def Element.renamed (rename : Renaming) (n : Nat) : Element → Element
  | ⟨name, attributes, children⟩ => ⟨rename n name, attributes, renamedAll rename (n + 1) children⟩

def renamedAll (rename : Renaming) (n : Nat) : List Element → List Element
  | [] => []
  | e :: rest => e.renamed rename n :: renamedAll rename (n + e.count) rest

end

/-! ## In a text -/

/-- How far the numbering is: the number of the next element, and the new names of those that are open, the innermost
    first. -/
structure Numbering where
  next : Nat
  opened : List String

namespace Numbering

variable (s : Numbering)

def start : Numbering := ⟨0, []⟩

/-- Passes over an element that is empty. -/
def pass : Numbering := { s with next := s.next + 1 }

def push (name : String) : Numbering := ⟨s.next + 1, name :: s.opened⟩

def pop : Numbering := { s with opened := s.opened.tail }

/-- The new name of the innermost element. -/
def innermost : String := s.opened.headD ""

end Numbering

/-- The content of a tag with the new name of its element. -/
def retag (rename : Renaming) (s : Numbering) : List Char → List Char × Numbering
  | '/' :: content => ('/' :: withName s.innermost content, s.pop)
  | content =>
    if content.getLast? = some '/' then
      let front := content.dropLast
      (withName (rename s.next (leadingName front)) front ++ ['/'], s.pass)
    else
      let name := rename s.next (leadingName content)
      (withName name content, s.push name)

/-- What is left of a text, with new names in its tags. The content of a tag is held back until the tag ends. -/
def renameFrom (rename : Renaming) : Numbering → ChunkMode → List Char → List Char
  | _, .tag _ content, [] => content.reverse
  | _, _, [] => []
  | s, mode, c :: rest =>
    match mode.step c with
    | .go (.tag quote content) => renameFrom rename s (.tag quote content) rest
    | .go mode => c :: renameFrom rename s mode rest
    | .emit (.tag content) =>
      let (content, s) := retag rename s content
      content ++ c :: renameFrom rename s .text rest
    | .emit .other => c :: renameFrom rename s .text rest
    | .fail _ => c :: rest

/-- A text with new names for its elements. -/
def renameTags (rename : Renaming) (text : String) : String :=
  String.ofList (renameFrom rename .start .text text.toList)

/-! ## Events with new names -/

/-- An event with the new name of its element. -/
def Event.renamed (rename : Renaming) (s : Numbering) : Event → Event
  | .start name attributes => .start (rename s.next name) attributes
  | .empty name attributes => .empty (rename s.next name) attributes
  | .stop _ => .stop s.innermost
  | .other => .other

/-- The numbering behind an event. -/
def Numbering.after (rename : Renaming) (s : Numbering) : Event → Numbering
  | .start name _ => s.push (rename s.next name)
  | .empty .. => s.pass
  | .stop _ => s.pop
  | .other => s

/-- The names of the elements that are open have been replaced. -/
def Follows (names opened : List String) : Prop :=
  List.Forall₂ (fun old new => (∀ c ∈ old.toList, (!isSpace c) = true) ∧ Replaces new old) names opened

/-- A tag with the new name of its element has another event, and leaves other names open. -/
structure Retags (rename : Renaming) (s : Numbering) (content : List Char) (event : Event) (outer : List String) :
    Prop where
  numbers : (retag rename s content).2 = s.after rename event
  is_content : IsContent (retag rename s content).1
  gives : Event.ofChunk s.opened (.tag (retag rename s content).1) =
    .ok (event.renamed rename s, (s.after rename event).opened)
  follows : Follows outer (s.after rename event).opened

variable {rename : Renaming} {s : Numbering} {content : List Char} {names outer : List String} {event : Event}

theorem ofChunk_of_opening (h : IsOpening content) (names : List String) :
    Event.ofChunk names (.tag content) =
      if content.getLast? = some '/' then
        (readTag content.dropLast).map fun (name, attributes) => (.empty name attributes, names)
      else (readTag content).map fun (name, attributes) => (.start name attributes, name :: names) := by
  cases content with
  | nil => rfl
  | cons c more => exact ofChunk_opening names more (h.no_slash c rfl)

theorem retag_of_opening (h : IsOpening content) (rename : Renaming) (s : Numbering) :
    retag rename s content =
      if content.getLast? = some '/' then
        (withName (rename s.next (leadingName content.dropLast)) content.dropLast ++ ['/'], s.pass)
      else (withName (rename s.next (leadingName content)) content, s.push (rename s.next (leadingName content))) := by
  unfold retag
  split
  · exact absurd rfl (h.no_slash '/' rfl)
  · rfl

theorem retags_closing (h : IsContent ('/' :: content)) (follows : Follows names s.opened)
    (gives : Event.ofChunk names (.tag ('/' :: content)) = .ok (event, outer)) :
    Retags rename s ('/' :: content) event outer := by
  obtain ⟨next, opened⟩ := s
  cases follows with
  | nil => cases gives
  | @cons expected new outer' opened first others =>
    simp only [Event.ofChunk] at gives
    split_ifs at gives with closes
    cases gives
    obtain ⟨whole, replaces⟩ := first
    rw [← closes] at whole replaces
    obtain ⟨leads, closes'⟩ := closingName_withName whole replaces
    have slash : IsContent ('/' :: withName new content) := by
      have plain : ∀ c ∈ ['/'], c ≠ '>' ∧ c ≠ '"' ∧ c ≠ '\'' := by simp
      have stays : Stays none (content ++ []) := by simpa using (stays_plain plain).mp h.stays
      have stays' := stays_withName stays (leads ▸ replaces)
      rw [List.append_nil] at stays'
      exact ⟨by simp, (stays_plain plain).mpr stays'⟩
    refine ⟨rfl, slash, ?_, others⟩
    simp [retag, Numbering.innermost, Event.ofChunk, closes', Event.renamed, Numbering.after, Numbering.pop]

theorem retags_empty (proper : rename.Proper) (h : IsOpening content) (closed : content.getLast? = some '/')
    (follows : Follows names s.opened) (gives : Event.ofChunk names (.tag content) = .ok (event, outer)) :
    Retags rename s content event outer := by
  obtain ⟨front, rfl⟩ := List.getLast?_eq_some_iff.mp closed
  have replaces : Replaces (rename s.next (leadingName front)) (leadingName front) := proper s.next _
  have h' := isOpening_withName h replaces
  have retagged := retag_of_opening h rename s
  rw [if_pos closed, List.dropLast_concat] at retagged
  rw [ofChunk_of_opening h, if_pos closed, List.dropLast_concat] at gives
  cases reads : readTag front with
  | error fault => rw [reads] at gives; cases gives
  | ok found =>
    obtain ⟨name, attributes⟩ := found
    rw [reads] at gives
    cases gives
    obtain ⟨rfl, -⟩ := readTag_eq_ok_iff.mp reads
    constructor
    · rw [retagged]
      rfl
    · rw [retagged]
      exact h'.toIsContent
    · rw [retagged, ofChunk_of_opening h', if_pos (by simp), List.dropLast_concat, readTag_withName reads replaces]
      rfl
    · exact follows

theorem retags_start (proper : rename.Proper) (h : IsOpening content) (unclosed : content.getLast? ≠ some '/')
    (follows : Follows names s.opened) (gives : Event.ofChunk names (.tag content) = .ok (event, outer)) :
    Retags rename s content event outer := by
  have replaces : Replaces (rename s.next (leadingName content)) (leadingName content) := proper s.next _
  have h' : IsOpening (withName (rename s.next (leadingName content)) content) := by
    rw [← List.append_nil content] at h
    simpa using isOpening_withName h replaces
  have retagged := retag_of_opening h rename s
  rw [if_neg unclosed] at retagged
  rw [ofChunk_of_opening h, if_neg unclosed] at gives
  cases reads : readTag content with
  | error fault => rw [reads] at gives; cases gives
  | ok found =>
    obtain ⟨name, attributes⟩ := found
    rw [reads] at gives
    cases gives
    obtain ⟨rfl, -⟩ := readTag_eq_ok_iff.mp reads
    constructor
    · rw [retagged]
      rfl
    · rw [retagged]
      exact h'.toIsContent
    · rw [retagged, ofChunk_of_opening h', if_neg (getLast_withName unclosed replaces), readTag_withName reads replaces]
      rfl
    · exact .cons ⟨leadingName_whole content, replaces⟩ follows

/-- A tag that has an event has one with new names, too. -/
theorem retags (proper : rename.Proper) (h : IsContent content) (follows : Follows names s.opened)
    (gives : Event.ofChunk names (.tag content) = .ok (event, outer)) : Retags rename s content event outer := by
  by_cases no_slash : ∀ c ∈ content.head?, c ≠ '/'
  · by_cases closed : content.getLast? = some '/'
    · exact retags_empty proper ⟨h, no_slash⟩ closed follows gives
    · exact retags_start proper ⟨h, no_slash⟩ closed follows gives
  · cases content with
    | nil => simp at no_slash
    | cons c more =>
      obtain rfl : c = '/' := by simpa using no_slash
      exact retags_closing h follows gives

/-! ## Texts with new names -/

namespace ChunkMode

/-- Where the cutting of the new text is: the content of a tag is still to come. -/
def resumed : ChunkMode → ChunkMode
  | .tag .. => .opened
  | mode => mode

/-- What was held back of a tag can be the beginning of its content. -/
def Begun : ChunkMode → Prop
  | .tag quote content =>
    (∃ c, content.reverse.head? = some c ∧ c ≠ '!' ∧ c ≠ '?') ∧
      ∀ rest, Stays quote rest → Stays none (content.reverse ++ rest)
  | _ => True

theorem begun_text : text.Begun := trivial

variable {mode : ChunkMode}

/-- A step in a tag goes on in it or ends it. -/
theorem tagStep_cases (quote : Option Char) (c : Char) :
    (∃ next, ∀ content, tagStep quote content c = .go (.tag next (c :: content))) ∨
      quote = none ∧ c = '>' ∧ ∀ content, tagStep quote content c = .emit (.tag content.reverse) := by
  cases quote with
  | some q => exact .inl ⟨_, fun content => rfl⟩
  | none =>
    by_cases closes : c = '>'
    · exact .inr ⟨rfl, closes, fun content => by simp [tagStep, closes]⟩
    · exact .inl ⟨if c = '"' ∨ c = '\'' then some c else none, fun content => by simp only [tagStep, if_neg closes]⟩

/-- What one step does to a tag that has begun. -/
theorem Begun.step (begun : mode.Begun) (c : Char) :
    match mode.step c with
    | .go (.tag quote content) => mode.resumed = .opened ∧ (ChunkMode.tag quote content).Begun
    | .go _ => mode.resumed = mode
    | .emit (.tag content) => mode.resumed = .opened ∧ c = '>' ∧ IsContent content
    | .emit .other => mode.resumed = mode
    | .fail _ => True := by
  cases mode with
  | opened =>
    by_cases mark : c = '!'
    · simp [ChunkMode.step, mark, resumed]
    by_cases question : c = '?'
    · simp [ChunkMode.step, question, resumed]
    simp only [ChunkMode.step, if_neg mark, if_neg question]
    rcases tagStep_cases none c with ⟨next, step⟩ | ⟨-, closes, step⟩
    · rw [step]
      exact ⟨rfl, ⟨c, rfl, mark, question⟩, fun rest stays => ⟨next, step, stays⟩⟩
    · rw [step]
      exact ⟨rfl, closes, by simp, rfl⟩
  | tag quote content =>
    obtain ⟨⟨first, begins, marks⟩, extends_to⟩ := begun
    simp only [ChunkMode.step]
    rcases tagStep_cases quote c with ⟨next, step⟩ | ⟨rfl, closes, step⟩
    · rw [step]
      refine ⟨rfl, ⟨first, ?_, marks⟩, fun rest stays => ?_⟩
      · rw [List.reverse_cons, List.head?_append, begins]
        rfl
      · rw [List.reverse_cons, List.append_assoc]
        exact extends_to _ ⟨next, step, stays⟩
    · rw [step]
      refine ⟨rfl, closes, ?_, ?_⟩
      · rw [begins]
        rintro _ ⟨⟩
        exact marks
      · simpa using extends_to [] rfl
  | doctype depth content =>
    simp only [ChunkMode.step, finishDoctype]
    cases depth <;> split_ifs <;> trivial
  | _ =>
    simp only [ChunkMode.step]
    split_ifs <;> trivial

end ChunkMode

/-- Events with new names, one after the other. -/
def renameEvents (rename : Renaming) : Numbering → List Event → List Event
  | _, [] => []
  | s, event :: rest => event.renamed rename s :: renameEvents rename (s.after rename event) rest

theorem ofChunks_cons_iff {chunk : Chunk} {found : List Chunk} {events : List Event} :
    Event.ofChunks names (chunk :: found) = (events, none) ↔ ∃ event outer more,
      Event.ofChunk names chunk = .ok (event, outer) ∧ Event.ofChunks outer found = (more, none) ∧
        events = event :: more := by
  rw [Event.ofChunks]
  cases gives : Event.ofChunk names chunk with
  | error fault => simp
  | ok result => simp [Prod.ext_iff, eq_comm, and_comm]

/-- A text without a fault is cut into tags with new names where these were put into it. -/
theorem chunks_renameFrom (proper : rename.Proper) {input : List Char} {mode : ChunkMode} {found : List Chunk}
    {events : List Event} (begun : mode.Begun) (follows : Follows names s.opened)
    (cuts : chunks mode input = (found, none)) (gives : Event.ofChunks names found = (events, none)) :
    ∃ found', chunks mode.resumed (renameFrom rename s mode input) = (found', none) ∧
      Event.ofChunks s.opened found' = (renameEvents rename s events, none) := by
  induction input generalizing mode s names found events with
  | nil =>
    obtain rfl : mode = .text := by
      cases mode <;> simp [chunks, ChunkMode.endFault] at cuts
      rfl
    obtain rfl : [] = found := congrArg Prod.fst cuts
    obtain rfl : [] = events := congrArg Prod.fst gives
    exact ⟨[], rfl, rfl⟩
  | cons c rest ih =>
    have shape := begun.step c
    rw [chunks] at cuts
    rw [renameFrom]
    cases step : mode.step c with
    | fail fault => simp [step] at cuts
    | emit chunk =>
      rw [step] at shape
      simp only [step, Prod.mk.injEq] at cuts
      obtain ⟨rfl, no_fault⟩ := cuts
      obtain ⟨event, outer, more, first, others, rfl⟩ := ofChunks_cons_iff.mp gives
      cases chunk with
      | other =>
        cases first
        obtain ⟨found', cuts', gives'⟩ := ih ChunkMode.begun_text follows (Prod.ext rfl no_fault) others
        change chunks .text _ = _ at cuts'
        rw [shape, chunks, step]
        simp only [cuts']
        exact ⟨_, rfl, ofChunks_cons_iff.mpr ⟨_, _, _, rfl, gives', rfl⟩⟩
      | tag content =>
        obtain ⟨resumed, rfl, is_content⟩ := shape
        have tag := retags proper is_content follows first
        obtain ⟨found', cuts', gives'⟩ := ih ChunkMode.begun_text tag.follows (Prod.ext rfl no_fault) others
        change chunks .text _ = _ at cuts'
        simp only [resumed, tag.numbers, chunks_content tag.is_content, cuts']
        exact ⟨_, rfl, ofChunks_cons_iff.mpr ⟨_, _, _, tag.gives, gives', rfl⟩⟩
    | go next =>
      rw [step] at shape cuts
      -- Outside of tags the character is copied, and the new text is cut there as the old one is.
      have copied : mode.resumed = mode → next.resumed = next → next.Begun →
          ∃ found', chunks mode.resumed (c :: renameFrom rename s next rest) = (found', none) ∧
            Event.ofChunks s.opened found' = (renameEvents rename s events, none) := by
        intro same same' begun'
        obtain ⟨found', cuts', gives'⟩ := ih begun' follows cuts gives
        rw [same'] at cuts'
        rw [same, chunks, step]
        exact ⟨found', cuts', gives'⟩
      cases next with
      | tag quote content =>
        obtain ⟨resumed, begun'⟩ := shape
        rw [resumed]
        exact ih begun' follows cuts gives
      | _ => exact copied shape rfl trivial

/-! ## Trees with new names -/

/-- The numbering behind some events. -/
def Numbering.afterAll (rename : Renaming) (s : Numbering) (events : List Event) : Numbering :=
  events.foldl (·.after rename) s

theorem renameEvents_append (rename : Renaming) (s : Numbering) (events more : List Event) :
    renameEvents rename s (events ++ more) =
      renameEvents rename s events ++ renameEvents rename (s.afterAll rename events) more := by
  induction events generalizing s with
  | nil => rfl
  | cons event rest ih =>
    rw [List.cons_append, renameEvents, renameEvents, ih]
    rfl

/-- Events that are no tags have no names. -/
theorem renameEvents_filter (rename : Renaming) (s : Numbering) (events : List Event) :
    (renameEvents rename s events).filter Event.isTag = renameEvents rename s (events.filter Event.isTag) := by
  induction events generalizing s with
  | nil => rfl
  | cons event rest ih =>
    cases event with
    | other => exact ih s
    | _ => exact congrArg _ (ih _)

/-- The tags of some elements become those of the elements with new names, which are numbered from where the numbering
    is. What was open before is open behind them. -/
theorem Tags.renamed {events : List Event} {elements : List Element} (tags : Tags events elements)
    (rename : Renaming) (s : Numbering) :
    Tags (renameEvents rename s events) (renamedAll rename s.next elements) ∧
      s.afterAll rename events = ⟨s.next + countAll elements, s.opened⟩ := by
  induction tags generalizing s with
  | nil => exact ⟨.nil, rfl⟩
  | @empty name attributes events elements _ ih =>
    obtain ⟨behind, numbers⟩ := ih s.pass
    refine ⟨.empty behind, ?_⟩
    simpa [Numbering.afterAll, Numbering.after, Numbering.pass, countAll, Element.count, Nat.add_assoc] using numbers
  | @nested name attributes inner events children elements _ _ ih ih' =>
    obtain ⟨inside, numbers⟩ := ih (s.push (rename s.next name))
    have count : s.next + 1 + countAll children = s.next + (Element.mk name attributes children).count := by
      rw [Element.count, Nat.add_assoc, Nat.add_comm 1]
    -- The closing tag takes off the name that the opening tag put on.
    have popped : ((s.push (rename s.next name)).afterAll rename inner).pop =
        ⟨s.next + (Element.mk name attributes children).count, s.opened⟩ := by
      rw [numbers, ← count]
      rfl
    have closing : renameEvents rename ((s.push (rename s.next name)).afterAll rename inner) (.stop name :: events) =
        .stop (rename s.next name) ::
          renameEvents rename ⟨s.next + (Element.mk name attributes children).count, s.opened⟩ events := by
      rw [← popped, numbers]
      rfl
    have whole : renameEvents rename s (.start name attributes :: (inner ++ .stop name :: events)) =
        .start (rename s.next name) attributes :: (renameEvents rename (s.push (rename s.next name)) inner ++
          .stop (rename s.next name) ::
            renameEvents rename ⟨s.next + (Element.mk name attributes children).count, s.opened⟩ events) := by
      rw [renameEvents, renameEvents_append, ← closing]
      rfl
    obtain ⟨behind, numbers'⟩ := ih' ⟨s.next + (Element.mk name attributes children).count, s.opened⟩
    rw [whole]
    refine ⟨.nested inside behind, ?_⟩
    calc s.afterAll rename (.start name attributes :: (inner ++ .stop name :: events))
      _ = ((s.push (rename s.next name)).afterAll rename inner).pop.afterAll rename events := by
        simp only [Numbering.afterAll, List.foldl_cons, List.foldl_append]
        rfl
      _ = ⟨s.next + countAll (⟨name, attributes, children⟩ :: elements), s.opened⟩ := by
        rw [popped, numbers', countAll, Nat.add_assoc]

/-- The mark that is dropped at the beginning of a text stands for nothing anyway. -/
theorem read_eq_scan (text : String) : Event.read text = scan [] text.toList := by
  unfold Event.read scan
  split
  · rename_i shape
    rw [shape]
    rfl
  · rfl

/-- There is no fault in a text when there is none in its chunks and none in their events. -/
theorem scan_eq_iff {names : List String} {input : List Char} {events : List Event} :
    scan names input = (events, none) ↔
      ∃ found, chunks .text input = (found, none) ∧ Event.ofChunks names found = (events, none) := by
  rw [scan]
  obtain ⟨found, cut⟩ := chunks .text input
  cases gives : Event.ofChunks names found with
  | mk made fault => cases cut <;> cases fault <;> simp [gives]

/-- A text in which elements were renamed is read as the tree in which they are. -/
theorem parse_renameTags {rename : Renaming} (proper : rename.Proper) {text : String} {root : Element}
    (parses : Element.parse text = .ok root) :
    Element.parse (renameTags rename text) = .ok (root.renamed rename 0) := by
  obtain ⟨no_fault, reads⟩ := Element.parse_eq_ok_iff.mp parses
  obtain ⟨found, cuts, gives⟩ := scan_eq_iff.mp ((read_eq_scan text).symm.trans (Prod.ext rfl no_fault))
  obtain ⟨found', cuts', gives'⟩ := chunks_renameFrom (s := .start) proper ChunkMode.begun_text .nil cuts gives
  have events : Event.read (renameTags rename text) = (renameEvents rename .start (Event.read text).1, none) := by
    rw [read_eq_scan, renameTags, String.toList_ofList]
    exact scan_eq_iff.mpr ⟨found', cuts', gives'⟩
  rw [Element.ofEvents_eq_ok_iff] at reads
  rw [Element.parse_eq_ok_iff, events, Element.ofEvents_eq_ok_iff, renameEvents_filter]
  exact ⟨rfl, (reads.renamed rename .start).1⟩

end FlightBlocks.Markup
