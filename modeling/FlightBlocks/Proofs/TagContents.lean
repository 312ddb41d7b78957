import FlightBlocks.Proofs.MarkupRoundTrip
import Mathlib.Data.List.DropRight
import Mathlib.Tactic.SplitIfs

/-!
# Tags under another name

What stands between the angle brackets of a tag is a content: its quotes are closed, and no bracket stands outside of
them (`IsContent`). With another name in front a content stays one, its attributes are the same (`readTag_withName`),
and a closing tag closes the other name (`closingName_withName`).
-/

namespace FlightBlocks.Markup

/-! ## What stands in a tag -/

/-- The tag stays open along these characters, and no quote does, where `quote` was open before them. -/
def Stays : Option Char → List Char → Prop
  | quote, [] => quote = none
  | quote, c :: rest =>
    ∃ next, (∀ content, tagStep quote content c = .go (.tag next (c :: content))) ∧ Stays next rest

/-- What can stand between the angle brackets of a tag. -/
structure IsContent (content : List Char) : Prop where
  begins : ∀ c ∈ content.head?, c ≠ '!' ∧ c ≠ '?'
  stays : Stays none content

/-- What can stand in a tag that closes nothing. -/
structure IsOpening (content : List Char) : Prop extends IsContent content where
  no_slash : ∀ c ∈ content.head?, c ≠ '/'

variable {content rest : List Char} {quote : Option Char}

theorem chunks_stays (stays : Stays quote content) (acc rest : List Char) :
    chunks (.tag quote acc) (content ++ '>' :: rest) =
      (.tag (acc.reverse ++ content) :: (chunks .text rest).1, (chunks .text rest).2) := by
  induction content generalizing quote acc with
  | nil =>
    obtain rfl : quote = none := stays
    simp [chunks, ChunkMode.step, tagStep]
  | cons c content ih =>
    obtain ⟨next, step, stays⟩ := stays
    have more := ih stays (c :: acc)
    simpa [chunks, ChunkMode.step, step] using more

theorem chunks_content (h : IsContent content) (rest : List Char) :
    chunks .opened (content ++ '>' :: rest) = (.tag content :: (chunks .text rest).1, (chunks .text rest).2) := by
  have same : chunks .opened (content ++ '>' :: rest) = chunks (.tag none []) (content ++ '>' :: rest) := by
    cases content with
    | nil => rfl
    | cons c more =>
      obtain ⟨not_mark, not_question⟩ := h.begins c rfl
      simp [chunks, ChunkMode.step, not_mark, not_question]
  rw [same, chunks_stays h.stays [] rest, List.reverse_nil, List.nil_append]

theorem tagStep_plain {c : Char} (plain : c ≠ '>' ∧ c ≠ '"' ∧ c ≠ '\'') (content : List Char) :
    tagStep none content c = .go (.tag none (c :: content)) := by
  simp [tagStep, plain]

/-- Characters without a bracket or a quote make no difference. -/
theorem stays_plain {text : List Char} (plain : ∀ c ∈ text, c ≠ '>' ∧ c ≠ '"' ∧ c ≠ '\'') :
    Stays none (text ++ rest) ↔ Stays none rest := by
  induction text with
  | nil => rfl
  | cons c text ih =>
    obtain ⟨first, others⟩ := List.forall_mem_cons.mp plain
    rw [← ih others]
    constructor
    · rintro ⟨next, step, stays⟩
      have same := (step []).symm.trans (tagStep_plain first [])
      cases same
      exact stays
    · exact fun stays => ⟨none, tagStep_plain first, stays⟩

/-! ## Attributes behind another name -/

/-- Readers that differ in positions alone. -/
inductive AttributeMode.Alike : AttributeMode → AttributeMode → Prop
  | between : Alike .between .between
  | key (start start' : Nat) (key : List Char) : Alike (.key start key) (.key start' key)
  | afterKey (start start' : Nat) (key : List Char) : Alike (.afterKey start key) (.afterKey start' key)
  | beforeValue (key : String) : Alike (.beforeValue key) (.beforeValue key)
  | value (key : String) (quote : Char) (raw : List Char) : Alike (.value key quote raw) (.value key quote raw)

theorem AttributeMode.Alike.refl (mode : AttributeMode) : mode.Alike mode := by
  cases mode <;> constructor

section Positions

variable {seen seen' : List (String × Nat)} {attributes : List Attribute}

/-- Whether a key is accepted does not depend on positions either. -/
theorem acceptKey_alike (keys : seen.map (·.1) = seen'.map (·.1)) (start start' : Nat) (key : List Char) :
    (∃ fault, acceptKey seen start key = .error fault) ∨
      ∃ mode more more', acceptKey seen start key = .ok (mode, more) ∧ acceptKey seen' start' key = .ok (mode, more') ∧
        more.map (·.1) = more'.map (·.1) := by
  have unseen : ∀ known : List (String × Nat), known.lookup (String.ofList key.reverse) = none ↔
      String.ofList key.reverse ∉ known.map (·.1) := by
    intro known
    simp only [List.lookup_eq_none_iff, bne_iff_ne, ne_eq, List.mem_map, not_exists, not_and]
    exact ⟨fun differs entry member same => differs entry member same.symm,
      fun absent entry member same => absent entry member same.symm⟩
  cases new : seen.lookup (String.ofList key.reverse) with
  | some previous => exact .inl ⟨.duplicate start previous, by simp [acceptKey, new]⟩
  | none =>
    have new' : seen'.lookup (String.ofList key.reverse) = none := by
      rw [unseen, ← keys, ← unseen, new]
    simp [acceptKey, new, new', keys]

/-- Attributes are read wherever they stand. -/
theorem readAttributes_alike {mode mode' : AttributeMode} (alike : mode.Alike mode')
    (keys : seen.map (·.1) = seen'.map (·.1)) {position : Nat} {rest : List Char}
    (reads : readAttributes mode seen position rest = .ok attributes) (position' : Nat) :
    readAttributes mode' seen' position' rest = .ok attributes := by
  induction rest generalizing mode mode' seen seen' position position' attributes with
  | nil =>
    cases alike with
    | between =>
      cases reads
      rfl
    | _ => cases reads
  | cons c rest ih =>
    cases alike with
    | between =>
      rw [readAttributes] at reads ⊢
      split_ifs at reads ⊢
      · exact ih .between keys reads _
      · exact ih (.key ..) keys reads _
    | key start start' key =>
      rw [readAttributes] at reads ⊢
      split_ifs at reads ⊢
      · rcases acceptKey_alike keys start start' key with ⟨fault, fails⟩ | ⟨mode, more, more', accepts, accepts', same⟩
        · simp [fails] at reads
        · simp only [accepts] at reads
          simp only [accepts']
          exact ih (.refl mode) same reads _
      · exact ih (.afterKey ..) keys reads _
      · exact ih (.key ..) keys reads _
    | afterKey start start' key =>
      rw [readAttributes] at reads ⊢
      split_ifs at reads ⊢
      · rcases acceptKey_alike keys start start' key with ⟨fault, fails⟩ | ⟨mode, more, more', accepts, accepts', same⟩
        · simp [fails] at reads
        · simp only [accepts] at reads
          simp only [accepts']
          exact ih (.refl mode) same reads _
      · exact ih (.afterKey ..) keys reads _
    | beforeValue =>
      rw [readAttributes] at reads ⊢
      split_ifs at reads ⊢
      · exact ih (.beforeValue _) keys reads _
      · exact ih (.value ..) keys reads _
    | value key quote raw =>
      rw [readAttributes] at reads ⊢
      split_ifs at reads ⊢
      · cases value : unescape raw.reverse with
        | error fault => simp [value] at reads
        | ok text =>
          simp only [value] at reads ⊢
          cases more : readAttributes .between seen (position + c.utf8Size) rest with
          | error fault => simp [more, Except.map] at reads
          | ok others =>
            rw [more] at reads
            rw [ih .between keys more, ← reads]
      · exact ih (.value ..) keys reads _

end Positions

/-! ## Another name in a tag -/

/-- The characters that a tag begins with, up to the first blank. -/
def leadingName (content : List Char) : String := String.ofList (content.takeWhile (!isSpace ·))

/-- Another name in place of these characters. -/
def withName (name : String) (content : List Char) : List Char := name.toList ++ content.dropWhile (!isSpace ·)

/-- A name may stand in place of another one: it is the same, or both are names. -/
def Replaces (new old : String) : Prop := new = old ∨ IsName old ∧ IsName new

theorem IsName.not_space {name : String} (is_name : IsName name) {c : Char} (member : c ∈ name.toList) :
    (!isSpace c) = true := by
  rw [(isNameChar_iff.mp (is_name.2 c member)).1]
  rfl

/-- The leading name of a tag is one that a closing tag can repeat. -/
theorem leadingName_whole (content : List Char) : ∀ c ∈ (leadingName content).toList, (!isSpace c) = true := by
  rw [leadingName, String.toList_ofList]
  intro c member
  exact List.mem_takeWhile_imp (p := (!isSpace ·)) member

theorem withName_leadingName (content : List Char) : withName (leadingName content) content = content := by
  rw [withName, leadingName, String.toList_ofList, List.takeWhile_append_dropWhile]

/-- What stands behind the leading name begins with a blank, if it is not empty. -/
theorem parts_withName {new : String} (is_name : IsName new) (content : List Char) :
    leadingName (withName new content) = new ∧
      (withName new content).dropWhile (!isSpace ·) = content.dropWhile (!isSpace ·) := by
  have inside : ∀ c ∈ new.toList, (!isSpace c) = true := fun c => is_name.not_space
  have blank := List.takeWhile_append_dropWhile (p := (!isSpace ·)) (l := content.dropWhile (!isSpace ·))
  rw [List.dropWhile_idempotent, List.append_left_eq_self] at blank
  constructor
  · rw [leadingName, withName, List.takeWhile_append_of_pos inside, blank, List.append_nil, String.ofList_toList]
  · rw [withName, List.dropWhile_append_of_pos inside, List.dropWhile_idempotent]

/-- A tag is its leading name and the attributes behind it, wherever these stand. -/
theorem readTag_eq_ok_iff {name : String} {attributes : List Attribute} : readTag content = .ok (name, attributes) ↔
    leadingName content = name ∧ readAttributes .between [] 0 (content.dropWhile (!isSpace ·)) = .ok attributes := by
  unfold readTag leadingName
  dsimp only
  cases reads : readAttributes .between [] (byteLength (content.takeWhile (!isSpace ·)))
    (content.dropWhile (!isSpace ·)) with
  | ok found => simp [readAttributes_alike .between rfl reads 0]
  | error fault =>
    have fails : ∀ found, readAttributes .between [] 0 (content.dropWhile (!isSpace ·)) ≠ .ok found := by
      intro found reads'
      rw [readAttributes_alike .between rfl reads'] at reads
      cases reads
    simp [fails]

/-- The attributes behind another name are the same. -/
theorem readTag_withName {name new : String} {attributes : List Attribute}
    (reads : readTag content = .ok (name, attributes)) (replaces : Replaces new name) :
    readTag (withName new content) = .ok (new, attributes) := by
  obtain ⟨rfl, behind⟩ := readTag_eq_ok_iff.mp reads
  rcases replaces with rfl | ⟨-, is_name⟩
  · rwa [withName_leadingName]
  · obtain ⟨leads, same⟩ := parts_withName is_name content
    rw [readTag_eq_ok_iff, same]
    exact ⟨leads, behind⟩

section AnotherName

variable {new : String} {tail : List Char}

/-- Another name begins with a character of a name. -/
theorem head_withName {good : Char → Prop} (of_name : ∀ c, isNameChar c = true → good c)
    (begins : ∀ c ∈ (content ++ tail).head?, good c) (replaces : Replaces new (leadingName content)) :
    ∀ c ∈ (withName new content ++ tail).head?, good c := by
  rcases replaces with rfl | ⟨-, is_name⟩
  · rwa [withName_leadingName]
  · obtain ⟨first, more, shape⟩ := List.exists_cons_of_ne_nil is_name.1
    rw [withName, shape]
    rintro _ ⟨⟩
    exact of_name first (is_name.2 first (by simp [shape]))

/-- Another name ends no tag and opens no quote. -/
theorem stays_withName (stays : Stays none (content ++ tail)) (replaces : Replaces new (leadingName content)) :
    Stays none (withName new content ++ tail) := by
  rcases replaces with rfl | ⟨was_name, is_name⟩
  · rwa [withName_leadingName]
  · rw [← withName_leadingName content, withName, List.append_assoc, stays_plain (plain_of_name was_name)] at stays
    rwa [withName, List.append_assoc, stays_plain (plain_of_name is_name)]

theorem isOpening_withName (h : IsOpening (content ++ tail)) (replaces : Replaces new (leadingName content)) :
    IsOpening (withName new content ++ tail) where
  begins := by
    refine head_withName (fun c name => ?_) h.begins replaces
    obtain ⟨-, -, -, -, -, no_mark, no_question, -⟩ := isNameChar_iff.mp name
    exact ⟨no_mark, no_question⟩
  stays := stays_withName h.stays replaces
  no_slash := by
    refine head_withName (fun c name => ?_) h.no_slash replaces
    obtain ⟨-, -, -, no_slash, -⟩ := isNameChar_iff.mp name
    exact no_slash

theorem getLast_withName (ends : content.getLast? ≠ some '/') (replaces : Replaces new (leadingName content)) :
    (withName new content).getLast? ≠ some '/' := by
  rcases replaces with rfl | ⟨-, is_name⟩
  · rwa [withName_leadingName]
  · intro slash
    rw [withName, List.getLast?_append, Option.or_eq_some_iff] at slash
    rcases slash with behind | ⟨-, inside⟩
    · rw [← withName_leadingName content, withName, List.getLast?_append, behind] at ends
      exact ends rfl
    · obtain ⟨-, -, -, no_slash, -⟩ := isNameChar_iff.mp (is_name.2 '/' (List.mem_of_getLast? inside))
      exact no_slash rfl

/-- A closing tag is its name and blanks behind it. -/
theorem exists_blanks (content : List Char) :
    ∃ blanks, (∀ c ∈ blanks, isSpace c = true) ∧ content = (closingName content).toList ++ blanks := by
  unfold closingName
  split
  · exact ⟨[], by simp, by simp⟩
  · rename_i trimmed _
    refine ⟨(content.reverse.takeWhile isSpace).reverse, ?_, ?_⟩
    · intro c member
      exact List.mem_takeWhile_imp (List.mem_reverse.mp member)
    · rw [String.toList_ofList, ← List.reverse_append, List.takeWhile_append_dropWhile, List.reverse_reverse]

theorem closingName_of_blanks (is_name : IsName new) {blanks : List Char} (blank : ∀ c ∈ blanks, isSpace c = true) :
    closingName (new.toList ++ blanks) = new := by
  obtain ⟨c, more, shape⟩ := List.exists_cons_of_ne_nil (List.reverse_ne_nil_iff.mpr is_name.1)
  have space := (isNameChar_iff.mp (is_name.2 c (List.mem_reverse.mp (by simp [shape])))).1
  have trimmed : (new.toList ++ blanks).reverse.dropWhile isSpace = new.toList.reverse := by
    rw [List.reverse_append, List.dropWhile_append_of_pos fun c member => blank c (List.mem_reverse.mp member), shape,
      List.dropWhile_cons_of_neg (by simp [space])]
  unfold closingName
  rw [trimmed]
  split
  · rename_i none
    simp [shape] at none
  · rw [List.reverse_reverse, String.ofList_toList]

/-- A closing tag with another name. -/
theorem closingName_withName (whole : ∀ c ∈ (closingName content).toList, (!isSpace c) = true)
    (replaces : Replaces new (closingName content)) :
    leadingName content = closingName content ∧ closingName (withName new content) = new := by
  obtain ⟨blanks, blank, split⟩ := exists_blanks content
  have behind : blanks.takeWhile (!isSpace ·) = [] ∧ blanks.dropWhile (!isSpace ·) = blanks := by
    cases blanks with
    | nil => simp
    | cons c more => simp [blank c (by simp)]
  have leads : leadingName content = closingName content := by
    rw [leadingName]
    conv_lhs => rw [split]
    rw [List.takeWhile_append_of_pos whole, behind.1, List.append_nil, String.ofList_toList]
  refine ⟨leads, ?_⟩
  rcases replaces with rfl | ⟨-, is_name⟩
  · rw [← leads, withName_leadingName, leads]
  · rw [withName, split, List.dropWhile_append_of_pos whole, behind.2]
    exact closingName_of_blanks is_name blank

end AnotherName

end FlightBlocks.Markup
