import FlightBlocks.Proofs.Evaluation

/-!
# Texts that are split

A text is split into the items between its separators, and an item may be empty. So there is one more item than there
are separators, no item contains any, and the separators put back between the items give the text. There is only one
list like this (`split_value`).
-/

namespace FlightBlocks

namespace Text

/-- The items with a separator behind each but the last. -/
def rejoin (items : List String) (separators : List Char) : List Char :=
  ((items.map String.toList).zipWith (· ++ ·) (separators.map ([·]) ++ [[]])).flatten

/-- The items lie between the separators of a text. -/
structure Between (separator : Char → Bool) (text : String) (items : List String) : Prop where
  count : items.length = text.toList.countP separator + 1
  clean : ∀ item ∈ items, ∀ c ∈ item.toList, separator c = false
  restores : rejoin items (text.toList.filter separator) = text.toList

variable {separator : Char → Bool}

/-! ## What splitting gives -/

theorem length_splitOnP (chars : List Char) : (chars.splitOnP separator).length = chars.countP separator + 1 := by
  induction chars with
  | nil => rfl
  | cons c rest ih =>
    rw [List.splitOnP_cons_eq_if_modifyHead, List.countP_cons]
    by_cases cut : separator c
    · simp [cut, ih]
    · simp [cut, ih]

theorem clean_of_mem_splitOnP {chars piece : List Char} (member : piece ∈ chars.splitOnP separator) :
    ∀ c ∈ piece, separator c = false := by
  induction chars generalizing piece with
  | nil =>
    obtain rfl : piece = [] := by simpa using member
    simp
  | cons c rest ih =>
    rw [List.splitOnP_cons_eq_if_modifyHead] at member
    by_cases cut : separator c
    · rw [if_pos cut] at member
      rcases List.mem_cons.mp member with rfl | later
      · simp
      · exact ih later
    · obtain ⟨first, others, shape⟩ := List.exists_cons_of_ne_nil (List.splitOnP_ne_nil separator rest)
      rw [shape] at ih
      rw [if_neg cut, shape, List.modifyHead_cons] at member
      rcases List.mem_cons.mp member with rfl | later
      · exact List.forall_mem_cons.mpr ⟨by simpa using cut, ih List.mem_cons_self⟩
      · exact ih (List.mem_cons_of_mem _ later)

theorem toList_split (text : String) :
    (split separator text).map String.toList = text.toList.splitOnP separator := by
  simp [split, Function.comp_def]

theorem between_split (separator : Char → Bool) (text : String) : Between separator text (split separator text) where
  count := by rw [split, List.length_map, length_splitOnP]
  clean := by
    intro item member
    obtain ⟨piece, inside, rfl⟩ := List.mem_map.mp member
    rw [String.toList_ofList]
    exact clean_of_mem_splitOnP inside
  restores := by rw [rejoin, toList_split, List.splitOnP_spec]

/-! ## No other list -/

/-- Splitting takes out the separators that were put between the items. -/
theorem splitOnP_rejoin {items : List String} {separators : List Char} (one_more : items.length = separators.length + 1)
    (clean : ∀ item ∈ items, ∀ c ∈ item.toList, separator c = false) (cuts : ∀ c ∈ separators, separator c = true) :
    (rejoin items separators).splitOnP separator = items.map String.toList := by
  induction separators generalizing items with
  | nil =>
    obtain ⟨item, rfl⟩ := List.length_eq_one_iff.mp one_more
    simpa [rejoin] using List.splitOnP_eq_singleton (clean item (by simp))
  | cons c rest ih =>
    obtain ⟨item, others, rfl⟩ := List.exists_cons_of_length_eq_add_one one_more
    obtain ⟨first, later⟩ := List.forall_mem_cons.mp clean
    obtain ⟨cut, cuts⟩ := List.forall_mem_cons.mp cuts
    have unfolded : rejoin (item :: others) (c :: rest) = item.toList ++ c :: rejoin others rest := by
      simp [rejoin]
    rw [unfolded, List.splitOnP_append_cons _ _ cut, List.splitOnP_eq_singleton first,
      ih (Nat.succ.inj one_more) later cuts]
    rfl

theorem between_iff {text : String} {items : List String} :
    Between separator text items ↔ items = split separator text := by
  constructor
  · rintro ⟨count, clean, restores⟩
    have one_more : items.length = (text.toList.filter separator).length + 1 := by
      rw [count, List.countP_eq_length_filter]
    have back := splitOnP_rejoin one_more clean fun c member => (List.mem_filter.mp member).2
    rw [restores, ← toList_split] at back
    have same_texts : Function.Injective String.toList := fun _ _ => String.toList_injective
    exact (List.map_injective_iff.mpr same_texts back).symm
  · rintro rfl
    exact between_split separator text

end Text

namespace ExpressionNode

/-- Whether a text is split at a character: at every blank when there are no separators, else at these. -/
def isSeparator (separators : String) (c : Char) : Bool :=
  if separators.isEmpty then Text.isBlank c else separators.toList.contains c

theorem splitText_eq (text separators : String) :
    splitText text separators = .list (Text.split (isSeparator separators) text) := by
  unfold splitText isSeparator
  cases separators.isEmpty <;> rfl

end ExpressionNode

/-- Splitting one value by another gives the list of the items that lie between the separators in its text, which is
    the only list that does. -/
theorem split_value {p : Program} {id : ExpressionId} {children : List ExpressionId} {world : World} {vars : Variables}
    {text separators : Value} (at_id : p.expressions[id]? = some ⟨.split, children⟩)
    (first : p.evaluateChild world vars children 0 = .ok text)
    (second : p.evaluateChild world vars children 1 = .ok separators) :
    ∃ items, p.evaluate world vars id = .ok (.list items) ∧
      ∀ others, Text.Between (ExpressionNode.isSeparator separators.toText) text.toText others ↔ others = items := by
  refine ⟨_, ?_, fun others => Text.between_iff⟩
  rw [Program.evaluate_eq at_id, ExpressionNode.evaluate, first, second, ← ExpressionNode.splitText_eq]
  rfl

/-- Splits a text by another one. -/
def splits (text separators : String) : Program where
  name := ""
  expressions := #[⟨.constant (.text text), []⟩, ⟨.constant (.text separators), []⟩, ⟨.split, [0, 1]⟩]

/-- Separators at both ends and side by side leave empty items, also where they are blanks. -/
theorem split_value_of_outer_separators :
    (splits ",a;;b," ";,").evaluate .empty .empty 2 = .ok (.list ["", "a", "", "b", ""]) ∧
      (splits " a" "").evaluate .empty .empty 2 = .ok (.list ["", "a"]) := by
  have at_id : ∀ text separators, (splits text separators).expressions[2]? = some ⟨.split, [0, 1]⟩ := fun _ _ => rfl
  have first : ∀ text separators,
      (splits text separators).evaluateChild .empty .empty [0, 1] 0 = .ok (.text text) := fun _ _ => rfl
  have second : ∀ text separators,
      (splits text separators).evaluateChild .empty .empty [0, 1] 1 = .ok (.text separators) := fun _ _ => rfl
  have between_marks : Text.Between (ExpressionNode.isSeparator ";,") ",a;;b," ["", "a", "", "b", ""] :=
    ⟨by decide, by simp [ExpressionNode.isSeparator], by decide⟩
  have between_blanks : Text.Between (ExpressionNode.isSeparator "") " a" ["", "a"] :=
    ⟨by decide, by simp [ExpressionNode.isSeparator, Text.isBlank], by decide⟩
  obtain ⟨marked, at_marks, only_marked⟩ := split_value (at_id ",a;;b," ";,") (first _ _) (second _ _)
  obtain ⟨blanked, at_blanks, only_blanked⟩ := split_value (at_id " a" "") (first _ _) (second _ _)
  rw [at_marks, at_blanks, ← (only_marked _).mp between_marks, ← (only_blanked _).mp between_blanks]
  exact ⟨rfl, rfl⟩

end FlightBlocks
