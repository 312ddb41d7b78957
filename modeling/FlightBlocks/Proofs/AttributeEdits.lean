import FlightBlocks.Proofs.DistinctKeys
import Mathlib.Data.List.Basic
import Mathlib.Data.List.Induction

/-!
# Attributes after any edits

Attributes are a list in which keys are searched for, replaced in place, added at the end and taken out. Of an element
that has no key twice the history of its edits tells everything about its attributes: their keys stay different, a key
has the value of the last edit that sets it, and keys stand in the order in which they were added
(`attributes_after_edits`). What was read counts as set in document order (`Element.asEdits`), before any edit.

One edit adds its key at the end or leaves some of the keys (`Element.Grows`), and that keeps the order. Whether a key
is there at all is read off the history.
-/

namespace FlightBlocks.Markup

/-! ## Edits -/

/-- An edit of the attributes of an element. -/
inductive AttributeEdit where
  | set (key value : String)
  | setOptional (key : String) (value : Option String)
  | remove (key : String)
  deriving DecidableEq, Repr

namespace AttributeEdit

def key : AttributeEdit → String
  | .set key _ | .setOptional key _ | .remove key => key

/-- The value that is set, unless the key is removed. -/
def value? : AttributeEdit → Option String
  | .set _ value => some value
  | .setOptional _ value => value
  | .remove _ => none

def apply (e : Element) : AttributeEdit → Element
  | .set key value => e.set key value
  | .setOptional key value => e.setOptional key value
  | .remove key => e.remove key

/-- Every edit sets a value that may be missing. -/
theorem apply_eq (x : AttributeEdit) (e : Element) : x.apply e = e.setOptional x.key x.value? := by
  cases x <;> rfl

end AttributeEdit

namespace Element

/-- The keys of the attributes in their order. -/
def keys (e : Element) : List String := e.attributes.map (·.1)

/-- The element after some edits, the first one first. -/
def edit (e : Element) (edits : List AttributeEdit) : Element := edits.foldl AttributeEdit.apply e

theorem edit_concat (e : Element) (edits : List AttributeEdit) (x : AttributeEdit) :
    e.edit (edits ++ [x]) = x.apply (e.edit edits) :=
  List.foldl_concat ..

/-- The edits that set what the element has. -/
def asEdits (e : Element) : List AttributeEdit := e.attributes.map fun a => .set a.1 a.2

end Element

/-! ## One edit -/

section Setting

variable {key other value : String} {attributes : List Attribute}

theorem lookup_cons (a : Attribute) (rest : List Attribute) (other : String) :
    (a :: rest).lookup other = if other = a.1 then some a.2 else rest.lookup other := by
  obtain ⟨k, v⟩ := a
  by_cases same : other = k
  · simp [same]
  · simp [List.lookup_cons, same, beq_eq_false_iff_ne.mpr same]

theorem lookup_setAttribute : (setAttribute key value attributes).lookup other =
    if other = key then some value else attributes.lookup other := by
  induction attributes with
  | nil => simp [setAttribute]
  | cons a rest ih =>
    by_cases found : a.1 = key
    · simp only [setAttribute, found, if_true, lookup_cons]
      split_ifs <;> rfl
    · simp only [setAttribute, found, if_false, lookup_cons, ih]
      split_ifs with first same
      · exact absurd (first.symm.trans same) found
      · rfl
      · rfl
      · rfl

/-- A key that is new goes to the end. -/
theorem setAttribute_new (new : ∀ a ∈ attributes, a.1 ≠ key) :
    setAttribute key value attributes = attributes ++ [(key, value)] := by
  induction attributes with
  | nil => rfl
  | cons a rest ih =>
    simp [setAttribute, new a (by simp), ih fun b member => new b (by simp [member])]

/-- A key that is there keeps its place, as all others do. -/
theorem keys_setAttribute (there : key ∈ attributes.map (·.1)) :
    (setAttribute key value attributes).map (·.1) = attributes.map (·.1) := by
  induction attributes with
  | nil => cases there
  | cons a rest ih =>
    by_cases found : a.1 = key
    · simp [setAttribute, found]
    · have later : key ∈ rest.map (·.1) := (List.mem_cons.mp there).resolve_left (Ne.symm found)
      simp [setAttribute, found, ih later]

/-- The attributes under other keys stay as they are. -/
theorem others_setAttribute : (setAttribute key value attributes).filter (·.1 != key) =
    attributes.filter (·.1 != key) := by
  induction attributes with
  | nil => simp [setAttribute]
  | cons a rest ih =>
    by_cases found : a.1 = key
    · simp [setAttribute, found]
    · simp [setAttribute, found, ih]

end Setting

namespace Element

variable {e : Element} {key other : String} {new : Option String}

theorem mem_keys_iff : key ∈ e.keys ↔ ∃ value, e.attribute? key = some value := by
  rw [← Option.isSome_iff_exists, ← not_iff_not, Option.not_isSome_iff_eq_none, attribute?, List.lookup_eq_none_iff]
  simp only [keys, List.mem_map, bne_iff_ne, ne_eq, not_exists, not_and]
  exact ⟨fun absent a member same => absent a member same.symm, fun absent a member same => absent a member same.symm⟩

theorem attribute?_setOptional : (e.setOptional key new).attribute? other =
    if other = key then new else e.attribute? other := by
  cases new with
  | some value => exact lookup_setAttribute
  | none =>
    change (e.attributes.filter fun a => a.1 != key).lookup other = if other = key then none else e.attributes.lookup other
    induction e.attributes with
    | nil => simp
    | cons a rest ih =>
      by_cases removed : a.1 = key
      · rw [List.filter_cons_of_neg (by simp [removed]), ih, lookup_cons, removed]
        split_ifs <;> rfl
      · rw [List.filter_cons_of_pos (by simp [removed]), lookup_cons, lookup_cons, ih]
        split_ifs with first same
        · exact absurd (first.symm.trans same) removed
        · rfl
        · rfl
        · rfl

theorem others_setOptional (e : Element) (key : String) (new : Option String) :
    (e.setOptional key new).attributes.filter (·.1 != key) = e.attributes.filter (·.1 != key) := by
  cases new with
  | some value => exact others_setAttribute
  | none => simp [setOptional, remove]

/-- What an edit of a key does to the keys: it leaves some of them, or adds its own at the end where it was not. -/
def Grows (before after : Element) (key : String) : Prop :=
  after.keys.Sublist before.keys ∨ key ∉ before.keys ∧ after.keys = before.keys ++ [key]

theorem grows_setOptional (e : Element) (key : String) (new : Option String) :
    Grows e (e.setOptional key new) key := by
  cases new with
  | none => exact .inl (List.filter_sublist.map _)
  | some value =>
    by_cases there : key ∈ e.keys
    · have same : (e.setOptional key (some value)).keys = e.keys := keys_setAttribute there
      rw [Grows, same]
      exact .inl (.refl _)
    · have absent : ∀ a ∈ e.attributes, a.1 ≠ key := fun a member same => there (List.mem_map.mpr ⟨a, member, same⟩)
      have added : (e.setOptional key (some value)).attributes = e.attributes ++ [(key, value)] :=
        setAttribute_new absent
      exact .inr ⟨there, by simp [keys, added]⟩

end Element

/-! ## What a history of edits says -/

section History

variable {history : List AttributeEdit} {x : AttributeEdit} {key value : String} {i : Nat}

/-- The last edit of the key sets the value: no later one sets another or removes the key. -/
def LastSets (history : List AttributeEdit) (key value : String) : Prop :=
  ∃ before edit after, history = before ++ edit :: after ∧ edit.key = key ∧ edit.value? = some value ∧
    ∀ later ∈ after, later.key ≠ key

/-- The edit at the position adds the key for good: it sets the key where it is not there, because it was never set
    or not since it was last removed, and the key is not removed later. -/
def AddedAt (history : List AttributeEdit) (key : String) (i : Nat) : Prop :=
  ∃ before edit after, history = before ++ edit :: after ∧ before.length = i ∧ edit.key = key ∧
    edit.value?.isSome ∧ (∀ value, ¬LastSets before key value) ∧
    ∀ later ∈ after, later.key = key → later.value?.isSome

/-- An edit in a longer history is the last one or one of those before. -/
theorem concat_eq_iff {before after : List AttributeEdit} {edit : AttributeEdit} :
    history ++ [x] = before ++ edit :: after ↔
      history = before ∧ x = edit ∧ after = [] ∨ ∃ more, after = more ++ [x] ∧ history = before ++ edit :: more := by
  rcases List.eq_nil_or_concat' after with rfl | ⟨more, last, rfl⟩
  · rw [List.append_singleton_inj]
    constructor
    · rintro ⟨same, rfl⟩
      exact .inl ⟨same, rfl, rfl⟩
    · rintro (⟨same, rfl, -⟩ | ⟨more, nothing, -⟩)
      · exact ⟨same, rfl⟩
      · simp at nothing
  · rw [← List.cons_append, ← List.append_assoc, List.append_singleton_inj]
    constructor
    · rintro ⟨same, rfl⟩
      exact .inr ⟨more, rfl, same⟩
    · rintro (⟨-, -, nothing⟩ | ⟨others, same, before⟩)
      · simp at nothing
      · obtain ⟨rfl, rfl⟩ := List.append_singleton_inj.mp same
        exact ⟨before, rfl⟩

theorem not_lastSets_nil : ¬LastSets [] key value := by
  rintro ⟨before, edit, after, nothing, -⟩
  simp at nothing

theorem lastSets_concat : LastSets (history ++ [x]) key value ↔
    if x.key = key then x.value? = some value else LastSets history key value := by
  constructor
  · rintro ⟨before, edit, after, split, of_key, sets, untouched⟩
    rcases concat_eq_iff.mp split with ⟨rfl, rfl, rfl⟩ | ⟨more, rfl, rfl⟩
    · rwa [if_pos of_key]
    · rw [if_neg (untouched x (by simp))]
      exact ⟨before, edit, more, rfl, of_key, sets, fun later member => untouched later (by simp [member])⟩
  · split_ifs with of_key
    · exact fun sets => ⟨history, x, [], rfl, of_key, sets, by simp⟩
    · rintro ⟨before, edit, after, rfl, same, sets, untouched⟩
      refine ⟨before, edit, after ++ [x], by simp, same, sets, fun later member => ?_⟩
      rcases List.mem_append.mp member with inside | last
      · exact untouched later inside
      · rwa [List.mem_singleton.mp last]

/-- What comes later counts first. -/
theorem lastSets_append {edits : List AttributeEdit} : LastSets (history ++ edits) key value ↔
    LastSets edits key value ∨ (∀ x ∈ edits, x.key ≠ key) ∧ LastSets history key value := by
  induction edits using List.reverseRecOn with
  | nil => simp [not_lastSets_nil]
  | append_singleton edits x ih =>
    rw [← List.append_assoc, lastSets_concat, lastSets_concat, ih]
    by_cases of_key : x.key = key
    · rw [if_pos of_key, if_pos of_key]
      refine ⟨.inl, ?_⟩
      rintro (sets | ⟨untouched, -⟩)
      · exact sets
      · exact absurd of_key (untouched x (by simp))
    · simp [of_key, or_imp, forall_and]

theorem addedAt_concat : AddedAt (history ++ [x]) key i ↔ (x.key = key → x.value?.isSome) ∧
    (AddedAt history key i ∨ x.key = key ∧ i = history.length ∧ ∀ value, ¬LastSets history key value) := by
  constructor
  · rintro ⟨before, edit, after, split, at_i, of_key, sets, absent, stays⟩
    rcases concat_eq_iff.mp split with ⟨rfl, rfl, rfl⟩ | ⟨more, rfl, rfl⟩
    · exact ⟨fun _ => sets, .inr ⟨of_key, at_i.symm, absent⟩⟩
    · exact ⟨stays x (by simp), .inl ⟨before, edit, more, rfl, at_i, of_key, sets, absent,
        fun later member => stays later (by simp [member])⟩⟩
  · rintro ⟨last, ⟨before, edit, after, rfl, at_i, of_key, sets, absent, stays⟩ | ⟨of_key, rfl, absent⟩⟩
    · refine ⟨before, edit, after ++ [x], by simp, at_i, of_key, sets, absent, fun later member => ?_⟩
      rcases List.mem_append.mp member with inside | at_end
      · exact stays later inside
      · rwa [List.mem_singleton.mp at_end]
    · exact ⟨history, x, [], rfl, rfl, of_key, last of_key, absent, by simp⟩

theorem AddedAt.lt (added : AddedAt history key i) : i < history.length := by
  obtain ⟨before, edit, after, rfl, rfl, -⟩ := added
  simp

/-- Keys that were added for good are those that were set last. -/
theorem exists_addedAt_iff : (∃ i, AddedAt history key i) ↔ ∃ value, LastSets history key value := by
  induction history using List.reverseRecOn with
  | nil =>
    constructor
    · rintro ⟨i, added⟩
      exact absurd added.lt (Nat.not_lt_zero i)
    · rintro ⟨value, sets⟩
      exact absurd sets not_lastSets_nil
  | append_singleton history x ih =>
    simp only [addedAt_concat, lastSets_concat]
    by_cases of_key : x.key = key
    · simp only [of_key, true_imp_iff, true_and, if_true, ← Option.isSome_iff_exists, exists_and_left]
      refine and_iff_left_of_imp fun _ => ?_
      by_cases there : ∃ value, LastSets history key value
      · obtain ⟨i, added⟩ := ih.mpr there
        exact ⟨i, .inl added⟩
      · exact ⟨history.length, .inr ⟨rfl, fun value sets => there ⟨value, sets⟩⟩⟩
    · simpa [of_key] using ih

end History

/-! ## Elements and their histories -/

/-- The attributes are what the history says, and stand in its order. -/
structure Element.Follows (e : Element) (history : List AttributeEdit) : Prop where
  distinct : e.keys.Nodup
  value : ∀ key value, e.attribute? key = some value ↔ LastSets history key value
  order : e.keys.Pairwise fun first second =>
    ∀ i j, AddedAt history first i → AddedAt history second j → i < j

namespace Element.Follows

variable {e : Element} {history : List AttributeEdit} {key : String} {i : Nat}

theorem mem_keys_iff (follows : e.Follows history) : key ∈ e.keys ↔ ∃ i, AddedAt history key i := by
  rw [exists_addedAt_iff, Element.mem_keys_iff]
  exact exists_congr fun value => follows.value key value

/-- A key that is there is not added again. -/
theorem addedAt_before (follows : e.Follows history) {x : AttributeEdit} (there : key ∈ e.keys)
    (added : AddedAt (history ++ [x]) key i) : AddedAt history key i := by
  obtain ⟨-, before | ⟨-, -, absent⟩⟩ := addedAt_concat.mp added
  · exact before
  · obtain ⟨value, sets⟩ := exists_addedAt_iff.mp (follows.mem_keys_iff.mp there)
    exact absurd sets (absent value)

theorem apply (follows : e.Follows history) (x : AttributeEdit) : (x.apply e).Follows (history ++ [x]) := by
  rw [x.apply_eq]
  have earlier : e.keys.Pairwise fun first second =>
      ∀ i j, AddedAt (history ++ [x]) first i → AddedAt (history ++ [x]) second j → i < j :=
    follows.order.imp_of_mem fun first second before i j added_first added_second =>
      before i j (follows.addedAt_before first added_first) (follows.addedAt_before second added_second)
  have value : ∀ key value, (e.setOptional x.key x.value?).attribute? key = some value ↔
      LastSets (history ++ [x]) key value := by
    intro key value
    rw [attribute?_setOptional, lastSets_concat, ← follows.value]
    by_cases of_key : key = x.key
    · simp [of_key]
    · simp [of_key, Ne.symm of_key]
  -- Only the key that goes to the end can stand behind others that it did not stand behind before.
  rcases e.grows_setOptional x.key x.value? with fewer | ⟨new, added⟩
  · exact ⟨fewer.nodup follows.distinct, value, earlier.sublist fewer⟩
  · refine ⟨?_, value, ?_⟩
    · rw [added]
      exact List.nodup_append.mpr ⟨follows.distinct, by simp, by
        rintro key there _ last rfl
        exact new (List.mem_singleton.mp last ▸ there)⟩
    · rw [added]
      refine List.pairwise_append.mpr ⟨earlier, List.pairwise_singleton .., ?_⟩
      intro first there second last i j added_first added_second
      rw [List.mem_singleton.mp last] at added_second
      have before : i < history.length := (follows.addedAt_before there added_first).lt
      obtain ⟨-, again | ⟨-, rfl, -⟩⟩ := addedAt_concat.mp added_second
      · exact absurd (follows.mem_keys_iff.mpr ⟨j, again⟩) new
      · exact before

theorem edit (follows : e.Follows history) (edits : List AttributeEdit) :
    (e.edit edits).Follows (history ++ edits) := by
  induction edits using List.reverseRecOn with
  | nil => simpa [Element.edit] using follows
  | append_singleton edits x ih =>
    rw [e.edit_concat, ← List.append_assoc]
    exact ih.apply x

end Element.Follows

/-- Setting attributes that are new, one after the other, puts them at the end. -/
theorem Element.edit_sets (name : String) (before attributes : List Attribute) (children : List Element)
    (distinct : ((before ++ attributes).map (·.1)).Nodup) :
    Element.edit ⟨name, before, children⟩ (attributes.map fun a => .set a.1 a.2) =
      ⟨name, before ++ attributes, children⟩ := by
  induction attributes generalizing before with
  | nil => simp [edit]
  | cons a rest ih =>
    have new : ∀ b ∈ before, b.1 ≠ a.1 := by
      rw [List.map_append, List.nodup_append] at distinct
      exact fun b member => distinct.2.2 b.1 (List.mem_map_of_mem member) a.1 (by simp)
    have sets : (AttributeEdit.set a.1 a.2).apply ⟨name, before, children⟩ = ⟨name, before ++ [a], children⟩ := by
      simp [AttributeEdit.apply, Element.set, setAttribute_new new]
    rw [List.map_cons, edit, List.foldl_cons, sets]
    have others := ih (before ++ [a]) (by simpa using distinct)
    rwa [List.append_assoc] at others

/-- An element without a key twice is what setting its attributes makes. -/
theorem Element.follows_asEdits {e : Element} (distinct : e.keys.Nodup) : e.Follows e.asEdits := by
  obtain ⟨name, attributes, children⟩ := e
  have nothing : Element.Follows ⟨name, [], children⟩ [] :=
    ⟨.nil, fun key value => iff_of_false nofun not_lastSets_nil, .nil⟩
  have all := nothing.edit (Element.asEdits ⟨name, attributes, children⟩)
  rwa [asEdits, Element.edit_sets name [] attributes children distinct] at all

/-! ## Elements that were made or read -/

/-- The element was made with nothing but a name, or stands in a text that was read. -/
inductive Element.Made : Element → Prop
  | named (name : String) : Made (.named name)
  | read {text : String} {root e : Element} (reads : Element.parse text = .ok root) (inside : e ∈ root.parts) : Made e

theorem Element.Made.distinct {e : Element} (made : e.Made) : e.keys.Nodup := by
  cases made with
  | named name => exact .nil
  | read reads inside => exact distinct_of_parse reads e inside

/-- After any edits of an element that was made or read: no key is there twice; a key has the value that the last edit
    of it sets, or that it had if no edit is about it, and no value otherwise; the keys are those that were added for
    good, in the order in which they were; and one more edit leaves the name, the children and all attributes under
    other keys, in their order. -/
theorem attributes_after_edits {e : Element} (made : e.Made) (edits : List AttributeEdit) :
    (e.edit edits).keys.Nodup ∧
    (∀ key value, (e.edit edits).attribute? key = some value ↔
      LastSets edits key value ∨ (∀ x ∈ edits, x.key ≠ key) ∧ e.attribute? key = some value) ∧
    (∀ key, key ∈ (e.edit edits).keys ↔ ∃ i, AddedAt (e.asEdits ++ edits) key i) ∧
    ((e.edit edits).keys.Pairwise fun first second =>
      ∀ i j, AddedAt (e.asEdits ++ edits) first i → AddedAt (e.asEdits ++ edits) second j → i < j) ∧
    ∀ x : AttributeEdit, (x.apply (e.edit edits)).name = (e.edit edits).name ∧
      (x.apply (e.edit edits)).children = (e.edit edits).children ∧
      (x.apply (e.edit edits)).attributes.filter (·.1 != x.key) = (e.edit edits).attributes.filter (·.1 != x.key) ∧
      ∀ other ≠ x.key, (x.apply (e.edit edits)).attribute? other = (e.edit edits).attribute? other := by
  have start := Element.follows_asEdits made.distinct
  have follows := start.edit edits
  refine ⟨follows.distinct, fun key value => ?_, fun key => follows.mem_keys_iff, follows.order, fun x => ?_⟩
  · rw [follows.value, lastSets_append, ← start.value]
  · rw [x.apply_eq]
    refine ⟨?_, ?_, Element.others_setOptional .., fun other differs => ?_⟩
    · cases x.value? <;> rfl
    · cases x.value? <;> rfl
    · rw [Element.attribute?_setOptional, if_neg differs]

/-- A key that was read is removed and comes back at the end, one keeps its place with another value, and one is
    removed before it is set again. -/
theorem attributes_after_edits_of_mixed :
    let text := "<Program name='A'><NumericConstant type='g' style='constant'/></Program>"
    let e : Element := ⟨"NumericConstant", [("type", "g"), ("style", "constant")], []⟩
    let edits : List AttributeEdit := [.remove "type", .set "style" "other", .setOptional "color" (some "red"),
      .set "type" "pi", .setOptional "color" none, .setOptional "style" (some "plain")]
    Element.parse text = .ok ⟨"Program", [("name", "A")], [e]⟩ ∧ e.Made ∧
      (e.edit edits).attributes = [("style", "plain"), ("type", "pi")] ∧ (e.edit edits).keys.Nodup ∧
      (e.edit edits).attribute? "type" = some "pi" ∧ (∃ i, AddedAt (e.asEdits ++ edits) "type" i) ∧
      ¬∃ i, AddedAt (e.asEdits ++ edits) "color" i := by
  intro text e edits
  have reads : Element.parse text = .ok ⟨"Program", [("name", "A")], [e]⟩ := by
    have tags : (Event.read text).1 = [.start "Program" [("name", "A")],
        .empty "NumericConstant" [("type", "g"), ("style", "constant")], .stop "Program"] := by decide +kernel
    have whole : (Event.read text).2.isNone := by decide +kernel
    rw [Element.parse_eq_ok_iff, tags]
    exact ⟨Option.isNone_iff_eq_none.mp whole, rfl⟩
  have made : e.Made := .read reads (by simp [Element.parts, partsOf, e])
  obtain ⟨distinct, value, keys, -, -⟩ := attributes_after_edits made edits
  refine ⟨reads, made, rfl, distinct, (value "type" "pi").mpr (.inl ?_), (keys "type").mp (by decide), ?_⟩
  · exact ⟨edits.take 3, .set "type" "pi", edits.drop 4, rfl, rfl, rfl, by decide⟩
  · rw [← keys "color"]
    decide

end FlightBlocks.Markup
