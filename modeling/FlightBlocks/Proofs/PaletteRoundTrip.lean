import FlightBlocks.Proofs.AttributeEdits
import FlightBlocks.Proofs.CountedMerge
import FlightBlocks.Proofs.NodeRoundTrip
import FlightBlocks.Proofs.Settled

/-!
# Toolboxes that were saved load again

Saving puts colors and styles in the order of their names and the attributes that a style knows in front of the
rest, so a toolbox need not be saved as the element that it was loaded from. But the toolbox itself comes back
(`saved_toolbox_loads`). This rests on what loading establishes and merging keeps (`Toolbox.Lawful`): styles are
stored under their names, templates go by the style that their elements say, and no attribute that a style does
not know stands in the way of one that it knows.
-/

namespace FlightBlocks.Palette

open Markup (Attribute Element setAttribute setAttribute_new)

/-! ## Colors -/

namespace Color

theorem digit?_digit : ∀ n < 16, Text.digit? 16 (digit n) = some n := by decide

theorem digit_plain : ∀ n < 16, digit n ≠ '+' ∧ Text.isBlank (digit n) = false := by decide

/-- A byte reads back from its digits. -/
theorem readByte?_digits (b : UInt8) : readByte? (digit (b.toNat / 16)) (digit (b.toNat % 16)) = some b := by
  have small : b.toNat < 256 := b.toNat_lt
  have high := digit?_digit (b.toNat / 16) (by omega)
  have low := digit?_digit (b.toNat % 16) (by omega)
  have value : b.toNat / 16 * 16 + b.toNat % 16 = b.toNat := by omega
  simp [readByte?, (digit_plain (b.toNat / 16) (by omega)).1, Text.digits?, high, low, value]

theorem byteDigits_not_blank (b : UInt8) : ∀ c ∈ byteDigits b, Text.isBlank c = false := by
  have small : b.toNat < 256 := b.toNat_lt
  simp only [byteDigits, List.mem_cons, List.not_mem_nil, or_false]
  rintro c (rfl | rfl)
  · exact (digit_plain _ (by omega)).2
  · exact (digit_plain _ (by omega)).2

/-- A color reads back from its text. -/
theorem read?_write (c : Color) : read? c.write = some c := by
  have plain : ∀ d ∈ c.write.toList, Text.isBlank d = false := by
    intro d member
    simp only [write, String.toList_ofList, List.mem_cons, List.mem_append] at member
    rcases member with rfl | ((member | member) | member) | member
    · rfl
    · exact byteDigits_not_blank _ d member
    · exact byteDigits_not_blank _ d member
    · exact byteDigits_not_blank _ d member
    · split at member
      · cases member
      · exact byteDigits_not_blank _ d member
  rw [read?, Text.trim_of_not_blank plain, write, String.toList_ofList]
  obtain ⟨red, green, blue, alpha⟩ := c
  by_cases full : alpha = 255
  · simp [full, byteDigits, readBytes?, readByte?_digits, opaqueOf]
  · simp [full, byteDigits, readBytes?, readByte?_digits]

end Color

/-! ## Attributes -/

/-- Keys whose values may be missing, as attributes. -/
def present (entries : List (String × Option String)) : List Attribute :=
  entries.filterMap fun (key, value) => value.map fun v => (key, v)

theorem present_append (entries more : List (String × Option String)) :
    present (entries ++ more) = present entries ++ present more :=
  List.filterMap_append

theorem key_mem_of_present {entries : List (String × Option String)} {a : Attribute} (member : a ∈ present entries) :
    a.1 ∈ entries.map (·.1) := by
  obtain ⟨⟨key, value⟩, inside, gives⟩ := List.mem_filterMap.mp member
  obtain ⟨v, -, rfl⟩ := Option.map_eq_some_iff.mp gives
  exact List.mem_map.mpr ⟨_, inside, rfl⟩

theorem setOptional_new {name key : String} {attributes : List Attribute} (children : List Element)
    (value : Option String) (new : ∀ a ∈ attributes, a.1 ≠ key) :
    Element.setOptional ⟨name, attributes, children⟩ key value =
      ⟨name, attributes ++ present [(key, value)], children⟩ := by
  cases value with
  | none =>
    have kept : attributes.filter (fun a => a.1 != key) = attributes :=
      List.filter_eq_self.mpr fun a member => bne_iff_ne.mpr (new a member)
    simp [Element.setOptional, Element.remove, kept, present]
  | some v => simp [Element.setOptional, Element.set, setAttribute_new new, present]

/-- Setting new keys one after the other puts the values that are there at the end, in order. -/
theorem foldl_setOptional (name : String) (attributes : List Attribute) (children : List Element)
    (entries : List (String × Option String)) (new : ∀ a ∈ attributes, a.1 ∉ entries.map (·.1))
    (distinct : (entries.map (·.1)).Nodup) :
    entries.foldl (fun (e : Element) x => e.setOptional x.1 x.2) ⟨name, attributes, children⟩ =
      ⟨name, attributes ++ present entries, children⟩ := by
  induction entries generalizing attributes with
  | nil => simp [present]
  | cons x rest ih =>
    obtain ⟨not_again, others⟩ := List.nodup_cons.mp distinct
    have first : ∀ a ∈ attributes, a.1 ≠ x.1 := fun a member same => new a member (by simp [same])
    rw [List.foldl_cons, setOptional_new children x.2 first, ih _ ?_ others, List.append_assoc, ← present_append]
    · rfl
    · intro a member
      rcases List.mem_append.mp member with before | here
      · exact fun again => new a before (List.mem_cons_of_mem _ again)
      · rwa [List.mem_singleton.mp (key_mem_of_present here)]

/-- Each key leads to its value. -/
theorem lookup_present {entries : List (String × Option String)} (distinct : (entries.map (·.1)).Nodup)
    {key : String} {value : Option String} (member : (key, value) ∈ entries) :
    (present entries).lookup key = value := by
  have nowhere : ∀ {others : List (String × Option String)}, key ∉ others.map (·.1) →
      (present others).lookup key = none := by
    intro others absent
    refine List.lookup_eq_none_iff.mpr fun a inside => bne_iff_ne.mpr ?_
    rintro rfl
    exact absent (key_mem_of_present inside)
  induction entries with
  | nil => cases member
  | cons x rest ih =>
    obtain ⟨not_again, others⟩ := List.nodup_cons.mp distinct
    rw [show x :: rest = [x] ++ rest from rfl, present_append, List.lookup_append]
    rcases List.mem_cons.mp member with rfl | behind
    · rw [nowhere not_again]
      cases value <;> simp [present]
    · have differs : key ∉ [x].map (·.1) := by
        intro same
        have same : key = x.1 := List.mem_singleton.mp same
        exact not_again (List.mem_map.mpr ⟨_, behind, same⟩)
      rw [nowhere differs, Option.none_or, ih others behind]

/-! ## Styles -/

/-- Attributes that are not known differ in their keys, and a style knows none of them. -/
structure Style.Lawful (s : Style) : Prop where
  distinct : (s.extra.map (·.1)).Nodup
  unknown : ∀ a ∈ s.extra, a.1 ∉ styleSlots

namespace Style

/-- What a style is saved with: what it knows, then the rest. -/
def entries (s : Style) : List (String × Option String) :=
  [("name", some s.name), ("color", s.color), ("format", s.format), ("tooltip", s.tooltip)] ++
    s.extra.map fun a => (a.1, some a.2)

theorem present_extra (extra : List Attribute) : present (extra.map fun a => (a.1, some a.2)) = extra := by
  induction extra with
  | nil => rfl
  | cons a rest ih => exact congrArg (a :: ·) ih

variable {s : Style}

theorem Lawful.nodup (lawful : s.Lawful) : (s.entries.map (·.1)).Nodup := by
  have keys : s.entries.map (·.1) = styleSlots ++ s.extra.map (·.1) := by simp [entries, styleSlots]
  rw [keys]
  refine List.nodup_append.mpr ⟨by decide, lawful.distinct, ?_⟩
  rintro key known _ member rfl
  obtain ⟨a, inside, rfl⟩ := List.mem_map.mp member
  exact lawful.unknown a inside known

theorem Lawful.save_eq (lawful : s.Lawful) : saveStyle s = ⟨"Style", present s.entries, []⟩ := by
  have saves := foldl_setOptional "Style" [] [] s.entries (by simp) lawful.nodup
  rw [List.nil_append] at saves
  rw [← saves, entries, List.foldl_append, List.foldl_map]
  rfl

/-- A lawful style reads back from its element. -/
theorem Lawful.load_save (lawful : s.Lawful) : loadStyle (saveStyle s) = .ok s := by
  have reads : ∀ key value, (key, value) ∈ s.entries → (saveStyle s).attribute? key = value := by
    intro key value member
    rw [lawful.save_eq]
    exact lookup_present lawful.nodup member
  have all : (saveStyle s).attributes = present s.entries := by rw [lawful.save_eq]
  -- what a style knows is left out when the rest is read, and nothing of the rest is
  have rest : (saveStyle s).attributes.filter (fun a => a.1 ∉ styleSlots) = s.extra := by
    rw [all, entries, present_append, List.filter_append, present_extra, List.filter_eq_nil_iff.mpr, List.nil_append,
      List.filter_eq_self]
    · exact fun a member => decide_eq_true (lawful.unknown a member)
    · intro a member
      have known : a.1 ∈ styleSlots := key_mem_of_present member
      simpa using known
  simp only [loadStyle, required, reads "name" (some s.name) (by simp [entries]),
    reads "color" s.color (by simp [entries]), reads "format" s.format (by simp [entries]),
    reads "tooltip" s.tooltip (by simp [entries]), rest, bind, Except.bind, pure, Except.pure]

/-- A style that was loaded from an element without a key twice is lawful. -/
theorem lawful_of_load {e : Element} {s : Style} (distinct : (e.attributes.map (·.1)).Nodup)
    (loads : loadStyle e = .ok s) : s.Lawful := by
  obtain ⟨name, -, made⟩ := Document.bind_ok_iff.mp loads
  cases made
  refine ⟨distinct.sublist (List.filter_sublist.map _), fun a member => ?_⟩
  exact of_decide_eq_true (List.mem_filter.mp member).2

end Style

/-! ## Colors and categories -/

theorem loadColor_save (name : String) (color : Color) : loadColor (saveColor name color) = .ok (name, color) := by
  simp [loadColor, saveColor, required, Element.named, Element.set, setAttribute, Element.attribute?,
    List.lookup_cons, Color.read?_write, bind, Except.bind, pure, Except.pure]

/-- A template is told apart by the style that its element says. -/
def Template.Lawful (t : Template) : Prop := t.style = (t.element.attribute? "style").getD ""

theorem Template.Lawful.ofElement_eq {t : Template} (lawful : t.Lawful) : ofElement t.element = t := by
  obtain ⟨style, element⟩ := t
  exact congrArg (Template.mk · element) lawful.symm

/-- All templates of a category are lawful. -/
def Category.Lawful (c : Category) : Prop := ∀ t ∈ c.templates, t.Lawful

namespace Category

variable {c other : Category}

/-- A lawful category reads back from its element. -/
theorem Lawful.load_save (lawful : c.Lawful) : loadCategory (saveCategory c) = .ok c := by
  obtain ⟨name, color, templates⟩ := c
  have loads : loadCategory (saveCategory ⟨name, color, templates⟩) =
      .ok ⟨name, color, (templates.map (·.element)).map Template.ofElement⟩ := by
    cases color <;> rfl
  have same : templates.map (Template.ofElement ∘ (·.element)) = templates :=
    List.map_congr_left (fun t member => (lawful t member).ofElement_eq) |>.trans (List.map_id' _)
  rw [loads, List.map_map, same]

theorem lawful_of_load {e : Element} (loads : loadCategory e = .ok c) : c.Lawful := by
  obtain ⟨name, -, made⟩ := Document.bind_ok_iff.mp loads
  cases made
  intro t member
  obtain ⟨child, -, rfl⟩ := List.mem_map.mp member
  rfl

theorem Lawful.add (lawful : c.Lawful) {t : Template} (new : t.Lawful) : (c.add t).Lawful := by
  unfold Category.add
  split
  · exact lawful
  · intro u member
    rcases List.mem_append.mp member with before | here
    · exact lawful u before
    · rwa [List.mem_singleton.mp here]

theorem Lawful.merge (lawful : c.Lawful) (more : other.Lawful) : (c.merge other).Lawful :=
  List.foldlRecOn _ _ lawful fun _ so_far t member => so_far.add (more t member)

end Category

theorem lawful_mergeCategory {categories : List Category} (lawful : ∀ c ∈ categories, c.Lawful) {c : Category}
    (new : c.Lawful) : ∀ d ∈ mergeCategory categories c, d.Lawful := by
  induction categories with
  | nil => simpa [mergeCategory] using new
  | cons first rest ih =>
    obtain ⟨here, others⟩ := List.forall_mem_cons.mp lawful
    unfold mergeCategory
    split
    · exact List.forall_mem_cons.mpr ⟨here.merge new, others⟩
    · exact List.forall_mem_cons.mpr ⟨here, ih others⟩

/-! ## Maps and lists -/

section Maps

variable {β : Type}

theorem ofList_toList (m : Std.ExtTreeMap String β) : .ofList m.toList = m := by
  rw [Std.ExtTreeMap.ofList_eq_insertMany_empty, insertMany_toList]
  refine Std.ExtTreeMap.ext_getElem? fun key => ?_
  rw [Std.ExtTreeMap.getElem?_union, Std.ExtTreeMap.getElem?_empty, Option.or_none]

theorem mem_of_getElem?_ofList {entries : List (String × β)} {key : String} {value : β}
    (found : (Std.ExtTreeMap.ofList entries)[key]? = some value) : (key, value) ∈ entries := by
  rw [Std.ExtTreeMap.ofList_eq_insertMany_empty, Std.ExtTreeMap.getElem?_insertMany_list,
    Std.ExtTreeMap.getElem?_empty, Option.or_none, List.findSomeRev?_eq_findSome?_reverse] at found
  obtain ⟨⟨other, stored⟩, member, same⟩ := List.exists_of_findSome?_eq_some found
  obtain ⟨equal, same⟩ := Option.ite_none_right_eq_some.mp same
  cases same
  rw [← Std.LawfulEqCmp.eq_of_compare equal]
  exact List.mem_reverse.mp member

end Maps

/-- What is made of what was made of something gives it back, entry by entry. -/
theorem mapM_map_ok {ε α β : Type} {save : α → β} {load : β → Except ε α} {xs : List α}
    (back : ∀ x ∈ xs, load (save x) = .ok x) : (xs.map save).mapM load = .ok xs := by
  rw [Document.mapM_ok_iff, List.forall₂_map_left_iff, List.forall₂_same]
  exact back

/-- Where each entry comes from. -/
theorem exists_of_mem_mapM {ε α β : Type} {f : α → Except ε β} {xs : List α} {ys : List β}
    (made : xs.mapM f = .ok ys) {y : β} (member : y ∈ ys) : ∃ x ∈ xs, f x = .ok y := by
  have pairs := Document.mapM_ok_iff.mp made
  clear made
  induction pairs with
  | nil => cases member
  | cons first _ ih =>
    rcases List.mem_cons.mp member with rfl | behind
    · exact ⟨_, List.mem_cons_self, first⟩
    · obtain ⟨x, inside, makes⟩ := ih behind
      exact ⟨x, List.mem_cons_of_mem _ inside, makes⟩

/-! ## Toolboxes -/

namespace Toolbox

/-- Every style is stored under its name, and all is lawful. -/
structure Lawful (t : Toolbox) : Prop where
  styles : ∀ (key : String) (style : Style), t.styles[key]? = some style → style.name = key ∧ style.Lawful
  categories : ∀ c ∈ t.categories, c.Lawful

variable {t base other : Toolbox}

/-- The entries of the styles are those of a lawful toolbox. -/
theorem Lawful.of_mem (lawful : t.Lawful) {entry : String × Style} (member : entry ∈ t.styles.toList) :
    entry.2.name = entry.1 ∧ entry.2.Lawful :=
  lawful.styles entry.1 entry.2 (Std.ExtTreeMap.mem_toList_iff_getElem?_eq_some.mp member)

/-- The styles are written in the order of their names, which is that of the map. -/
theorem Lawful.sorted (lawful : t.Lawful) :
    ((t.styles.toList.map (·.2)).mergeSort fun a b => a.name ≤ b.name) = t.styles.toList.map (·.2) := by
  refine List.mergeSort_of_pairwise ?_
  rw [List.pairwise_map]
  refine Std.ExtTreeMap.ordered_keys_toList.imp_of_mem fun {a b} in_a in_b less => ?_
  rw [(lawful.of_mem in_a).1, (lawful.of_mem in_b).1]
  exact decide_eq_true (Std.le_of_lt (compareOfLessAndEq_eq_lt.mp less))

theorem Lawful.byName_styles (lawful : t.Lawful) : byName (t.styles.toList.map (·.2)) = t.styles := by
  have entries : t.styles.toList.map ((fun style => (style.name, style)) ∘ (·.2)) = t.styles.toList := by
    refine (List.map_congr_left fun entry member => ?_).trans (List.map_id _)
    exact Prod.ext (lawful.of_mem member).1 rfl
  rw [byName, List.map_map, entries, ofList_toList]

/-- What is loaded from a section, entry by entry. -/
def Reads {α : Type} (root : Element) (tag : String) (load : Element → Except ToolboxError α) (made : List α) : Prop :=
  ∃ es, contents root tag = .ok es ∧ es.mapM load = .ok made

/-- A toolbox is loaded from its three sections. -/
theorem load_ok_iff {root : Element} : load root = .ok t ↔ root.name = toolboxTag ∧ ∃ colors styles,
    Reads root colorsTag loadColor colors ∧ Reads root stylesTag loadStyle styles ∧
      Reads root categoriesTag loadCategory t.categories ∧ t.colors = .ofList colors ∧ t.styles = byName styles := by
  by_cases named : root.name = toolboxTag
  · simp only [load, named, ne_eq, not_true_eq_false, if_false, true_and, Document.bind_ok_iff]
    constructor
    · rintro ⟨_, in_colors, colors, colors_ok, _, in_styles, styles, styles_ok, _, in_categories, categories,
        categories_ok, made⟩
      cases made
      exact ⟨colors, styles, ⟨_, in_colors, colors_ok⟩, ⟨_, in_styles, styles_ok⟩, ⟨_, in_categories, categories_ok⟩,
        rfl, rfl⟩
    · rintro ⟨colors, styles, ⟨_, in_colors, colors_ok⟩, ⟨_, in_styles, styles_ok⟩, ⟨_, in_categories, categories_ok⟩,
        same_colors, same_styles⟩
      refine ⟨_, in_colors, colors, colors_ok, _, in_styles, styles, styles_ok, _, in_categories, _, categories_ok, ?_⟩
      rw [← same_colors, ← same_styles]
      rfl
  · simp [load, named, bind, Except.bind, throw, throwThe, MonadExceptOf.throw]

/-- Each entry of a section is loaded from an element inside the root. -/
theorem Reads.exists_part {α : Type} {root : Element} {tag : String} {load : Element → Except ToolboxError α}
    {made : List α} (reads : Reads root tag load made) {entry : α} (member : entry ∈ made) :
    ∃ part ∈ root.parts, load part = .ok entry := by
  obtain ⟨es, inside, makes⟩ := reads
  obtain ⟨e, in_section, loads⟩ := exists_of_mem_mapM makes member
  unfold contents at inside
  split at inside
  · rename_i found
    cases inside
    have in_root := List.mem_of_find?_eq_some found
    exact ⟨e, Element.parts_subset in_root (Element.parts_subset in_section e.mem_parts_self), loads⟩
  · cases inside

/-- A lawful toolbox reads back from its element. -/
theorem Lawful.load_save (lawful : t.Lawful) : load t.save = .ok t := by
  have colors : Reads t.save colorsTag loadColor t.colors.toList :=
    ⟨_, rfl, mapM_map_ok fun entry _ => loadColor_save entry.1 entry.2⟩
  have styles : Reads t.save stylesTag loadStyle (t.styles.toList.map (·.2)) := by
    refine ⟨_, rfl, ?_⟩
    rw [lawful.sorted]
    refine mapM_map_ok fun style member => ?_
    obtain ⟨entry, inside, rfl⟩ := List.mem_map.mp member
    exact (lawful.of_mem inside).2.load_save
  have categories : Reads t.save categoriesTag loadCategory t.categories :=
    ⟨_, rfl, mapM_map_ok fun c member => (lawful.categories c member).load_save⟩
  exact load_ok_iff.mpr
    ⟨rfl, _, _, colors, styles, categories, (ofList_toList _).symm, lawful.byName_styles.symm⟩

/-- A toolbox that was loaded from an element without a key twice in it is lawful. -/
theorem lawful_of_load {root : Element} (distinct : ∀ part ∈ root.parts, (part.attributes.map (·.1)).Nodup)
    (loads : load root = .ok t) : t.Lawful := by
  obtain ⟨-, colors, styles, -, in_styles, in_categories, -, same_styles⟩ := load_ok_iff.mp loads
  refine ⟨fun key style found => ?_, fun c member => ?_⟩
  · -- whichever entry of a name counts, it was put under its own name
    rw [same_styles] at found
    obtain ⟨stored, member, same⟩ := List.mem_map.mp (mem_of_getElem?_ofList found)
    cases same
    obtain ⟨part, inside, made⟩ := in_styles.exists_part member
    exact ⟨rfl, Style.lawful_of_load (distinct part inside) made⟩
  · obtain ⟨part, -, made⟩ := in_categories.exists_part member
    exact Category.lawful_of_load made

theorem Lawful.merge (lawful : base.Lawful) (more : other.Lawful) : (base.merge other).Lawful := by
  rw [merge_eq]
  refine ⟨fun name style found => ?_, ?_⟩
  · rw [Std.ExtTreeMap.getElem?_union] at found
    rcases Option.or_eq_some_iff.mp found with new | ⟨-, kept⟩
    · exact more.styles name style new
    · exact lawful.styles name style kept
  · exact List.foldlRecOn (motive := fun categories => ∀ c ∈ categories, Category.Lawful c) _ _ lawful.categories
      fun _ so_far c member => lawful_mergeCategory so_far (more.categories c member)

/-- Toolboxes that are loaded, and those that come of merging them into one another. -/
inductive Obtained : Toolbox → Prop where
  | loaded {root : Element} {t : Toolbox} (distinct : ∀ part ∈ root.parts, (part.attributes.map (·.1)).Nodup)
      (loads : load root = .ok t) : Obtained t
  | merged {base other : Toolbox} (into : Obtained base) (merges : Obtained other) : Obtained (base.merge other)

theorem Obtained.lawful (obtained : t.Obtained) : t.Lawful := by
  induction obtained with
  | loaded distinct loads => exact lawful_of_load distinct loads
  | merged _ _ into merges => exact into.merge merges

end Toolbox

/-- A toolbox that was loaded, or comes of merging loaded ones, reads back from its element. -/
theorem saved_toolbox_loads {t : Toolbox} (obtained : t.Obtained) : Toolbox.load t.save = .ok t :=
  obtained.lawful.load_save

/-- A palette with a color, a style with an attribute that is not known, and a category of two templates. -/
def paletteOf (color category style : String) : Element :=
  ⟨toolboxTag, [],
    [⟨colorsTag, [], [⟨"Color", [("color", color), ("name", "Sky")], []⟩]⟩,
     ⟨stylesTag, [], [⟨"Style", [("shape", "round"), ("tooltip", ""), ("name", style), ("color", "Sky")], []⟩]⟩,
     ⟨categoriesTag, [], [⟨"Category", [("name", category)], [⟨"Log", [("style", style)], []⟩, ⟨"Break", [], []⟩]⟩]⟩]⟩

/-- Two palettes, the second of which is merged into the first: its color replaces one, and its templates go into
    the category of the same name, apart from the one whose style is there. -/
theorem saved_toolbox_loads_of_merged : ∃ base other : Toolbox,
    Toolbox.load (paletteOf " 10203040" "Flow" "log") = .ok base ∧
    Toolbox.load (paletteOf "#ffAA00" "FLOW" "print") = .ok other ∧
    (base.merge other).categories.map (·.templates.map (·.style)) = [["log", "", "print"]] ∧
    Toolbox.load (base.merge other).save = .ok (base.merge other) := by
  have loads : ∀ (color category style : String) (c : Color), Color.read? color = some c →
      ∃ t, Toolbox.load (paletteOf color category style) = .ok t ∧
        t.categories = [⟨category, none, [⟨style, ⟨"Log", [("style", style)], []⟩⟩, ⟨"", ⟨"Break", [], []⟩⟩]⟩] := by
    intro color category style c reads
    have color_ok : loadColor ⟨"Color", [("color", color), ("name", "Sky")], []⟩ = .ok ("Sky", c) := by
      simp [loadColor, required, Element.attribute?, List.lookup_cons, reads, bind, Except.bind, pure, Except.pure]
    have colors_ok := Document.mapM_ok_iff.mpr (.cons color_ok .nil)
    exact ⟨⟨_, _, _⟩, Toolbox.load_ok_iff.mpr
      ⟨rfl, [("Sky", c)], _, ⟨_, rfl, colors_ok⟩, ⟨_, rfl, rfl⟩, ⟨_, rfl, rfl⟩, rfl, rfl⟩, rfl⟩
  obtain ⟨base, loads_base, base_categories⟩ :=
    loads " 10203040" "Flow" "log" ⟨0x10, 0x20, 0x30, 0x40⟩ (by decide)
  obtain ⟨other, loads_other, other_categories⟩ :=
    loads "#ffAA00" "FLOW" "print" (.opaqueOf 0xff 0xaa 0x00) (by decide)
  have obtained : (base.merge other).Obtained :=
    .merged (.loaded (by decide) loads_base) (.loaded (by decide) loads_other)
  refine ⟨base, other, loads_base, loads_other, ?_, saved_toolbox_loads obtained⟩
  rw [Toolbox.merge_eq, base_categories, other_categories]
  rfl

end FlightBlocks.Palette
