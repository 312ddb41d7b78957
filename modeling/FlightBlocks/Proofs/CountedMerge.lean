import FlightBlocks.Palette.Merge

/-!
# Merging without its report

What a merge gives does not depend on what it counts. Templates and categories that are merged one after the other are
plain folds (`Category.merge`, `mergeCategory`), and the entries of a map that are put into another one are their union
(`Toolbox.merge_eq`).
-/

namespace FlightBlocks.Palette

/-! ## Folds -/

section Folds

variable {α β σ : Type} {step : β → α → StateM σ β}

theorem foldlM_run_cons (x : α) (rest : List α) (b : β) (s : σ) : ((x :: rest).foldlM step b).run s =
    (rest.foldlM step ((step b x).run s).1).run ((step b x).run s).2 := by
  rw [List.foldlM_cons]
  rfl

/-- A fold that carries a state along gives what it gives without the state, if each of its steps does. -/
theorem foldlM_run_fst {plain : β → α → β} (same : ∀ b a s, ((step b a).run s).1 = plain b a) (xs : List α) (b : β)
    (s : σ) : ((xs.foldlM step b).run s).1 = xs.foldl plain b := by
  induction xs generalizing b s with
  | nil => rfl
  | cons x rest ih => rw [foldlM_run_cons, ih, same, List.foldl_cons]

end Folds

/-! ## Categories -/

namespace Category

variable {c : Category} {t : Template}

/-- Adds a template unless its style is there. -/
def add (c : Category) (t : Template) : Category :=
  if c.hasStyle t.style then c else { c with templates := c.templates ++ [t] }

/-- Adds the templates of another category in order. -/
def merge (c other : Category) : Category := other.templates.foldl add c

theorem takeOver_run_fst (c : Category) (t : Template) (report : MergeReport) :
    ((c.takeOver t).run report).1 = c.add t := by
  unfold takeOver add
  split
  · rfl
  · rfl

theorem absorb_run_fst (c other : Category) (report : MergeReport) : ((c.absorb other).run report).1 = c.merge other :=
  foldlM_run_fst takeOver_run_fst ..

end Category

/-- Merges a category into the first one of its name, or adds it at the end. -/
def mergeCategory (categories : List Category) (c : Category) : List Category :=
  match categories with
  | [] => [c]
  | first :: rest =>
    if Text.sameIgnoringCase first.name c.name then first.merge c :: rest
    else first :: mergeCategory rest c

theorem absorbCategory_run_fst (categories : List Category) (c : Category) (report : MergeReport) :
    ((absorbCategory categories c).run report).1 = mergeCategory categories c := by
  induction categories with
  | nil => rfl
  | cons first rest ih =>
    unfold absorbCategory mergeCategory
    split
    · rw [← first.absorb_run_fst c report]
      rfl
    · rw [← ih]
      rfl

/-! ## Maps -/

section Maps

variable {β : Type} (m entries : Std.ExtTreeMap String β)

theorem insertMany_toList : m.insertMany entries.toList = m ∪ entries := by
  refine Std.ExtTreeMap.ext_getElem? fun key => ?_
  rw [Std.ExtTreeMap.getElem?_union]
  cases found : entries[key]? with
  | some value =>
    exact Std.ExtTreeMap.getElem?_insertMany_list_of_mem Std.ReflCmp.compare_self
      Std.ExtTreeMap.distinct_keys_toList (Std.ExtTreeMap.mem_toList_iff_getElem?_eq_some.mpr found)
  | none =>
    have absent : key ∉ entries := by simp [Std.ExtTreeMap.mem_iff_isSome_getElem?, found]
    refine Std.ExtTreeMap.getElem?_insertMany_list_of_contains_eq_false ?_
    simpa using absent

theorem foldl_insert_toList : entries.toList.foldl (fun m entry => m.insert entry.1 entry.2) m = m ∪ entries := by
  rw [← insertMany_toList]
  induction entries.toList generalizing m with
  | nil => rfl
  | cons entry rest ih => rw [List.foldl_cons, ih, ← Std.ExtTreeMap.insertMany_cons]

theorem insertAll_run_fst (count : MergeReport → MergeReport) (report : MergeReport) :
    ((insertAll m entries count).run report).1 = m ∪ entries := by
  rw [insertAll, Std.ExtTreeMap.foldlM_eq_foldlM_toList, ← foldl_insert_toList]
  refine foldlM_run_fst (fun m entry report => ?_) ..
  rfl

/-- Each entry is counted once. -/
theorem insertAll_run_snd (count : Nat → MergeReport → MergeReport) (none : ∀ report, count 0 report = report)
    (one_more : ∀ n report, count (n + 1) report = count n (count 1 report)) (report : MergeReport) :
    ((insertAll m entries (count 1)).run report).2 = count entries.size report := by
  rw [insertAll, Std.ExtTreeMap.foldlM_eq_foldlM_toList, ← Std.ExtTreeMap.length_toList]
  induction entries.toList generalizing m report with
  | nil => exact (none report).symm
  | cons entry rest ih =>
    rw [foldlM_run_cons, List.length_cons, one_more]
    exact ih _ _

end Maps

namespace Toolbox

/-- What merging gives, part by part. -/
theorem merge_eq (base other : Toolbox) : base.merge other =
    ⟨base.colors ∪ other.colors, base.styles ∪ other.styles, other.categories.foldl mergeCategory base.categories⟩ := by
  have colors := insertAll_run_fst base.colors other.colors
  have styles := insertAll_run_fst base.styles other.styles
  have categories := foldlM_run_fst absorbCategory_run_fst other.categories base.categories
  rw [← colors, ← styles, ← categories]
  rfl

/-- The report of a merge is that of its categories, which begins with the colors and the styles. -/
theorem mergeReport_eq (base other : Toolbox) : base.mergeReport other =
    ((other.categories.foldlM absorbCategory base.categories).run
      { colors := other.colors.size, styles := other.styles.size }).2 := by
  have colors : ((insertAll base.colors other.colors fun report => { report with colors := report.colors + 1 }).run
      {}).2 = { colors := 0 + other.colors.size } :=
    insertAll_run_snd _ _ (fun n report => { report with colors := report.colors + n }) (fun _ => rfl)
      (fun n report => by rw [Nat.add_comm n, Nat.add_assoc]) _
  have styles : ((insertAll base.styles other.styles fun report => { report with styles := report.styles + 1 }).run
      { colors := other.colors.size }).2 = { colors := other.colors.size, styles := 0 + other.styles.size } :=
    insertAll_run_snd _ _ (fun n report => { report with styles := report.styles + n }) (fun _ => rfl)
      (fun n report => by rw [Nat.add_comm n, Nat.add_assoc]) _
  rw [Nat.zero_add] at colors styles
  rw [← styles, ← colors]
  rfl

end Toolbox

end FlightBlocks.Palette
