import FlightBlocks.Proofs.Merging

/-!
# Several merges in a row

A toolbox that is merged again changes nothing (`Toolbox.merge_again`): once merged, each of its categories is covered
by the first one of its name. Two toolboxes can be merged one after the other, or the second into the first one and
the outcome then (`Toolbox.merge_assoc`), as long as no two categories of the first one share a name. The second may
repeat names and styles as it likes.
-/

namespace FlightBlocks.Palette

/-! ## Maps -/

section Maps

variable {β : Type}

theorem union_assoc (m n k : Std.ExtTreeMap String β) : m ∪ n ∪ k = m ∪ (n ∪ k) := by
  refine Std.ExtTreeMap.ext_getElem? fun key => ?_
  simp only [Std.ExtTreeMap.getElem?_union, Option.or_assoc]

theorem union_again (m n : Std.ExtTreeMap String β) : m ∪ n ∪ n = m ∪ n := by
  refine Std.ExtTreeMap.ext_getElem? fun key => ?_
  rw [Std.ExtTreeMap.getElem?_union, Std.ExtTreeMap.getElem?_union, ← Option.or_assoc, Option.or_self]

end Maps

/-! ## The same categories again -/

variable {present cs rest : List Category} {c d e : Category}

namespace Covers

/-- Merging a category that is covered changes nothing. -/
theorem mergeCategory_eq (covers : Covers present c) : mergeCategory present c = present := by
  obtain ⟨before, d, behind, rfl, earlier, same, held⟩ := covers.exists_first
  rw [mergeCategory_joined earlier same, Category.merge_eq, Category.lacking_eq_nil_iff.mpr held, Category.extend_nil]

/-- All templates of a category that is covered are skipped. -/
theorem absorbCategory_snd (covers : Covers present c) (report : MergeReport) :
    ((absorbCategory present c).run report).2 = report.count 0 c.templates.length := by
  obtain ⟨before, d, behind, rfl, earlier, same, held⟩ := covers.exists_first
  rw [absorbCategory_joined earlier same, Category.lacking_eq_nil_iff.mpr held, List.length_nil, Nat.sub_zero]

end Covers

theorem foldl_mergeCategory_covered (covered : ∀ c ∈ cs, Covers present c) :
    cs.foldl mergeCategory present = present := by
  induction cs with
  | nil => rfl
  | cons c rest ih =>
    obtain ⟨here, others⟩ := List.forall_mem_cons.mp covered
    rw [List.foldl_cons, here.mergeCategory_eq, ih others]

theorem foldlM_absorbCategory_covered (covered : ∀ c ∈ cs, Covers present c) (start : MergeReport) :
    ((cs.foldlM absorbCategory present).run start).2 = start.count 0 (templateCount cs) := by
  induction cs generalizing start with
  | nil => rfl
  | cons c rest ih =>
    obtain ⟨here, others⟩ := List.forall_mem_cons.mp covered
    rw [foldlM_run_cons, absorbCategory_run_fst, here.mergeCategory_eq, here.absorbCategory_snd, ih others]
    simp only [MergeReport.count, templateCount, Nat.add_zero, Nat.add_assoc]

/-! ## One category -/

namespace Category

/-- A template can be added before merging or afterwards, whether it is skipped or not. -/
theorem merge_add (c d : Category) (t : Template) : c.merge (d.add t) = (c.merge d).add t := by
  by_cases held : d.hasStyle t.style
  · -- what `d` has already `c` has after merging `d`
    have merged : (c.merge d).hasStyle t.style := by
      rw [merge_eq, hasStyle_extend_lacking]
      exact .inr (hasStyle_iff.mp held)
    rw [add_of_held held, add_of_held merged]
  · rw [add_of_not_held held, merge, extend, List.foldl_append]
    rfl

theorem merge_merge (c d e : Category) : c.merge (d.merge e) = (c.merge d).merge e :=
  (List.foldl_hom c.merge fun d t => (merge_add c d t).symm).symm

end Category

/-! ## One category after another -/

/-- A category that takes over another one of its name before it is merged may as well be followed by it. -/
theorem mergeCategory_merge (present : List Category) (same : c.Alike e) :
    mergeCategory present (c.merge e) = mergeCategory (mergeCategory present c) e := by
  rcases new_or_first present c with new | ⟨before, d, behind, rfl, earlier, found⟩
  · have nowhere : ∀ d ∈ present, ¬ d.Alike e := fun d member alike => new d member (alike.trans same.symm)
    rw [mergeCategory_new new, mergeCategory_joined nowhere same]
    exact mergeCategory_new fun d member alike => new d member (Category.alike_merge.mp alike)
  · have nowhere : ∀ d ∈ before, ¬ d.Alike e := fun d member alike => earlier d member (alike.trans same.symm)
    rw [mergeCategory_joined earlier found,
      mergeCategory_joined nowhere (Category.merge_alike.mpr (found.trans same)), ← Category.merge_merge]
    exact mergeCategory_joined (fun d member alike => earlier d member (Category.alike_merge.mp alike))
      (Category.alike_merge.mpr found)

/-- Categories of two names can be merged in either order, when one of the names is there: at most one category is
    added then. -/
theorem mergeCategory_comm (there : ∃ d ∈ present, d.Alike e) (differs : ¬ c.Alike e) :
    mergeCategory (mergeCategory present e) c = mergeCategory (mergeCategory present c) e := by
  induction present with
  | nil => simp at there
  | cons first rest ih =>
    by_cases is_e : first.Alike e
    · have not_c : ¬ first.Alike c := fun is_c => differs (is_c.symm.trans is_e)
      rw [mergeCategory_here is_e, mergeCategory_past not_c, mergeCategory_here is_e]
      exact mergeCategory_past (mt Category.merge_alike.mp not_c)
    · have further : ∃ d ∈ rest, d.Alike e := by simpa [is_e] using there
      rw [mergeCategory_past is_e]
      by_cases is_c : first.Alike c
      · rw [mergeCategory_here is_c, mergeCategory_here is_c]
        exact (mergeCategory_past (mt Category.merge_alike.mp is_e)).symm
      · rw [mergeCategory_past is_c, mergeCategory_past is_c, mergeCategory_past is_e, ih further]

theorem foldl_mergeCategory_comm (there : ∃ d ∈ present, d.Alike e) (differ : ∀ c ∈ cs, ¬ c.Alike e) :
    cs.foldl mergeCategory (mergeCategory present e) = mergeCategory (cs.foldl mergeCategory present) e := by
  induction cs generalizing present with
  | nil => rfl
  | cons c rest ih =>
    obtain ⟨differs, others⟩ := List.forall_mem_cons.mp differ
    have still_there : ∃ d ∈ mergeCategory present c, d.Alike e :=
      (exists_alike_mergeCategory present c e).mpr (.inl there)
    rw [List.foldl_cons, mergeCategory_comm there differs, ih still_there others, List.foldl_cons]

/-! ## One list of categories after another -/

/-- No two categories have one name, up to the case of ASCII letters. -/
def DistinctNames (cs : List Category) : Prop := cs.Pairwise fun c d => ¬ c.Alike d

instance : DecidablePred DistinctNames := fun cs => inferInstanceAs (Decidable (cs.Pairwise fun c d => ¬ c.Alike d))

theorem DistinctNames.mergeCategory (distinct : DistinctNames cs) (e : Category) :
    DistinctNames (mergeCategory cs e) := by
  rcases new_or_first cs e with new | ⟨before, d, behind, rfl, earlier, same⟩
  · rw [mergeCategory_new new]
    exact List.pairwise_append.mpr ⟨distinct, List.pairwise_singleton _ _, by simpa using new⟩
  · rw [mergeCategory_joined earlier same]
    unfold DistinctNames at distinct ⊢
    simpa only [List.pairwise_append, List.pairwise_cons, List.forall_mem_cons, Category.merge_alike,
      Category.alike_merge] using distinct

/-- A category may be merged into a list before that is merged, or after it. -/
theorem foldl_mergeCategory_mergeCategory (distinct : DistinctNames cs) (present : List Category) (e : Category) :
    (mergeCategory cs e).foldl mergeCategory present = mergeCategory (cs.foldl mergeCategory present) e := by
  induction cs generalizing present with
  | nil => rfl
  | cons first rest ih =>
    obtain ⟨differ, others⟩ := List.pairwise_cons.mp distinct
    by_cases same : first.Alike e
    · -- the category joins `first`; nothing behind is of its name, so it may wait until all are merged
      have differ : ∀ c ∈ rest, ¬ c.Alike e := fun c member alike => differ c member (same.trans alike.symm)
      have there : ∃ d ∈ mergeCategory present first, d.Alike e :=
        (exists_alike_mergeCategory present first e).mpr (.inr same)
      rw [mergeCategory_here same, List.foldl_cons, List.foldl_cons, mergeCategory_merge present same,
        foldl_mergeCategory_comm there differ]
    · rw [mergeCategory_past same, List.foldl_cons, List.foldl_cons, ih others]

theorem foldl_mergeCategory_foldl (distinct : DistinctNames cs) (present more : List Category) :
    more.foldl mergeCategory (cs.foldl mergeCategory present) =
      (more.foldl mergeCategory cs).foldl mergeCategory present := by
  induction more generalizing cs with
  | nil => rfl
  | cons e rest ih =>
    rw [List.foldl_cons, List.foldl_cons, ← foldl_mergeCategory_mergeCategory distinct,
      ih (distinct.mergeCategory e)]

/-! ## Toolboxes -/

namespace Toolbox

/-- Merging a toolbox again changes nothing, and all its templates are skipped. -/
theorem merge_again (base other : Toolbox) :
    (base.merge other).merge other = base.merge other ∧
    (base.merge other).mergeReport other =
      { colors := other.colors.size
        styles := other.styles.size
        categoriesAdded := 0
        templatesAdded := 0
        duplicatesSkipped := templateCount other.categories } := by
  have covered : ∀ c ∈ other.categories, Covers (base.merge other).categories c :=
    (absorbs_merge base other).reached
  constructor
  · have same := foldl_mergeCategory_covered covered
    simp only [merge_eq] at same ⊢
    rw [union_again, union_again, same]
  · rw [mergeReport_eq, foldlM_absorbCategory_covered covered]
    simp only [MergeReport.count, Nat.zero_add]

/-- Two toolboxes, the first of which has no name twice, can be merged one after the other or together. -/
theorem merge_assoc (base : Toolbox) {first : Toolbox} (distinct : DistinctNames first.categories) (second : Toolbox) :
    (base.merge first).merge second = base.merge (first.merge second) := by
  simp only [merge_eq]
  rw [union_assoc, union_assoc, foldl_mergeCategory_foldl distinct]

/-- A base in which a name stands twice, and a second toolbox in which names and styles do. -/
theorem merge_assoc_of_repeating :
    let base := ofStyles [("Flow", ["if"]), ("FLOW", ["log"])]
    let first := ofStyles [("Text", ["", "split", ""]), ("flow", ["log", "if"])]
    let second := ofStyles [("TEXT", ["", "join"]), ("text", ["join", "trim"]), ("Math", ["add", "add"])]
    DistinctNames first.categories ∧ (base.merge first).merge second = base.merge (first.merge second) ∧
    ((base.merge first).merge second).categories.map (fun c => (c.name, c.templates.map (·.style))) =
      [("Flow", ["if", "log"]), ("FLOW", ["log"]), ("Text", ["", "split", "", "join", "trim"]),
        ("Math", ["add", "add"])] := by
  intro base first second
  have distinct : DistinctNames first.categories := by decide
  exact ⟨distinct, merge_assoc base distinct second, by decide⟩

/-- Where a name stands twice in the first toolbox, the two ways may put templates into another order. -/
example :
    let first := ofStyles [("Text", ["split"]), ("TEXT", ["trim"])]
    let second := ofStyles [("Text", ["join"])]
    ((empty.merge first).merge second).categories.map (·.templates.map (·.style)) = [["split", "trim", "join"]] ∧
    (empty.merge (first.merge second)).categories.map (·.templates.map (·.style)) = [["split", "join", "trim"]] := by
  decide

end Toolbox

end FlightBlocks.Palette
