import FlightBlocks.Proofs.CountedMerge
import Mathlib.Data.List.Infix
import Mathlib.Data.List.Nodup

/-!
# What merging changes

Merging goes through the categories of the other toolbox in order. One of a name that is not there yet is added whole;
any other hands its templates to the first category of its name, apart from those whose style is there by the time
they are reached (`Absorbs`). What merging keeps and what its report counts are read off this
(`Toolbox.merge_accounts`). A category that is added whole brings its templates as they are, so it is the only way in
which a style gets into a category twice (`Toolbox.distinct_merge_iff`).
-/

namespace FlightBlocks.Palette

open Markup (Element)

/-! ## Entries that are like nothing before them -/

section Fresh

variable {α : Type} (alike : α → α → Prop) [DecidableRel alike]

/-- The entries of a list that are like nothing before them: neither like an entry of `known` nor like one further
    ahead in the list. -/
def fresh (known xs : List α) : List α :=
  (xs.inits.zip xs).filterMap fun (ahead, x) => if ∃ y ∈ known ++ ahead, alike y x then none else some x

theorem length_fresh_le (known xs : List α) : (fresh alike known xs).length ≤ xs.length := by
  refine (List.length_filterMap_le _ _).trans ?_
  rw [List.length_zip, List.length_inits]
  exact Nat.min_le_right _ _

variable {alike}

theorem fresh_cons (known : List α) (x : α) (xs : List α) :
    fresh alike known (x :: xs) =
      (if ∃ y ∈ known, alike y x then [] else [x]) ++ fresh alike (known ++ [x]) xs := by
  have behind : ((xs.inits.map (x :: ·)).zip xs).filterMap (fun (ahead, y) =>
      if ∃ z ∈ known ++ ahead, alike z y then none else some y) = fresh alike (known ++ [x]) xs := by
    rw [List.zip_map_left, List.filterMap_map, fresh]
    refine List.filterMap_congr fun (ahead, y) _ => ?_
    have longer : known ++ x :: ahead = known ++ [x] ++ ahead := List.append_cons known x ahead
    simp only [Function.comp_apply, Prod.map_apply, id_eq, longer]
  rw [← behind, fresh, List.inits_cons, List.zip_cons_cons, List.filterMap_cons]
  by_cases found : ∃ y ∈ known, alike y x
  · simp [found]
  · simp [found]

/-- What is fresh depends only on what the known entries are like. -/
theorem fresh_congr {known others : List α} (same : ∀ x, (∃ y ∈ known, alike y x) ↔ ∃ y ∈ others, alike y x)
    (xs : List α) : fresh alike known xs = fresh alike others xs := by
  refine List.filterMap_congr fun (ahead, x) _ => ?_
  have agree : (∃ y ∈ known ++ ahead, alike y x) ↔ ∃ y ∈ others ++ ahead, alike y x := by
    simp only [List.mem_append, or_and_right, exists_or, same]
  simp only [agree]

end Fresh

/-! ## One category -/

/-- Templates of one style. -/
def Template.Alike (t u : Template) : Prop := t.style = u.style

instance : DecidableRel Template.Alike := fun t u => inferInstanceAs (Decidable (t.style = u.style))

namespace Category

variable {c d e other : Category}

/-- Categories of one name, up to the case of ASCII letters. -/
def Alike (c d : Category) : Prop := Text.sameIgnoringCase c.name d.name

instance : DecidableRel Alike := fun c d => inferInstanceAs (Decidable (Text.sameIgnoringCase c.name d.name = true))

theorem alike_iff : c.Alike d ↔ c.name.toList.map Char.toLower = d.name.toList.map Char.toLower := beq_iff_eq

theorem alike_refl (c : Category) : c.Alike c := alike_iff.mpr rfl

theorem Alike.symm (same : c.Alike d) : d.Alike c := alike_iff.mpr (alike_iff.mp same).symm

theorem Alike.trans (first : c.Alike d) (second : d.Alike e) : c.Alike e :=
  alike_iff.mpr ((alike_iff.mp first).trans (alike_iff.mp second))

/-- A category with more templates at its end. -/
def extend (c : Category) (more : List Template) : Category := { c with templates := c.templates ++ more }

@[simp] theorem extend_nil (c : Category) : c.extend [] = c := by simp [extend]

@[simp] theorem extend_extend (c : Category) (more rest : List Template) :
    (c.extend more).extend rest = c.extend (more ++ rest) := by simp [extend]

/-- The templates of a list that a category lacks: those whose style neither the category has nor a template further
    ahead in the list. -/
def lacking (c : Category) (ts : List Template) : List Template := fresh Template.Alike c.templates ts

variable {t : Template}

theorem hasStyle_iff : c.hasStyle t.style ↔ ∃ u ∈ c.templates, u.Alike t := by
  simp [hasStyle, Template.Alike]

theorem hasStyle_of_mem (member : t ∈ c.templates) : c.hasStyle t.style := hasStyle_iff.mpr ⟨t, member, rfl⟩

theorem hasStyle_extend {more : List Template} :
    (c.extend more).hasStyle t.style ↔ c.hasStyle t.style ∨ ∃ u ∈ more, u.Alike t := by
  simp only [hasStyle_iff, extend, List.mem_append, or_and_right, exists_or]

theorem add_of_held (held : c.hasStyle t.style) : c.add t = c := if_pos held

theorem add_of_not_held (unheld : ¬ c.hasStyle t.style) : c.add t = c.extend [t] := if_neg unheld

theorem lacking_of_held (held : c.hasStyle t.style) (ts : List Template) :
    c.lacking (t :: ts) = c.lacking ts := by
  obtain ⟨u, member, same⟩ := hasStyle_iff.mp held
  rw [lacking, fresh_cons, if_pos ⟨u, member, same⟩, List.nil_append]
  refine fresh_congr (fun v => ⟨?_, ?_⟩) ts
  · rintro ⟨w, inside, alike⟩
    rcases List.mem_append.mp inside with before | here
    · exact ⟨w, before, alike⟩
    · rw [List.mem_singleton.mp here] at alike
      exact ⟨u, member, same.trans alike⟩
  · rintro ⟨w, inside, alike⟩
    exact ⟨w, List.mem_append_left _ inside, alike⟩

theorem lacking_of_not_held (unheld : ¬ c.hasStyle t.style) (ts : List Template) :
    c.lacking (t :: ts) = t :: (c.extend [t]).lacking ts := by
  rw [lacking, fresh_cons, if_neg (mt hasStyle_iff.mpr unheld)]
  rfl

/-- Merging puts the templates that are lacking at the end. -/
theorem merge_eq (c other : Category) : c.merge other = c.extend (c.lacking other.templates) := by
  rw [merge]
  induction other.templates generalizing c with
  | nil => exact (extend_nil c).symm
  | cons t rest ih =>
    rw [List.foldl_cons]
    by_cases held : c.hasStyle t.style
    · rw [add_of_held held, ih, lacking_of_held held]
    · rw [add_of_not_held held, ih, lacking_of_not_held held, extend_extend]
      rfl

/-- Merging leaves a category its name. -/
@[simp] theorem merge_name (c other : Category) : (c.merge other).name = c.name := by rw [merge_eq]; rfl

@[simp] theorem merge_alike : (c.merge other).Alike e ↔ c.Alike e := by rw [Alike, merge_name]; rfl

@[simp] theorem alike_merge : e.Alike (c.merge other) ↔ e.Alike c := by rw [Alike, merge_name]; rfl

/-- Nothing is lacking where every style is held, and only there. -/
theorem lacking_eq_nil_iff {ts : List Template} : c.lacking ts = [] ↔ ∀ t ∈ ts, c.hasStyle t.style := by
  induction ts generalizing c with
  | nil => simp [lacking, fresh]
  | cons t rest ih =>
    by_cases held : c.hasStyle t.style
    · simp [lacking_of_held held, ih, held]
    · simp [lacking_of_not_held held, held]

/-- A category that takes over what it lacks has its own styles and those of the list. -/
theorem hasStyle_extend_lacking {ts : List Template} :
    (c.extend (c.lacking ts)).hasStyle t.style ↔ c.hasStyle t.style ∨ ∃ u ∈ ts, u.Alike t := by
  induction ts generalizing c with
  | nil => simp [lacking, fresh]
  | cons u rest ih =>
    have split : (∃ v ∈ u :: rest, v.Alike t) ↔ u.Alike t ∨ ∃ v ∈ rest, v.Alike t := by simp
    by_cases held : c.hasStyle u.style
    · have again : u.Alike t → c.hasStyle t.style := fun same => same ▸ held
      rw [lacking_of_held held, ih, split, ← or_assoc, or_iff_left_of_imp again]
    · rw [lacking_of_not_held held, ← List.singleton_append, ← extend_extend, ih, hasStyle_extend, or_assoc, split]
      simp

end Category

/-! ## One category into a list -/

variable {present rest cs whole last before behind : List Category} {c d first : Category}

theorem mergeCategory_here (same : first.Alike c) : mergeCategory (first :: rest) c = first.merge c :: rest :=
  if_pos same

theorem mergeCategory_past (other : ¬ first.Alike c) :
    mergeCategory (first :: rest) c = first :: mergeCategory rest c :=
  if_neg other

theorem mergeCategory_new (new : ∀ d ∈ present, ¬ d.Alike c) : mergeCategory present c = present ++ [c] := by
  induction present with
  | nil => rfl
  | cons first rest ih =>
    obtain ⟨other, others⟩ := List.forall_mem_cons.mp new
    rw [mergeCategory_past other, ih others, List.cons_append]

theorem mergeCategory_joined (earlier : ∀ e ∈ before, ¬ e.Alike c) (same : d.Alike c) :
    mergeCategory (before ++ d :: behind) c = before ++ d.merge c :: behind := by
  induction before with
  | nil => exact mergeCategory_here same
  | cons first rest ih =>
    obtain ⟨other, others⟩ := List.forall_mem_cons.mp earlier
    rw [List.cons_append, mergeCategory_past other, ih others, List.cons_append]

/-- A category is of no name that is there, or there is a first one of its name. -/
theorem new_or_first (present : List Category) (c : Category) :
    (∀ d ∈ present, ¬ d.Alike c) ∨ ∃ before d behind, present = before ++ d :: behind ∧
      (∀ e ∈ before, ¬ e.Alike c) ∧ d.Alike c := by
  induction present with
  | nil => exact .inl (by simp)
  | cons first rest ih =>
    by_cases same : first.Alike c
    · exact .inr ⟨[], first, rest, rfl, by simp, same⟩
    · rcases ih with new | ⟨before, d, behind, rfl, earlier, found⟩
      · exact .inl (List.forall_mem_cons.mpr ⟨same, new⟩)
      · exact .inr ⟨first :: before, d, behind, rfl, List.forall_mem_cons.mpr ⟨same, earlier⟩, found⟩

theorem find?_new (new : ∀ d ∈ present, ¬ d.Alike c) :
    present.find? (fun d => Text.sameIgnoringCase d.name c.name) = none :=
  List.find?_eq_none.mpr new

theorem find?_here (same : d.Alike c) :
    (d :: rest).find? (fun e => Text.sameIgnoringCase e.name c.name) = some d :=
  List.find?_cons_of_pos same

theorem find?_past (other : ¬ d.Alike c) :
    (d :: rest).find? (fun e => Text.sameIgnoringCase e.name c.name) =
      rest.find? fun e => Text.sameIgnoringCase e.name c.name :=
  List.find?_cons_of_neg other

theorem find?_joined (earlier : ∀ e ∈ before, ¬ e.Alike c) (same : d.Alike c) :
    (before ++ d :: behind).find? (fun e => Text.sameIgnoringCase e.name c.name) = some d := by
  rw [List.find?_append, find?_new earlier, Option.none_or, find?_here same]

/-- Merging a category brings in its name, unless it is there, and takes none away. -/
theorem exists_alike_mergeCategory (present : List Category) (c e : Category) :
    (∃ d ∈ mergeCategory present c, d.Alike e) ↔ (∃ d ∈ present, d.Alike e) ∨ c.Alike e := by
  rcases new_or_first present c with new | ⟨before, d, behind, rfl, earlier, same⟩
  · simp [mergeCategory_new new, or_and_right, exists_or]
  · simp only [mergeCategory_joined earlier same, List.mem_append, List.mem_cons, or_and_right, exists_or,
      exists_eq_left, Category.merge_alike]
    constructor
    · exact .inl
    · rintro (inside | merged)
      · exact inside
      · exact .inr (.inl (same.trans merged))

/-! ## All categories in order -/

/-- What merging categories into a list in order leads to. A category of a name that is not there is added whole, and
    the third list holds those. Any other hands the templates that are lacking to the first one of its name. -/
inductive Absorbs : List Category → List Category → List Category → List Category → Prop where
  | done {present : List Category} : Absorbs present [] [] present
  | whole {present cs whole last : List Category} {c : Category} (new : ∀ d ∈ present, ¬ d.Alike c)
      (rest : Absorbs (present ++ [c]) cs whole last) : Absorbs present (c :: cs) (c :: whole) last
  | joined {before behind cs whole last : List Category} {c d : Category} (earlier : ∀ e ∈ before, ¬ e.Alike c)
      (same : d.Alike c) (rest : Absorbs (before ++ d.extend (d.lacking c.templates) :: behind) cs whole last) :
      Absorbs (before ++ d :: behind) (c :: cs) whole last

/-- Once a category is merged, its name is known, whether it was added whole or not. -/
theorem fresh_mergeCategory (present : List Category) (c : Category) (cs : List Category) :
    fresh Category.Alike (present ++ [c]) cs = fresh Category.Alike (mergeCategory present c) cs := by
  refine fresh_congr (fun e => ?_) cs
  rw [exists_alike_mergeCategory]
  simp [or_and_right, exists_or]

/-- The categories that are added whole are those of a name that is not there and that no earlier one has. -/
theorem absorbs_foldl (present cs : List Category) :
    Absorbs present cs (fresh Category.Alike present cs) (cs.foldl mergeCategory present) := by
  induction cs generalizing present with
  | nil => exact .done
  | cons c rest ih =>
    rw [fresh_cons, fresh_mergeCategory, List.foldl_cons]
    have absorbs := ih (mergeCategory present c)
    rcases new_or_first present c with new | ⟨before, d, behind, rfl, earlier, same⟩
    · rw [if_neg fun ⟨d, member, alike⟩ => new d member alike]
      rw [mergeCategory_new new] at absorbs ⊢
      exact .whole new absorbs
    · rw [if_pos ⟨d, List.mem_append_right _ List.mem_cons_self, same⟩]
      rw [mergeCategory_joined earlier same, Category.merge_eq] at absorbs ⊢
      exact .joined earlier same absorbs

namespace Absorbs

/-- The categories that were there keep their places, names, colors and templates; what is new comes behind. -/
theorem kept (absorbs : Absorbs present cs whole last) {i : Nat} (found : present[i]? = some d) :
    ∃ more, last[i]? = some (d.extend more) := by
  induction absorbs generalizing d with
  | done => exact ⟨[], by rw [found, Category.extend_nil]⟩
  | whole _ _ ih =>
    have inside := (List.getElem?_eq_some_iff.mp found).1
    exact ih (by rw [List.getElem?_append_left inside, found])
  | @joined before behind _ _ _ c first _ _ _ ih =>
    by_cases place : i = before.length
    · have first_eq : first = d := by simpa [place] using found
      obtain ⟨more, later⟩ := ih (d := first.extend (first.lacking c.templates)) (by simp [place])
      exact ⟨_, by rw [later, first_eq, Category.extend_extend]⟩
    · refine ih ?_
      rw [← found]
      simp only [List.getElem?_append, List.getElem?_cons]
      split
      · rfl
      · rw [if_neg (by omega), if_neg (by omega)]

/-- The list grows by the categories that are added whole. -/
theorem length_eq (absorbs : Absorbs present cs whole last) : last.length = present.length + whole.length := by
  induction absorbs with
  | done => rfl
  | whole _ _ ih => rw [ih]; simp only [List.length_append, List.length_cons, List.length_nil]; omega
  | joined _ _ _ ih => rw [ih]; simp only [List.length_append, List.length_cons]

end Absorbs

/-! ## Where the styles end up -/

/-- The first category of a name has all the styles that another of this name has. -/
def Covers (present : List Category) (c : Category) : Prop :=
  ∃ d, present.find? (fun e => Text.sameIgnoringCase e.name c.name) = some d ∧ ∀ t ∈ c.templates, d.hasStyle t.style

namespace Covers

theorem of_first (earlier : ∀ e ∈ before, ¬ e.Alike c) (same : d.Alike c)
    (held : ∀ t ∈ c.templates, d.hasStyle t.style) : Covers (before ++ d :: behind) c :=
  ⟨d, find?_joined earlier same, held⟩

theorem exists_first (covers : Covers present c) : ∃ before d behind, present = before ++ d :: behind ∧
    (∀ e ∈ before, ¬ e.Alike c) ∧ d.Alike c ∧ ∀ t ∈ c.templates, d.hasStyle t.style := by
  obtain ⟨d, found, held⟩ := covers
  obtain ⟨same, before, behind, rfl, earlier⟩ := List.find?_eq_some_iff_append.mp found
  exact ⟨before, d, behind, rfl, fun e member => by simpa [Category.Alike] using earlier e member, same, held⟩

theorem append (covers : Covers present c) (more : List Category) : Covers (present ++ more) c := by
  obtain ⟨d, found, held⟩ := covers
  exact ⟨d, by rw [List.find?_append, found, Option.some_or], held⟩

theorem extend (covers : Covers (before ++ d :: behind) c) (more : List Template) :
    Covers (before ++ d.extend more :: behind) c := by
  obtain ⟨e, found, held⟩ := covers
  rw [List.find?_append] at found
  unfold Covers
  rw [List.find?_append]
  rcases Option.or_eq_some_iff.mp found with ahead | ⟨none_ahead, found⟩
  · exact ⟨e, by rw [ahead, Option.some_or], held⟩
  · rw [none_ahead, Option.none_or]
    by_cases same : d.Alike c
    · rw [find?_here same] at found
      cases found
      exact ⟨d.extend more, find?_here same, fun t member =>
        Category.hasStyle_extend.mpr (.inl (held t member))⟩
    · rw [find?_past same] at found
      exact ⟨e, (find?_past (d := d.extend more) same).trans found, held⟩

end Covers

namespace Absorbs

theorem covers (absorbs : Absorbs present cs whole last) (covers : Covers present c) : Covers last c := by
  induction absorbs with
  | done => exact covers
  | whole _ _ ih => exact ih (covers.append _)
  | joined _ _ _ ih => exact ih (covers.extend _)

/-- Every category that was merged is covered in the end. -/
theorem reached (absorbs : Absorbs present cs whole last) : ∀ c ∈ cs, Covers last c := by
  induction absorbs with
  | done => simp
  | whole new rest ih =>
    refine List.forall_mem_cons.mpr ⟨rest.covers ?_, ih⟩
    exact .of_first new (Category.alike_refl _) fun t member => Category.hasStyle_of_mem member
  | joined earlier same rest ih =>
    refine List.forall_mem_cons.mpr ⟨rest.covers ?_, ih⟩
    exact .of_first earlier same fun t member => Category.hasStyle_extend_lacking.mpr (.inr ⟨t, member, rfl⟩)

end Absorbs

/-! ## Styles that stand twice -/

/-- No style stands twice among the templates of a category. -/
def Category.Distinct (c : Category) : Prop := (c.templates.map (·.style)).Nodup

instance : DecidablePred Category.Distinct := fun c =>
  inferInstanceAs (Decidable (c.templates.map (·.style)).Nodup)

namespace Category

/-- What a category takes over one by one never repeats a style, nor does it mend one that stands there twice. -/
theorem distinct_extend_lacking (c : Category) (ts : List Template) :
    (c.extend (c.lacking ts)).Distinct ↔ c.Distinct := by
  induction ts generalizing c with
  | nil => rw [lacking, fresh, List.zip_nil_right, List.filterMap_nil, extend_nil]
  | cons t rest ih =>
    by_cases held : c.hasStyle t.style
    · rw [lacking_of_held held, ih]
    · rw [lacking_of_not_held held, ← List.singleton_append, ← extend_extend, ih]
      have unseen : t.style ∉ c.templates.map (·.style) := by
        intro again
        obtain ⟨u, member, same⟩ := List.mem_map.mp again
        exact held (hasStyle_iff.mpr ⟨u, member, same⟩)
      rw [Distinct, extend, List.map_append, List.map_singleton, ← List.concat_eq_append, List.nodup_concat]
      exact and_iff_right unseen

end Category

/-- Exactly the categories that are added whole bring new repetitions of styles. -/
theorem Absorbs.distinct_iff (absorbs : Absorbs present cs whole last) :
    (∀ d ∈ last, d.Distinct) ↔ (∀ d ∈ present, d.Distinct) ∧ ∀ c ∈ whole, c.Distinct := by
  induction absorbs with
  | done => simp
  | whole _ _ ih =>
    rw [ih, List.forall_mem_append, List.forall_mem_singleton, List.forall_mem_cons, and_assoc]
  | joined _ _ _ ih =>
    rw [ih, List.forall_mem_append, List.forall_mem_cons, Category.distinct_extend_lacking, ← List.forall_mem_cons,
      ← List.forall_mem_append]

/-! ## What is counted -/

/-- How many templates some categories have together. -/
def templateCount : List Category → Nat
  | [] => 0
  | c :: rest => c.templates.length + templateCount rest

@[simp] theorem templateCount_append (cs more : List Category) :
    templateCount (cs ++ more) = templateCount cs + templateCount more := by
  induction cs with
  | nil => simp [templateCount]
  | cons c rest ih => simp only [List.cons_append, templateCount, ih, Nat.add_assoc]

/-- A report that counts further templates. -/
def MergeReport.count (report : MergeReport) (added skipped : Nat) : MergeReport :=
  { report with
    templatesAdded := report.templatesAdded + added
    duplicatesSkipped := report.duplicatesSkipped + skipped }

namespace Category

theorem takeOver_run_snd (c : Category) (t : Template) (report : MergeReport) :
    ((c.takeOver t).run report).2 = if c.hasStyle t.style then report.count 0 1 else report.count 1 0 := by
  unfold takeOver
  split
  · rfl
  · rfl

/-- The templates that are lacking are counted as added, and the others as skipped. -/
theorem absorb_run_snd (c other : Category) (report : MergeReport) : ((c.absorb other).run report).2 =
    report.count (c.lacking other.templates).length (other.templates.length - (c.lacking other.templates).length) := by
  unfold absorb
  induction other.templates generalizing c report with
  | nil => rfl
  | cons t rest ih =>
    rw [foldlM_run_cons, takeOver_run_fst, takeOver_run_snd, ih]
    by_cases held : c.hasStyle t.style
    · have fewer : (c.lacking rest).length ≤ rest.length := length_fresh_le _ _ _
      rw [if_pos held, add_of_held held, lacking_of_held held]
      simp only [MergeReport.count, List.length_cons, MergeReport.mk.injEq, true_and]
      omega
    · rw [if_neg held, add_of_not_held held, lacking_of_not_held held]
      simp only [MergeReport.count, List.length_cons, MergeReport.mk.injEq, true_and]
      omega

end Category

section Report

variable {report : MergeReport}

theorem absorbCategory_here (same : first.Alike c) :
    ((absorbCategory (first :: rest) c).run report).2 = ((first.absorb c).run report).2 := by
  unfold Category.Alike at same
  rw [absorbCategory, if_pos same]
  rfl

theorem absorbCategory_past (other : ¬ first.Alike c) :
    ((absorbCategory (first :: rest) c).run report).2 = ((absorbCategory rest c).run report).2 := by
  unfold Category.Alike at other
  rw [absorbCategory, if_neg other]
  rfl

theorem absorbCategory_new (new : ∀ d ∈ present, ¬ d.Alike c) :
    ((absorbCategory present c).run report).2 = { report with categoriesAdded := report.categoriesAdded + 1 } := by
  induction present with
  | nil => rfl
  | cons first rest ih =>
    obtain ⟨other, others⟩ := List.forall_mem_cons.mp new
    rw [absorbCategory_past other, ih others]

theorem absorbCategory_joined (earlier : ∀ e ∈ before, ¬ e.Alike c) (same : d.Alike c) :
    ((absorbCategory (before ++ d :: behind) c).run report).2 =
      report.count (d.lacking c.templates).length (c.templates.length - (d.lacking c.templates).length) := by
  induction before with
  | nil => exact (absorbCategory_here same).trans (d.absorb_run_snd c report)
  | cons first rest ih =>
    obtain ⟨other, others⟩ := List.forall_mem_cons.mp earlier
    rw [List.cons_append, absorbCategory_past other, ih others]

end Report

/-- What a report has counted on the way from a list of categories to another one. -/
structure Counts (start report : MergeReport) (present cs whole last : List Category) : Prop where
  colors : report.colors = start.colors
  styles : report.styles = start.styles
  categories : report.categoriesAdded = start.categoriesAdded + whole.length
  added : start.templatesAdded + templateCount last =
    report.templatesAdded + templateCount present + templateCount whole
  skipped : start.templatesAdded + start.duplicatesSkipped + templateCount cs =
    report.templatesAdded + report.duplicatesSkipped + templateCount whole

theorem Absorbs.counts (absorbs : Absorbs present cs whole last) (start : MergeReport) :
    Counts start ((cs.foldlM absorbCategory present).run start).2 present cs whole last := by
  induction absorbs generalizing start with
  | done => exact ⟨rfl, rfl, rfl, rfl, rfl⟩
  | whole new _ ih =>
    rw [foldlM_run_cons, absorbCategory_run_fst, absorbCategory_new new, mergeCategory_new new]
    have counts := ih { start with categoriesAdded := start.categoriesAdded + 1 }
    refine ⟨counts.colors, counts.styles, ?_, ?_, ?_⟩
    · rw [counts.categories, List.length_cons]
      simp only
      omega
    · have added := counts.added
      simp only [templateCount_append, templateCount] at added ⊢
      omega
    · have skipped := counts.skipped
      simp only [templateCount] at skipped ⊢
      omega
  | @joined before behind cs whole last c d earlier same _ ih =>
    rw [foldlM_run_cons, absorbCategory_run_fst, absorbCategory_joined earlier same, mergeCategory_joined earlier same,
      Category.merge_eq]
    have counts := ih (start.count (d.lacking c.templates).length
      (c.templates.length - (d.lacking c.templates).length))
    have fewer : (d.lacking c.templates).length ≤ c.templates.length := length_fresh_le _ _ _
    refine ⟨counts.colors, counts.styles, counts.categories, ?_, ?_⟩
    · have added := counts.added
      simp only [templateCount_append, templateCount, MergeReport.count, Category.extend,
        List.length_append] at added ⊢
      omega
    · have skipped := counts.skipped
      simp only [templateCount, MergeReport.count] at skipped ⊢
      omega

/-! ## Toolboxes -/

namespace Toolbox

/-- The categories of another toolbox that are new to a toolbox: those of a name that none has here, nor one before
    them there. -/
def added (base other : Toolbox) : List Category := fresh Category.Alike base.categories other.categories

/-- What merging a toolbox into another one gives, and what the report of it says. -/
structure Accounts (base other merged : Toolbox) (report : MergeReport) : Prop where
  /-- Colors and styles of the other toolbox replace those of the same name. -/
  colors : ∀ name : String, merged.colors[name]? = (other.colors[name]?).or base.colors[name]?
  styles : ∀ name : String, merged.styles[name]? = (other.styles[name]?).or base.styles[name]?
  /-- Categories keep their place, name, color and templates, and get templates at their end at most. -/
  kept : ∀ (i : Nat) (d : Category), base.categories[i]? = some d →
    ∃ more, merged.categories[i]? = some (d.extend more)
  absorbed : Absorbs base.categories other.categories (base.added other) merged.categories
  /-- Every style of the other toolbox is in the first category of the name in the end. -/
  reached : ∀ c ∈ other.categories, ∀ t ∈ c.templates, ∃ d, merged.category? c.name = some d ∧ d.hasStyle t.style
  /-- All colors and styles of the other toolbox count. -/
  colorsCounted : report.colors = other.colors.size
  stylesCounted : report.styles = other.styles.size
  /-- As many categories are counted as the list grows by. -/
  categoriesCounted : base.categories.length + report.categoriesAdded = merged.categories.length
  /-- The templates that are counted as added are those that came into categories that were there. -/
  templatesCounted : templateCount base.categories + templateCount (base.added other) + report.templatesAdded =
    templateCount merged.categories
  /-- Every template of the other toolbox is added, is skipped or comes with a whole category. -/
  allCounted : report.templatesAdded + report.duplicatesSkipped + templateCount (base.added other) =
    templateCount other.categories

theorem absorbs_merge (base other : Toolbox) :
    Absorbs base.categories other.categories (base.added other) (base.merge other).categories := by
  rw [merge_eq]
  exact absorbs_foldl base.categories other.categories

/-- Merging keeps what is there, adds what is new in order, and counts what it does. -/
theorem merge_accounts (base other : Toolbox) :
    Accounts base other (base.merge other) (base.mergeReport other) := by
  have absorbs := absorbs_merge base other
  have counts : Counts { colors := other.colors.size, styles := other.styles.size } (base.mergeReport other)
      base.categories other.categories (base.added other) (base.merge other).categories := by
    rw [mergeReport_eq]
    exact absorbs.counts _
  have categories := counts.categories
  have added := counts.added
  have skipped := counts.skipped
  rw [Nat.zero_add] at categories added
  rw [Nat.zero_add, Nat.zero_add] at skipped
  exact {
    colors := fun _ => by rw [merge_eq, Std.ExtTreeMap.getElem?_union]
    styles := fun _ => by rw [merge_eq, Std.ExtTreeMap.getElem?_union]
    kept := fun _ _ found => absorbs.kept found
    absorbed := absorbs
    reached := by
      intro c member t inside
      obtain ⟨d, found, held⟩ := absorbs.reached c member
      exact ⟨d, found, held t inside⟩
    colorsCounted := counts.colors
    stylesCounted := counts.styles
    categoriesCounted := by rw [categories, absorbs.length_eq]
    templatesCounted := by rw [added]; omega
    allCounted := skipped.symm }

/-- No category holds a style twice. -/
def Distinct (t : Toolbox) : Prop := ∀ c ∈ t.categories, c.Distinct

instance : DecidablePred Distinct := fun t => inferInstanceAs (Decidable (∀ c ∈ t.categories, c.Distinct))

/-- Where no category of a toolbox holds a style twice, none does after merging, except those that were added whole
    and do so themselves. -/
theorem distinct_merge_iff {base other : Toolbox} (distinct : base.Distinct) :
    (base.merge other).Distinct ↔ ∀ c ∈ base.added other, c.Distinct := by
  have categories := (absorbs_merge base other).distinct_iff
  exact categories.trans (and_iff_right distinct)

/-- A toolbox of categories whose templates have nothing but a style. -/
def ofStyles (categories : List (String × List String)) : Toolbox :=
  ⟨∅, ∅, categories.map fun (name, styles) =>
    ⟨name, none, styles.map fun style => .ofElement ((Element.named "Log").set "style" style)⟩⟩

/-- A style that a category of the other toolbox holds twice is taken over once where a category of the name is there,
    also when that one came with the merge itself. -/
theorem distinct_merge_iff_of_joined :
    (ofStyles [("Flow", ["if"]), ("Math", [])]).Distinct ∧
    ((ofStyles [("Flow", ["if"]), ("Math", [])]).merge
      (ofStyles [("flow", ["log", "log"]), ("Text", ["", "split"]), ("TEXT", ["join", "", "join"])])).Distinct := by
  have distinct : (ofStyles [("Flow", ["if"]), ("Math", [])]).Distinct := by decide
  refine ⟨distinct, (distinct_merge_iff distinct).mpr ?_⟩
  decide

/-- A toolbox with a category in which two blocks go by one style. -/
def repeating : Element :=
  ⟨toolboxTag, [], [⟨colorsTag, [], []⟩, ⟨stylesTag, [], []⟩,
    ⟨categoriesTag, [], [⟨"Category", [("name", "Flow")],
      [⟨"Log", [("style", "log")], []⟩, ⟨"Break", [("style", "log")], []⟩]⟩]⟩]⟩

/-- A category that is added whole keeps a style that it holds twice, although no category did so before. -/
theorem repeated_style_added : ∃ other : Toolbox, load repeating = .ok other ∧ Toolbox.empty.Distinct ∧
    ¬ (Toolbox.empty.merge other).Distinct := by
  refine ⟨_, rfl, by decide, ?_⟩
  decide

end Toolbox

end FlightBlocks.Palette
