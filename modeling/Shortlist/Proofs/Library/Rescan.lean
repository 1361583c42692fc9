import Shortlist.Proofs.Library.Listing
/-! What a scan reports, and what it makes of the plans that were installed before. The documents
that compile are installed one after another, so under each id the last of them decides, and a
second scan of the same files has nothing left to do. -/
namespace Shortlist
open Library

/-! ### The documents that compile -/

/-- The plan is what a file of the folder holds that a scan loads. -/
structure LoadedPlan.FoundIn (x : LoadedPlan) (folder : Path) (fs : Files) : Prop where
  listed : x.path ∈ documents folder fs
  compiled : fs.compileFile x.path = .ok x

namespace Files
variable {fs : Files} {folder : Path} {x : LoadedPlan}

def plan? (fs : Files) (p : Path) : Option LoadedPlan := (fs.compileFile p).toOption

/-- The plans that a scan finds in the files, in its order. -/
def found (fs : Files) (folder : Path) : List LoadedPlan := (documents folder fs).filterMap fs.plan?

theorem plan?_eq_some {p : Path} : fs.plan? p = some x ↔ fs.compileFile p = .ok x := by
  unfold plan?
  cases fs.compileFile p with
  | ok y => simp [Except.toOption]
  | error err => simp [Except.toOption]

theorem mem_found : x ∈ fs.found folder ↔ x.FoundIn folder fs := by
  rw [found, List.mem_filterMap]
  constructor
  · rintro ⟨p, hp, hx⟩
    have hcompile := plan?_eq_some.mp hx
    obtain ⟨rfl, -⟩ := compileFile_eq_ok.mp hcompile
    exact ⟨hp, hcompile⟩
  · rintro ⟨hlisted, hcompile⟩
    exact ⟨x.path, hlisted, plan?_eq_some.mpr hcompile⟩

theorem found_sorted (fs : Files) (folder : Path) :
    (fs.found folder).Pairwise fun x y => x.path < y.path := by
  refine (documents_sorted folder fs).filterMap _ ?_
  intro p q hlt x hx y hy
  obtain ⟨rfl, -⟩ := compileFile_eq_ok.mp (plan?_eq_some.mp hx)
  obtain ⟨rfl, -⟩ := compileFile_eq_ok.mp (plan?_eq_some.mp hy)
  exact hlt

end Files

/-! ### Plans installed one after another -/

theorem exists_last {α : Type} {P : α → Prop} {as : List α} (h : ∃ a ∈ as, P a) :
    ∃ before a after, as = before ++ a :: after ∧ P a ∧ ∀ b ∈ after, ¬ P b := by
  induction as with
  | nil => simp at h
  | cons first as ih =>
      by_cases hrest : ∃ a ∈ as, P a
      · obtain ⟨before, a, after, rfl, ha, hafter⟩ := ih hrest
        exact ⟨first :: before, a, after, rfl, ha, hafter⟩
      · have hfirst : P first := by
          obtain ⟨a, hmem, ha⟩ := h
          obtain rfl | hmem := List.mem_cons.mp hmem
          · exact ha
          · exact absurd ⟨a, hmem, ha⟩ hrest
        exact ⟨[], first, as, rfl, hfirst, fun b hb hP => hrest ⟨b, hb, hP⟩⟩

namespace Plans
variable {plans : Plans} {xs : List LoadedPlan} {x old : LoadedPlan} {id : String}

def installAll (plans : Plans) (xs : List LoadedPlan) : Plans := xs.foldl install plans

theorem visitAll_loads (plans : Plans) (fs : Files) (ps : List Path) :
    plans.visitAll (ps.map (.load fs)) =
      plans.installAll (ps.filterMap fs.plan?) := by
  induction ps generalizing plans with
  | nil => rfl
  | cons p ps ih =>
      have hhead : plans.visitAll ((p :: ps).map (.load fs)) =
          (plans.reload fs p).visitAll (ps.map (.load fs)) := rfl
      rw [hhead, ih]
      cases hcompile : fs.compileFile p with
      | ok x =>
          rw [reload_ok hcompile, List.filterMap_cons_some (Files.plan?_eq_some.mpr hcompile)]
          rfl
      | error err =>
          have hnone : fs.plan? p = none := by rw [Files.plan?, hcompile]; rfl
          rw [reload_error hcompile, List.filterMap_cons_none hnone]

/-- An id that none of the plans has keeps its plan, unless one of them is of the same file. -/
theorem installAll_other (hid : ∀ y ∈ xs, y.metadata.id ≠ id) :
    (plans.installAll xs)[id]? = some old ↔
      plans[id]? = some old ∧ ∀ y ∈ xs, y.path ≠ old.path := by
  induction xs generalizing plans with
  | nil => simp [installAll]
  | cons x xs ih =>
      obtain ⟨hx, hxs⟩ := List.forall_mem_cons.mp hid
      have hhead : (plans.install x)[id]? = some old ↔
          plans[id]? = some old ∧ x.path ≠ old.path := by
        rw [install_eq_some, or_iff_right fun h => hx h.1.symm, and_iff_right (Ne.symm hx),
          ne_comm (a := x.path)]
      calc ((plans.install x).installAll xs)[id]? = some old
          ↔ (plans.install x)[id]? = some old ∧ ∀ y ∈ xs, y.path ≠ old.path := ih hxs
        _ ↔ plans[id]? = some old ∧ ∀ y ∈ x :: xs, y.path ≠ old.path := by
          rw [hhead, List.forall_mem_cons, and_assoc]

/-- The last of the plans with an id decides. -/
theorem installAll_last {before after : List LoadedPlan}
    (hafter : ∀ y ∈ after, y.metadata.id ≠ x.metadata.id) (hpath : ∀ y ∈ after, y.path ≠ x.path) :
    (plans.installAll (before ++ x :: after))[x.metadata.id]? =
      if x.metadata.enabled then some x else none := by
  have hsplit : plans.installAll (before ++ x :: after) =
      ((plans.installAll before).install x).installAll after := by
    simp [installAll]
  rw [hsplit]
  apply Option.ext
  intro old
  rw [installAll_other hafter, install_self, and_iff_left_iff_imp]
  intro hold
  cases (Option.ite_none_right_eq_some.mp hold).2
  exact hpath

/-- Plans of different files, installed again, change nothing. -/
theorem installAll_again (distinct : xs.Pairwise fun x y => x.path ≠ y.path) (plans : Plans) :
    (plans.installAll xs).installAll xs = plans.installAll xs := by
  apply Std.ExtTreeMap.ext_getElem?
  intro id
  by_cases hid : ∃ x ∈ xs, x.metadata.id = id
  · obtain ⟨before, x, after, rfl, rfl, hafter⟩ := exists_last hid
    have hpath : ∀ y ∈ after, y.path ≠ x.path := fun y hy =>
      ((List.pairwise_cons.mp (List.pairwise_append.mp distinct).2.1).1 y hy).symm
    rw [installAll_last hafter hpath, installAll_last hafter hpath]
  · have hid' : ∀ y ∈ xs, y.metadata.id ≠ id := fun y hy heq => hid ⟨y, hy, heq⟩
    apply Option.ext
    intro old
    rw [installAll_other hid', installAll_other hid', and_assoc, and_self]

end Plans

/-! ### Results -/

/-- What a scan reports about a file. -/
inductive Files.Reports (fs : Files) (p : Path) : LoadStatus → Prop
  | dotfile : p.isHidden = true → Reports fs p (.skipped "dotfile")
  | otherKind : p.isHidden = false → p.format? = none →
      Reports fs p (.skipped "not a YAML or JSON file")
  | failed {err : LibraryError} : Plans.follows p = true → fs.compileFile p = .error err →
      Reports fs p (.failed err)
  | loaded {x : LoadedPlan} : Plans.follows p = true → fs.compileFile p = .ok x →
      x.metadata.enabled = true → Reports fs p (.loaded x.metadata.id)
  | disabled {x : LoadedPlan} : Plans.follows p = true → fs.compileFile p = .ok x →
      x.metadata.enabled = false →
      Reports fs p (.skipped ("filter config '" ++ x.metadata.id ++ "' is disabled"))

namespace Library
variable {fs : Files}

theorem loadOne_reports (fs : Files) (plans : Plans) (p : Path) :
    fs.Reports p (loadOne fs plans p).1 := by
  unfold loadOne
  cases hhidden : p.isHidden with
  | true => exact .dotfile hhidden
  | false =>
      cases hformat : p.format? with
      | none => exact .otherKind hhidden hformat
      | some format =>
          have hfollow : Plans.follows p = true := by simp [Plans.follows, hhidden, hformat]
          cases hcompile : fs.compileFile p with
          | error err => exact .failed hfollow hcompile
          | ok x =>
              cases henabled : x.metadata.enabled with
              | true => simpa [henabled] using Files.Reports.loaded hfollow hcompile henabled
              | false => simpa [henabled] using Files.Reports.disabled hfollow hcompile henabled

/-- What is installed is without effect on what is reported. -/
theorem loadOne_status (fs : Files) (plans plans' : Plans) (p : Path) :
    (loadOne fs plans p).1 = (loadOne fs plans' p).1 := by
  unfold loadOne
  split_ifs
  · rfl
  · rfl
  · split
    · rfl
    · rfl

theorem loadList_results (fs : Files) (plans : Plans) (ps : List Path) :
    (loadList fs plans ps).1 = ps.map fun p => ⟨p, (loadOne fs ∅ p).1⟩ := by
  induction ps generalizing plans with
  | nil => rfl
  | cons p ps ih =>
      have hhead : (loadList fs plans (p :: ps)).1 =
          ⟨p, (loadOne fs plans p).1⟩ :: (loadList fs (loadOne fs plans p).2 ps).1 := rfl
      rw [hhead, ih, loadOne_status fs plans ∅, List.map_cons]

theorem loadAll_results (l : Library) (fs : Files) :
    (l.loadAll fs).1 = (l.listed fs).map fun p => ⟨p, (loadOne fs ∅ p).1⟩ :=
  loadList_results fs l.plans (l.listed fs)

theorem loadAll_paths (l : Library) (fs : Files) :
    (l.loadAll fs).1.map (·.path) = l.listed fs := by
  rw [loadAll_results, List.map_map]
  exact List.map_id _

theorem loadAll_plans (l : Library) (fs : Files) :
    (l.loadAll fs).2 = { l with plans := l.plans.installAll (fs.found l.folder) } := by
  have visits : (l.loadAll fs).2.plans =
      l.plans.visitAll ((documents l.folder fs).map (.load fs)) :=
    loadList_plans fs l.plans (l.listed fs)
  rw [Plans.visitAll_loads] at visits
  have hplans : (l.loadAll fs).2 = { l with plans := (l.loadAll fs).2.plans } := rfl
  rw [hplans, visits]
  rfl

theorem loadAll_again (l : Library) (fs : Files) : (l.loadAll fs).2.loadAll fs = l.loadAll fs := by
  have distinct : (fs.found l.folder).Pairwise fun x y => x.path ≠ y.path :=
    (fs.found_sorted l.folder).imp ne_of_lt
  apply Prod.ext
  · rw [loadAll_results, loadAll_results, loadAll_plans]
    rfl
  · simp only [loadAll_plans, Plans.installAll_again distinct]

/-- Under an id that documents of the folder have, the last of them decides. -/
theorem loadAll_claimed {l : Library} {id : String}
    (h : ∃ y : LoadedPlan, y.FoundIn l.folder fs ∧ y.metadata.id = id) :
    ∃ x : LoadedPlan, x.FoundIn l.folder fs ∧ x.metadata.id = id ∧
      (∀ y : LoadedPlan, y.FoundIn l.folder fs → y.metadata.id = id → y.path ≤ x.path) ∧
      (l.loadAll fs).2.plans[id]? = if x.metadata.enabled then some x else none := by
  simp only [← Files.mem_found] at h ⊢
  obtain ⟨before, x, after, hsplit, rfl, hafter⟩ := exists_last h
  have sorted := fs.found_sorted l.folder
  rw [hsplit, List.pairwise_append, List.pairwise_cons] at sorted
  obtain ⟨-, ⟨hgreater, -⟩, hless⟩ := sorted
  refine ⟨x, by simp [hsplit], rfl, ?_, ?_⟩
  · intro y hy hid
    rw [hsplit, List.mem_append, List.mem_cons] at hy
    obtain hbefore | rfl | hlate := hy
    · exact (hless y hbefore x List.mem_cons_self).le
    · exact le_refl y.path
    · exact absurd hid (hafter y hlate)
  · rw [loadAll_plans, hsplit]
    exact Plans.installAll_last hafter fun y hy => (hgreater y hy).ne'

theorem loadAll_unclaimed {l : Library} {id : String}
    (h : ∀ y : LoadedPlan, y.FoundIn l.folder fs → y.metadata.id ≠ id) (old : LoadedPlan) :
    (l.loadAll fs).2.plans[id]? = some old ↔
      l.plans[id]? = some old ∧ ∀ y : LoadedPlan, y.FoundIn l.folder fs → y.path ≠ old.path := by
  simp only [← Files.mem_found] at h ⊢
  rw [loadAll_plans]
  exact Plans.installAll_other h

/-- A scan reports each file once that lies below the folder and in no hidden folder below it, in
the order of the paths. Afterwards an id that documents of the folder have stands for the last of
them, if that one is enabled, and for no plan otherwise. Any other id keeps its plan, unless a
document was read from the file of the plan. To scan the same files again brings the same results,
and no change. -/
theorem loadAll_laws (l : Library) (fs : Files) :
    ((l.loadAll fs).1.map (·.path)).Pairwise (· < ·) ∧
    (∀ p, p ∈ (l.loadAll fs).1.map (·.path) ↔ (fs.file? p).isSome ∧ l.folder.Meets p) ∧
    (∀ r ∈ (l.loadAll fs).1, fs.Reports r.path r.status) ∧
    (∀ id, (∃ y : LoadedPlan, y.FoundIn l.folder fs ∧ y.metadata.id = id) →
      ∃ x : LoadedPlan, x.FoundIn l.folder fs ∧ x.metadata.id = id ∧
        (∀ y : LoadedPlan, y.FoundIn l.folder fs → y.metadata.id = id → y.path ≤ x.path) ∧
        (l.loadAll fs).2.plans[id]? = if x.metadata.enabled then some x else none) ∧
    (∀ id, (∀ y : LoadedPlan, y.FoundIn l.folder fs → y.metadata.id ≠ id) →
      ∀ old : LoadedPlan, (l.loadAll fs).2.plans[id]? = some old ↔
        l.plans[id]? = some old ∧ ∀ y : LoadedPlan, y.FoundIn l.folder fs → y.path ≠ old.path) ∧
    (l.loadAll fs).2.loadAll fs = l.loadAll fs := by
  refine ⟨?_, ?_, ?_, fun _ => loadAll_claimed, fun _ => loadAll_unclaimed, loadAll_again l fs⟩
  · rw [loadAll_paths]
    exact listed_sorted l fs
  · intro p
    rw [loadAll_paths, mem_listed, covers_iff_meets, and_comm]
  · intro r hr
    rw [loadAll_results] at hr
    obtain ⟨p, -, rfl⟩ := List.mem_map.mp hr
    exact loadOne_reports fs ∅ p

end Library
end Shortlist
