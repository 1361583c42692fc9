import Mathlib.Data.List.Basic
import Shortlist.Proofs.Library.Visit
/-! What scans and events leave as it is. The plan under an id changes only when a document of
this id is loaded, or when the file of the plan is given another id or is gone. A file that fails
to load changes nothing, and the files beside it are handled as if it were not there. -/
namespace Shortlist
open Library

/-! ### One id -/

namespace Plans
variable {plans : Plans} {fs : Files} {p : Path} {id : String}

/-- The file that the plan under an id was loaded from. -/
def source? (plans : Plans) (id : String) : Option Path := plans[id]?.map (·.path)

/-- The visits that may change the plan under an id that was loaded from a file. -/
inductive Disturbs (id : String) (source : Option Path) : Visit → Prop
  | claims {fs : Files} {p : Path} {x : LoadedPlan} :
      fs.compileFile p = .ok x → x.metadata.id = id → Disturbs id source (.load fs p)
  | leaves {fs : Files} {p : Path} {x : LoadedPlan} :
      fs.compileFile p = .ok x → source = some p → Disturbs id source (.load fs p)
  | withdraws {p : Path} : source = some p → Disturbs id source (.withdraw p)

theorem filter_of_source (h : plans.source? id ≠ some p) :
    plans[id]?.filter (·.path ≠ p) = plans[id]? := by
  unfold source? at h
  cases hid : plans[id]? with
  | none => rfl
  | some old =>
      rw [hid] at h
      have hpath : old.path ≠ p := fun heq => h (congrArg some heq)
      simp [hpath]

theorem visit_kept (plans : Plans) (id : String) (v : Visit) :
    (plans.visit v)[id]? = plans[id]? ∨ Disturbs id (plans.source? id) v := by
  cases v with
  | load fs p =>
      cases hcompile : fs.compileFile p with
      | error err =>
          rw [visit, reload_error hcompile]
          exact .inl rfl
      | ok x =>
          by_cases hid : x.metadata.id = id
          · exact .inr (.claims hcompile hid)
          · by_cases hsource : plans.source? id = some p
            · exact .inr (.leaves hcompile hsource)
            · obtain ⟨rfl, -⟩ := Files.compileFile_eq_ok.mp hcompile
              rw [visit, reload_ok hcompile, install_other plans x (Ne.symm hid)]
              exact .inl (filter_of_source hsource)
  | withdraw p =>
      by_cases hsource : plans.source? id = some p
      · exact .inr (.withdraws hsource)
      · rw [visit, withdrawPath, Std.ExtTreeMap.getElem?_filter']
        exact .inl (filter_of_source hsource)

theorem visitAll_kept (plans : Plans) (id : String) (visits : List Visit) :
    (plans.visitAll visits)[id]? = plans[id]? ∨
      ∃ v ∈ visits, Disturbs id (plans.source? id) v := by
  induction visits generalizing plans with
  | nil => exact .inl rfl
  | cons v visits ih =>
      obtain hv | hv := plans.visit_kept id v
      · -- The plan is still the one of the start, and so is its file.
        have hsource : (plans.visit v).source? id = plans.source? id := by
          rw [source?, hv, source?]
        obtain hrest | ⟨w, hw, hdisturbs⟩ := ih (plans.visit v)
        · exact .inl (hrest.trans hv)
        · exact .inr ⟨w, List.mem_cons_of_mem _ hw, hsource ▸ hdisturbs⟩
      · exact .inr ⟨v, List.mem_cons_self, hv⟩

theorem handle_kept (plans : Plans) (fs : Files) (e : FileEvent) (id : String) :
    (plans.handle fs e)[id]? = plans[id]? ∨ ∃ p ∈ e.paths, follows p = true ∧
      (e.kind.loads = true ∧ fs.holds p = true ∧ (∃ x, fs.compileFile p = .ok x ∧
          (x.metadata.id = id ∨ plans.source? id = some p)) ∨
        (e.kind = .removed ∨ e.kind.loads = true ∧ fs.holds p = false) ∧
          plans.source? id = some p) := by
  rw [handle_eq_visitAll]
  apply (plans.visitAll_kept id _).imp_right
  rintro ⟨v, hv, hdisturbs⟩
  obtain ⟨p, hp, hvisit⟩ := List.mem_filterMap.mp hv
  obtain ⟨hfollow, hcase⟩ := FileEventKind.visit?_eq_some.mp hvisit
  refine ⟨p, hp, hfollow, ?_⟩
  obtain ⟨hloads, hheld, rfl⟩ | ⟨hgone, rfl⟩ := hcase
  · left
    cases hdisturbs with
    | claims hcompile hid => exact ⟨hloads, hheld, _, hcompile, .inl hid⟩
    | leaves hcompile hsource => exact ⟨hloads, hheld, _, hcompile, .inr hsource⟩
  · cases hdisturbs with
    | withdraws hsource => exact .inr ⟨hgone, hsource⟩

theorem loadList_kept (plans : Plans) (fs : Files) (ps : List Path) (id : String) :
    (loadList fs plans ps).2[id]? = plans[id]? ∨ ∃ p ∈ ps, follows p = true ∧
      ∃ x, fs.compileFile p = .ok x ∧ (x.metadata.id = id ∨ plans.source? id = some p) := by
  rw [loadList_plans]
  apply (plans.visitAll_kept id _).imp_right
  rintro ⟨v, hv, hdisturbs⟩
  obtain ⟨p, hp, rfl⟩ := List.mem_map.mp hv
  obtain ⟨hlisted, hfollow⟩ := List.mem_filter.mp hp
  refine ⟨p, hlisted, hfollow, ?_⟩
  cases hdisturbs with
  | claims hcompile hid => exact ⟨_, hcompile, .inl hid⟩
  | leaves hcompile hsource => exact ⟨_, hcompile, .inr hsource⟩

end Plans

/-! ### Files that fail to load -/

/-- Steps that change nothing may be left out. -/
theorem foldl_filter_of_idle {α β : Type} {f : β → α → β} {keep : α → Bool} {as : List α}
    (idle : ∀ a ∈ as, keep a = false → ∀ b, f b a = b) (b : β) :
    (as.filter keep).foldl f b = as.foldl f b := by
  rw [List.foldl_filter]
  apply List.foldl_ext
  intro b a ha
  cases hkeep : keep a with
  | true => rfl
  | false => exact (idle a ha hkeep b).symm

namespace Plans
variable {fs : Files} {p : Path} {err : LibraryError}

theorem handlePath_of_error {kind : FileEventKind} (hloads : kind.loads = true)
    (hheld : fs.holds p = true) (herr : fs.compileFile p = .error err) (plans : Plans) :
    plans.handlePath fs kind p = plans := by
  unfold handlePath
  by_cases hfollow : follows p = true
  · cases kind with
    | created | written | renamed => simp [hfollow, hheld, reload_error herr]
    | removed | other => cases hloads
  · simp [hfollow]

theorem handle_filter_of_error {e : FileEvent} {keep : Path → Bool}
    (h : ∀ p ∈ e.paths, keep p = false →
      e.kind.loads = true ∧ fs.holds p = true ∧ ∃ err, fs.compileFile p = .error err)
    (plans : Plans) :
    plans.handle fs { e with paths := e.paths.filter keep } = plans.handle fs e := by
  refine foldl_filter_of_idle (fun p hp hkeep plans => ?_) plans
  obtain ⟨hloads, hheld, err, herr⟩ := h p hp hkeep
  exact handlePath_of_error hloads hheld herr plans

end Plans

namespace Library
variable {fs : Files}

theorem loadList_foldl (fs : Files) (plans : Plans) (ps : List Path) :
    (loadList fs plans ps).2 = ps.foldl (fun plans p => (loadOne fs plans p).2) plans := by
  induction ps generalizing plans with
  | nil => rfl
  | cons p ps ih => exact ih (loadOne fs plans p).2

theorem loadList_filter_of_error {ps : List Path} {keep : Path → Bool}
    (h : ∀ p ∈ ps, keep p = false → ∃ err, fs.compileFile p = .error err) (plans : Plans) :
    (loadList fs plans (ps.filter keep)).2 = (loadList fs plans ps).2 := by
  rw [loadList_foldl, loadList_foldl]
  refine foldl_filter_of_idle (fun p hp hkeep plans => ?_) plans
  obtain ⟨err, herr⟩ := h p hp hkeep
  rw [loadOne_plans, Plans.reload_error herr, ite_self]

/-- An event or a scan leaves what is under an id as it was, unless a file that it is about holds a
document of this id, or is the file of the plan and holds a document or, in an event, is removed or
gone. Any of the files that fail to load, or all of them, may be left out without effect on the
plans, so none keeps the others from being handled. -/
theorem plans_kept (l : Library) (fs : Files) (e : FileEvent) :
    (∀ id, (l.plans.handle fs e)[id]? = l.plans[id]? ∨
      ∃ p ∈ e.paths, Plans.follows p = true ∧
        (e.kind.loads = true ∧ fs.holds p = true ∧ (∃ x, fs.compileFile p = .ok x ∧
            (x.metadata.id = id ∨ l.plans.source? id = some p)) ∨
          (e.kind = .removed ∨ e.kind.loads = true ∧ fs.holds p = false) ∧
            l.plans.source? id = some p)) ∧
    (∀ id, (l.loadAll fs).2.plans[id]? = l.plans[id]? ∨
      ∃ p ∈ l.listed fs, Plans.follows p = true ∧ ∃ x, fs.compileFile p = .ok x ∧
        (x.metadata.id = id ∨ l.plans.source? id = some p)) ∧
    (∀ keep : Path → Bool,
      (∀ p ∈ e.paths, keep p = false →
        e.kind.loads = true ∧ fs.holds p = true ∧ ∃ err, fs.compileFile p = .error err) →
      l.plans.handle fs { e with paths := e.paths.filter keep } = l.plans.handle fs e) ∧
    ∀ keep : Path → Bool,
      (∀ p ∈ l.listed fs, keep p = false → ∃ err, fs.compileFile p = .error err) →
      (loadList fs l.plans ((l.listed fs).filter keep)).2 = (l.loadAll fs).2.plans :=
  ⟨l.plans.handle_kept fs e, l.plans.loadList_kept fs (l.listed fs),
    fun _ h => Plans.handle_filter_of_error h l.plans, fun _ h => loadList_filter_of_error h l.plans⟩

end Library
end Shortlist
