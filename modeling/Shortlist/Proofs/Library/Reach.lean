import Shortlist.Proofs.Library.Follow
/-! What one file can do to the installed plans: which paths can bring in a plan, and whose plan
can be lost. -/
namespace Shortlist
open Library

namespace Plans

/-- There is a plan of the path that was not there before. -/
def Gains (before after : Plans) (p : Path) : Prop :=
  ∃ (id : String) (l : LoadedPlan), after[id]? = some l ∧ l.path = p ∧ before[id]? ≠ some l

variable {plans : Plans} {fs : Files} {p : Path}

/-! ### What is brought in -/

theorem reload_entry {id : String} {l : LoadedPlan} (h : (plans.reload fs p)[id]? = some l) :
    plans[id]? = some l ∨
      fs.compileFile p = .ok l ∧ id = l.metadata.id ∧ l.metadata.enabled = true := by
  cases hcompile : fs.compileFile p with
  | error err =>
      rw [reload_error hcompile] at h
      exact .inl h
  | ok x =>
      rw [reload_ok hcompile] at h
      obtain ⟨rfl, henabled, rfl⟩ | ⟨-, hold, -⟩ := install_eq_some.mp h
      · exact .inr ⟨rfl, rfl, henabled⟩
      · exact .inl hold

theorem reload_self {x : LoadedPlan} (h : fs.compileFile p = .ok x)
    (enabled : x.metadata.enabled = true) : (plans.reload fs p)[x.metadata.id]? = some x := by
  rw [reload_ok h]
  exact install_eq_some.mpr (.inl ⟨rfl, enabled, rfl⟩)

theorem reload_gains : plans.Gains (plans.reload fs p) p ↔ ∃ x, fs.compileFile p = .ok x ∧
    x.metadata.enabled = true ∧ plans[x.metadata.id]? ≠ some x := by
  constructor
  · rintro ⟨id, l, hafter, -, hbefore⟩
    obtain ⟨hcompile, hid, henabled⟩ := (reload_entry hafter).resolve_left hbefore
    exact ⟨l, hcompile, henabled, hid ▸ hbefore⟩
  · rintro ⟨x, hcompile, henabled, hbefore⟩
    obtain ⟨hpath, -⟩ := Files.compileFile_eq_ok.mp hcompile
    exact ⟨x.metadata.id, x, reload_self hcompile henabled, hpath, hbefore⟩

/-- A visit of one path brings in no plan of another. -/
theorem visit_entry {v : Visit} {id : String} {l : LoadedPlan}
    (h : (plans.visit v)[id]? = some l) :
    plans[id]? = some l ∨ ∃ fs, v = .load fs l.path := by
  cases v with
  | load fs q =>
      obtain hold | ⟨hcompile, -⟩ := reload_entry h
      · exact .inl hold
      · obtain ⟨rfl, -⟩ := Files.compileFile_eq_ok.mp hcompile
        exact .inr ⟨fs, rfl⟩
  | withdraw q => exact .inl (withdrawPath_eq_some.mp h).1

theorem visitAll_entry {visits : List Visit} {id : String} {l : LoadedPlan}
    (h : (plans.visitAll visits)[id]? = some l) :
    plans[id]? = some l ∨ ∃ fs, .load fs l.path ∈ visits := by
  induction visits generalizing plans with
  | nil => exact .inl h
  | cons v visits ih =>
      obtain hstep | ⟨fs, hmem⟩ := ih h
      · obtain hold | ⟨fs, rfl⟩ := visit_entry hstep
        · exact .inl hold
        · exact .inr ⟨fs, List.mem_cons_self⟩
      · exact .inr ⟨fs, List.mem_cons_of_mem _ hmem⟩

theorem visitAll_gains {visits : List Visit} (h : plans.Gains (plans.visitAll visits) p) :
    ∃ fs, .load fs p ∈ visits := by
  obtain ⟨id, l, hafter, rfl, hbefore⟩ := h
  exact (visitAll_entry hafter).resolve_left hbefore

/-- An event of any number of paths brings in nothing but what is at one of them. -/
theorem handle_gains_of_paths {e : FileEvent} (h : plans.Gains (plans.handle fs e) p) :
    p ∈ e.paths ∧ follows p = true ∧ e.kind.loads = true ∧ fs.holds p = true := by
  rw [handle_eq_visitAll] at h
  obtain ⟨fs', hmem⟩ := visitAll_gains h
  obtain ⟨q, hq, hvisit⟩ := List.mem_filterMap.mp hmem
  obtain ⟨hfollow, ⟨hloads, hheld, hload⟩ | ⟨-, hwithdraw⟩⟩ :=
    FileEventKind.visit?_eq_some.mp hvisit
  · cases hload
    exact ⟨hq, hfollow, hloads, hheld⟩
  · cases hwithdraw

theorem handle_eq_reload {kind : FileEventKind} (hfollow : follows p = true)
    (hloads : kind.loads = true) (hheld : fs.holds p = true) :
    plans.handle fs ⟨kind, [p]⟩ = plans.reload fs p := by
  have hvisit := FileEventKind.visit?_eq_some.mpr ⟨hfollow, .inl ⟨hloads, hheld, rfl⟩⟩
  rw [handle_eq_visitAll, List.filterMap_cons, hvisit]
  rfl

theorem handle_gains {kind : FileEventKind} : plans.Gains (plans.handle fs ⟨kind, [p]⟩) p ↔
    follows p = true ∧ kind.loads = true ∧ plans.Gains (plans.reload fs p) p := by
  constructor
  · intro h
    obtain ⟨-, hfollow, hloads, hheld⟩ := handle_gains_of_paths h
    exact ⟨hfollow, hloads, handle_eq_reload hfollow hloads hheld ▸ h⟩
  · rintro ⟨hfollow, hloads, h⟩
    obtain ⟨x, hcompile, -⟩ := reload_gains.mp h
    have hheld := Files.holds_of_file? (Files.file?_of_compileFile hcompile)
    rw [handle_eq_reload hfollow hloads hheld]
    exact h

end Plans

namespace Library

/-- An event brings in any enabled document that it is about, no matter in which folder it lies. A
scan does not bring in what lies in a hidden folder. -/
theorem gains_report_scan (l : Library) (fs : Files) (kind : FileEventKind) (p : Path) :
    (l.plans.Gains (l.step (.report fs ⟨kind, [p]⟩)).plans p ↔
      Plans.follows p = true ∧ kind.loads = true ∧ ∃ x, fs.compileFile p = .ok x ∧
        x.metadata.enabled = true ∧ l.plans[x.metadata.id]? ≠ some x) ∧
    (l.plans.Gains (l.step (.scan fs)).plans p →
      Plans.follows p = true ∧ covers l.folder p = true) := by
  constructor
  · rw [← Plans.reload_gains]
    exact Plans.handle_gains
  · intro h
    rw [step_plans] at h
    obtain ⟨fs', hmem⟩ := Plans.visitAll_gains h
    obtain ⟨q, hq, heq⟩ := List.mem_map.mp hmem
    cases heq
    obtain ⟨hcovers, hfollow, -⟩ := mem_documents.mp hq
    exact ⟨hfollow, hcovers⟩

def stowedFile : Path := .ofText "f/.git/x.json"

/-- No scan ever loads the file, but the event of its first write does. -/
theorem gains_stowedFile : Path.isUnder shelfFolder stowedFile = true ∧
    (∀ fs, stowedFile ∉ documents shelfFolder fs) ∧
    (∅ : Plans).Gains
      (Plans.handle ∅ ((∅ : Files).apply (.write stowedFile homeText.toUTF8))
        ⟨.written, [stowedFile]⟩)
      stowedFile := by
  have hplace : covers shelfFolder stowedFile = false ∧ Plans.follows stowedFile = true ∧
      stowedFile.format? = some .json := by decide +kernel
  refine ⟨by decide +kernel, ?_, ?_⟩
  · intro fs h
    rw [(mem_documents.mp h).1] at hplace
    cases hplace.1
  · rw [Plans.handle_gains, Plans.reload_gains]
    refine ⟨hplace.2.1, rfl, homePlan stowedFile, ?_, rfl, by simp⟩
    exact Files.compileFile_home (by rw [Files.file?_write, if_pos rfl]) hplace.2.2

end Library

/-! ### What is lost -/

namespace Plans
variable {plans : Plans} {fs : Files} {p : Path}

theorem reload_disabled_eq_some {x l : LoadedPlan} {id : String} (h : fs.compileFile p = .ok x)
    (disabled : x.metadata.enabled = false) :
    (plans.reload fs p)[id]? = some l ↔
      plans[id]? = some l ∧ l.path ≠ p ∧ id ≠ x.metadata.id := by
  obtain ⟨rfl, -⟩ := Files.compileFile_eq_ok.mp h
  rw [reload_ok h, install_eq_some]
  simp only [disabled, Bool.false_eq_true, false_and, and_false, false_or]
  tauto

/-- A disabled document takes away the plan under its id, even if this is the plan of another
file. All else of other files stays. -/
theorem reload_disabled_frame {x : LoadedPlan} (h : fs.compileFile p = .ok x)
    (disabled : x.metadata.enabled = false) :
    (∀ (id : String) (l : LoadedPlan), plans[id]? = some l → l.path ≠ p →
      ((plans.reload fs p)[id]? = some l ↔ id ≠ x.metadata.id)) ∧
    ((∀ (id : String) (l : LoadedPlan), plans[id]? = some l → l.path ≠ p →
      (plans.reload fs p)[id]? = some l) ↔
        ∀ l, plans[x.metadata.id]? = some l → l.path = p) := by
  have kept : ∀ (id : String) (l : LoadedPlan), plans[id]? = some l → l.path ≠ p →
      ((plans.reload fs p)[id]? = some l ↔ id ≠ x.metadata.id) := by
    intro id l hl hpath
    rw [reload_disabled_eq_some h disabled]
    simp [hl, hpath]
  refine ⟨kept, ?_, ?_⟩
  · intro hall l hl
    by_contra hpath
    exact (kept _ l hl hpath).mp (hall _ l hl hpath) rfl
  · intro owned id l hl hpath
    rw [kept id l hl hpath]
    rintro rfl
    exact hpath (owned l hl)

theorem reload_disabled_search : shelf.compileFile newsFile = .ok (searchPlan newsFile) ∧
    (searchPlan newsFile).metadata.enabled = false ∧
    ((scanned shelfFolder shelf).reload shelf newsFile)["home"]? = some (homePlan feedFile) := by
  have hcompile : shelf.compileFile newsFile = .ok (searchPlan newsFile) := by
    refine compileFile_search ?_ listed_newsFile.2.2
    rw [file?_shelf, if_pos rfl]
  have kept := (reload_disabled_frame hcompile rfl).1 "home" _ scanned_shelf feedFile_ne_newsFile
  exact ⟨hcompile, rfl, kept.mpr (by decide)⟩

/-- Disabled, under an id that another document has. -/
def idleText : String := "[\"v1\",\"FilterConfig\",[\"home\",\"Home\",null,null,false]]"

def idlePlan (p : Path) : LoadedPlan :=
  { metadata := { id := "home", name := "Home", enabled := false }, path := p, plan := {} }

theorem compileFile_idle (hfile : fs.file? p = some idleText.toUTF8)
    (hformat : p.format? = some .json) : fs.compileFile p = .ok (idlePlan p) := by
  have hparse : Document.parse? .json idleText =
      some
        { apiVersion := "v1", kind := "FilterConfig"
          metadata := { id := "home", name := "Home", enabled := false } } := by
    cbv
  exact Files.compileFile_of_text hfile hformat hparse rfl (by decide) rfl

/-- The plan that the scan has installed comes from a file that does not change. -/
theorem reload_idle :
    (Library.run { folder := shelfFolder } [.scan shelf]).plans["home"]? = some (homePlan feedFile) ∧
    (shelf.apply (.write newsFile idleText.toUTF8)).file? feedFile = shelf.file? feedFile ∧
    (shelf.apply (.write newsFile idleText.toUTF8)).compileFile newsFile =
      .ok (idlePlan newsFile) ∧
    (idlePlan newsFile).metadata.enabled = false ∧
    feedFile ≠ newsFile ∧
    ((Library.run { folder := shelfFolder } [.scan shelf]).plans.reload
      (shelf.apply (.write newsFile idleText.toUTF8)) newsFile)["home"]? = none := by
  have hcompile : (shelf.apply (.write newsFile idleText.toUTF8)).compileFile newsFile =
      .ok (idlePlan newsFile) := by
    refine compileFile_idle ?_ listed_newsFile.2.2
    rw [Files.file?_write, if_pos rfl]
  refine ⟨scanned_shelf, ?_, hcompile, rfl, feedFile_ne_newsFile, ?_⟩
  · rw [Files.file?_write, if_neg feedFile_ne_newsFile]
  · rw [reload_ok hcompile]
    exact install_self _ (idlePlan newsFile)

end Plans
end Shortlist
