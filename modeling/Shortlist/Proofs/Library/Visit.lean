import Shortlist.Library.Watch
import Shortlist.Proofs.Basic
/-! Scans and events, taken apart into what they do to the installed plans: one file after another
is loaded, or has its plan withdrawn. -/
namespace Shortlist

/-! ### One file -/

theorem Document.validate_eq_ok {d d' : Document} :
    d.validate = .ok d' ↔
      d.kind = filterKind ∧ (Text.trim d.metadata.id).isEmpty = false ∧ d = d' := by
  unfold validate
  by_cases hkind : d.kind = filterKind
  · by_cases hid : (Text.trim d.metadata.id).isEmpty = true
    · simp [hkind, hid]
    · simp [hkind, hid]
  · simp [hkind]

namespace Files

theorem readDocument_named {fs : Files} {p : Path} {d : Document}
    (h : fs.readDocument p = .ok d) : (Text.trim d.metadata.id).isEmpty = false := by
  unfold readDocument at h
  split at h
  · cases h
  · split at h
    · cases h
    · split at h
      · cases h
      · obtain ⟨-, hid, rfl⟩ := Document.validate_eq_ok.mp h
        exact hid

theorem compileFile_eq_ok {fs : Files} {p : Path} {l : LoadedPlan} :
    fs.compileFile p = .ok l ↔
      l.path = p ∧ ∃ d, fs.readDocument p = .ok d ∧ l.metadata = d.metadata ∧
        Plan.compile d.filters = .ok l.plan := by
  simp only [compileFile, bind_eq_ok, mapError_eq_ok]
  constructor
  · rintro ⟨d, hread, plan, hplan, hl⟩
    cases hl
    exact ⟨rfl, d, hread, rfl, hplan⟩
  · rintro ⟨rfl, d, hread, hmetadata, hplan⟩
    refine ⟨d, hread, l.plan, hplan, ?_⟩
    rw [← hmetadata]
    rfl

end Files

/-! ### Installed plans -/

namespace Plans

theorem withdrawPath_eq_some {plans : Plans} {p : Path} {id : String} {l : LoadedPlan} :
    (plans.withdrawPath p)[id]? = some l ↔ plans[id]? = some l ∧ l.path ≠ p := by
  rw [withdrawPath, Std.ExtTreeMap.getElem?_filter', Option.filter_eq_some_iff, decide_eq_true_eq]

theorem install_self (plans : Plans) (x : LoadedPlan) :
    (plans.install x)[x.metadata.id]? = if x.metadata.enabled then some x else none := by
  unfold install
  by_cases henabled : x.metadata.enabled = true
  · simp [henabled]
  · simp [henabled]

theorem install_other (plans : Plans) (x : LoadedPlan) {id : String} (hid : id ≠ x.metadata.id) :
    (plans.install x)[id]? = plans[id]?.filter (·.path ≠ x.path) := by
  have hne : ¬ compare x.metadata.id id = .eq :=
    fun h => hid (Std.LawfulEqCmp.eq_of_compare h).symm
  have kept : (plans.filter fun other y => y.path ≠ x.path || other = x.metadata.id)[id]? =
      plans[id]?.filter (·.path ≠ x.path) := by
    rw [Std.ExtTreeMap.getElem?_filter']
    simp [hid]
  unfold install
  by_cases henabled : x.metadata.enabled = true
  · rw [if_pos henabled, Std.ExtTreeMap.getElem?_insert, if_neg hne, kept]
  · rw [if_neg henabled, Std.ExtTreeMap.getElem?_erase, if_neg hne, kept]

theorem install_eq_some {plans : Plans} {x : LoadedPlan} {id : String} {l : LoadedPlan} :
    (plans.install x)[id]? = some l ↔
      (id = x.metadata.id ∧ x.metadata.enabled = true ∧ l = x) ∨
      (id ≠ x.metadata.id ∧ plans[id]? = some l ∧ l.path ≠ x.path) := by
  by_cases hid : id = x.metadata.id
  · subst hid
    rw [install_self]
    by_cases henabled : x.metadata.enabled = true
    · simp [henabled, eq_comm]
    · simp [henabled]
  · rw [install_other plans x hid, Option.filter_eq_some_iff, decide_eq_true_eq]
    simp [hid]

theorem reload_ok {plans : Plans} {fs : Files} {p : Path} {x : LoadedPlan}
    (h : fs.compileFile p = .ok x) : plans.reload fs p = plans.install x := by
  simp only [reload, h]

theorem reload_error {plans : Plans} {fs : Files} {p : Path} {err : LibraryError}
    (h : fs.compileFile p = .error err) : plans.reload fs p = plans := by
  simp only [reload, h]

end Plans

/-! ### Visits -/

/-- What is done about one file: it is loaded as it is at that moment, or its plan is withdrawn. -/
inductive Visit where
  | load (fs : Files) (p : Path)
  | withdraw (p : Path)

def Visit.path : Visit → Path
  | .load _ p => p
  | .withdraw p => p

/-- What an event of a kind asks for at a path. -/
def FileEventKind.visit? (kind : FileEventKind) (fs : Files) (p : Path) : Option Visit :=
  if !Plans.follows p then none
  else match kind with
    | .created | .written | .renamed => if fs.holds p then some (.load fs p) else some (.withdraw p)
    | .removed => some (.withdraw p)
    | .other => none

namespace FileEventKind
variable {kind : FileEventKind} {fs : Files} {p : Path} {v : Visit}

/-- The kinds of event after which a file that is there is loaded. -/
def loads : FileEventKind → Bool
  | .created | .written | .renamed => true
  | .removed | .other => false

theorem visit?_eq_some : kind.visit? fs p = some v ↔
    Plans.follows p = true ∧
      (kind.loads = true ∧ fs.holds p = true ∧ v = .load fs p ∨
        (kind = .removed ∨ kind.loads = true ∧ fs.holds p = false) ∧ v = .withdraw p) := by
  unfold visit?
  by_cases hfollow : Plans.follows p = true
  · cases kind with
    | created => cases hheld : fs.holds p <;> simp [hfollow, loads, eq_comm (a := v)]
    | written => cases hheld : fs.holds p <;> simp [hfollow, loads, eq_comm (a := v)]
    | renamed => cases hheld : fs.holds p <;> simp [hfollow, loads, eq_comm (a := v)]
    | removed => simp [hfollow, loads, eq_comm (a := v)]
    | other => simp [loads]
  · simp [hfollow]

end FileEventKind

namespace Plans

def visit (plans : Plans) : Visit → Plans
  | .load fs p => plans.reload fs p
  | .withdraw p => plans.withdrawPath p

def visitAll (plans : Plans) (visits : List Visit) : Plans := visits.foldl visit plans

theorem visitAll_append (plans : Plans) (visits more : List Visit) :
    plans.visitAll (visits ++ more) = (plans.visitAll visits).visitAll more := by
  simp only [visitAll, List.foldl_append]

theorem handlePath_eq_visitAll (plans : Plans) (fs : Files) (kind : FileEventKind) (p : Path) :
    plans.handlePath fs kind p = plans.visitAll (kind.visit? fs p).toList := by
  unfold handlePath FileEventKind.visit?
  by_cases hfollow : follows p = true
  · cases kind with
    | created => cases hheld : fs.holds p <;> simp [hfollow, visitAll, visit]
    | written => cases hheld : fs.holds p <;> simp [hfollow, visitAll, visit]
    | renamed => cases hheld : fs.holds p <;> simp [hfollow, visitAll, visit]
    | removed => simp [hfollow, visitAll, visit]
    | other => simp [hfollow, visitAll]
  · simp [hfollow, visitAll]

theorem handle_eq_visitAll (plans : Plans) (fs : Files) (e : FileEvent) :
    plans.handle fs e = plans.visitAll (e.paths.filterMap (e.kind.visit? fs)) := by
  obtain ⟨kind, paths⟩ := e
  induction paths generalizing plans with
  | nil => rfl
  | cons p paths ih =>
      have hhead : plans.handle fs ⟨kind, p :: paths⟩ =
          (plans.handlePath fs kind p).handle fs ⟨kind, paths⟩ := rfl
      rw [hhead, ih, handlePath_eq_visitAll, ← visitAll_append]
      congr 1
      cases h : kind.visit? fs p with
      | none => simp [h]
      | some v => simp [h]

end Plans

/-! ### Histories of a library -/

/-- A scan of the folder; one file of a scan during which the files change; or the report of an
event, which may be about any paths. Each finds the files as they then are. -/
inductive LibraryEvent where
  | scan (fs : Files)
  | scanFile (fs : Files) (p : Path)
  | report (fs : Files) (e : FileEvent)

namespace LibraryEvent

/-- The files that an event is about, in the order in which they are visited. -/
def visits (folder : Path) : LibraryEvent → List Visit
  | .scan fs =>
    ((({ folder } : Library).listed fs).filter Plans.follows).map (.load fs)
  | .scanFile fs p => if Plans.follows p then [.load fs p] else []
  | .report fs e => e.paths.filterMap (e.kind.visit? fs)

end LibraryEvent

namespace Library

theorem loadOne_plans (fs : Files) (plans : Plans) (p : Path) :
    (loadOne fs plans p).2 = if Plans.follows p then plans.reload fs p else plans := by
  unfold loadOne Plans.follows
  cases hhidden : p.isHidden with
  | true => simp
  | false =>
      cases hformat : p.format? with
      | none => simp
      | some format =>
          cases hcompile : fs.compileFile p with
          | error err => simp [Plans.reload, hcompile]
          | ok x => simp [Plans.reload, hcompile]

theorem loadList_plans (fs : Files) (plans : Plans) (ps : List Path) :
    (loadList fs plans ps).2 = plans.visitAll ((ps.filter Plans.follows).map (.load fs)) := by
  induction ps generalizing plans with
  | nil => rfl
  | cons p ps ih =>
      have hhead : (loadList fs plans (p :: ps)).2 = (loadList fs (loadOne fs plans p).2 ps).2 := rfl
      rw [hhead, ih, loadOne_plans]
      by_cases hfollow : Plans.follows p = true
      · simp [hfollow, Plans.visitAll, Plans.visit]
      · simp [hfollow]

def step (l : Library) : LibraryEvent → Library
  | .scan fs => (l.loadAll fs).2
  | .scanFile fs p => { l with plans := (loadOne fs l.plans p).2 }
  | .report fs e => { l with plans := l.plans.handle fs e }

def run (l : Library) : List LibraryEvent → Library
  | [] => l
  | e :: es => (l.step e).run es

theorem step_folder (l : Library) (e : LibraryEvent) : (l.step e).folder = l.folder := by
  cases e with
  | scan fs => rfl
  | scanFile fs p => rfl
  | report fs e => rfl

theorem step_plans (l : Library) (e : LibraryEvent) :
    (l.step e).plans = l.plans.visitAll (e.visits l.folder) := by
  cases e with
  | scan fs => exact loadList_plans fs l.plans (l.listed fs)
  | scanFile fs p =>
      by_cases hfollow : Plans.follows p = true
      · simp [step, loadOne_plans, LibraryEvent.visits, hfollow, Plans.visitAll, Plans.visit]
      · simp [step, loadOne_plans, LibraryEvent.visits, hfollow, Plans.visitAll]
  | report fs e => exact l.plans.handle_eq_visitAll fs e

theorem run_plans (l : Library) (es : List LibraryEvent) :
    (l.run es).plans = l.plans.visitAll (es.flatMap (·.visits l.folder)) := by
  induction es generalizing l with
  | nil => rfl
  | cons e es ih =>
      calc (l.run (e :: es)).plans
          = (l.step e).plans.visitAll (es.flatMap (·.visits l.folder)) := by
            rw [run, ih, step_folder]
        _ = l.plans.visitAll ((e :: es).flatMap (·.visits l.folder)) := by
            rw [step_plans, List.flatMap_cons, Plans.visitAll_append]

end Library
end Shortlist
