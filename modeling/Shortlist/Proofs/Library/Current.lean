import Shortlist.Proofs.Library.Visit
/-! The plans that are installed at the end of a history. Each is the one that its file held when
the file was last read and compiled, and no file has two. -/
namespace Shortlist

/-- A visit that leaves the plan of its file as it was, for what the file holds does not compile. -/
def Visit.Fails : Visit → Prop
  | .load fs p => ∃ err, fs.compileFile p = .error err
  | .withdraw _ => False

/-- The plan was compiled on a visit to its file, and visits to the file since then all failed. -/
def LoadedPlan.LastOf (l : LoadedPlan) (visits : List Visit) : Prop :=
  ∃ before fs after, visits = before ++ .load fs l.path :: after ∧
    fs.compileFile l.path = .ok l ∧ ∀ v ∈ after, v.path = l.path → v.Fails

namespace LoadedPlan
variable {l : LoadedPlan} {visits : List Visit} {fs : Files} {p : Path}

theorem LastOf.concat {v : Visit} (last : l.LastOf visits) (h : v.path = l.path → v.Fails) :
    l.LastOf (visits ++ [v]) := by
  obtain ⟨before, fs, after, rfl, hcompile, hafter⟩ := last
  refine ⟨before, fs, after ++ [v], ?_, hcompile, ?_⟩
  · rw [List.append_assoc, List.cons_append]
  · intro w hw hpath
    cases List.mem_append.mp hw with
    | inl hold => exact hafter w hold hpath
    | inr hnew =>
        cases List.mem_singleton.mp hnew
        exact h hpath

theorem lastOf_load (h : fs.compileFile p = .ok l) : l.LastOf (visits ++ [.load fs p]) := by
  obtain ⟨rfl, -⟩ := Files.compileFile_eq_ok.mp h
  exact ⟨visits, fs, [], rfl, h, by simp⟩

/-- What is true of a plan that is installed under an id. -/
structure InstalledAs (l : LoadedPlan) (id : String) (visits : List Visit) : Prop where
  key : id = l.metadata.id
  named : (Text.trim id).isEmpty = false
  enabled : l.metadata.enabled = true
  last : l.LastOf visits

theorem installedAs_load (h : fs.compileFile p = .ok l) (henabled : l.metadata.enabled = true) :
    l.InstalledAs l.metadata.id (visits ++ [.load fs p]) := by
  obtain ⟨-, d, hread, hmetadata, -⟩ := Files.compileFile_eq_ok.mp h
  have named : (Text.trim l.metadata.id).isEmpty = false := by
    rw [hmetadata]
    exact Files.readDocument_named hread
  exact ⟨rfl, named, henabled, lastOf_load h⟩

theorem InstalledAs.concat {id : String} {v : Visit} (h : l.InstalledAs id visits)
    (hv : v.path = l.path → v.Fails) : l.InstalledAs id (visits ++ [v]) :=
  { h with last := h.last.concat hv }

end LoadedPlan

namespace Plans

/-- No file has two plans, and each plan is the last one of its file. -/
structure Current (plans : Plans) (visits : List Visit) : Prop where
  entry : ∀ (id : String) (l : LoadedPlan), plans[id]? = some l → l.InstalledAs id visits
  path : ∀ (id : String) (l : LoadedPlan) (id' : String) (l' : LoadedPlan),
    plans[id]? = some l → plans[id']? = some l' → l.path = l'.path → id = id'

theorem current_empty : (∅ : Plans).Current [] where
  entry := by simp
  path := by simp

namespace Current
variable {plans : Plans} {visits : List Visit} {fs : Files} {p : Path}

theorem load_ok {x : LoadedPlan} (cur : plans.Current visits) (h : fs.compileFile p = .ok x) :
    (plans.install x).Current (visits ++ [.load fs p]) := by
  obtain ⟨hpath, -⟩ := Files.compileFile_eq_ok.mp h
  constructor
  · intro id l hl
    obtain ⟨rfl, henabled, rfl⟩ | ⟨-, hold, hother⟩ := install_eq_some.mp hl
    · exact LoadedPlan.installedAs_load h henabled
    · apply (cur.entry id l hold).concat
      intro hvisit
      exact absurd (hvisit.symm.trans hpath.symm) hother
  · intro id l id' l' hl hl' hsame
    obtain ⟨rfl, -, rfl⟩ | ⟨-, hold, hother⟩ := install_eq_some.mp hl
    · obtain ⟨rfl, -, rfl⟩ | ⟨-, -, hother'⟩ := install_eq_some.mp hl'
      · rfl
      · exact absurd hsame.symm hother'
    · obtain ⟨rfl, -, rfl⟩ | ⟨-, hold', -⟩ := install_eq_some.mp hl'
      · exact absurd hsame hother
      · exact cur.path id l id' l' hold hold' hsame

theorem load_error {err : LibraryError} (cur : plans.Current visits)
    (h : fs.compileFile p = .error err) : plans.Current (visits ++ [.load fs p]) where
  entry := fun id l hl => (cur.entry id l hl).concat fun _ => ⟨err, h⟩
  path := cur.path

theorem withdraw (cur : plans.Current visits) (p : Path) :
    (plans.withdrawPath p).Current (visits ++ [.withdraw p]) := by
  constructor
  · intro id l hl
    obtain ⟨hold, hother⟩ := withdrawPath_eq_some.mp hl
    apply (cur.entry id l hold).concat
    intro hvisit
    exact absurd hvisit.symm hother
  · intro id l id' l' hl hl' hsame
    have hold := (withdrawPath_eq_some.mp hl).1
    have hold' := (withdrawPath_eq_some.mp hl').1
    exact cur.path id l id' l' hold hold' hsame

theorem visit (cur : plans.Current visits) (v : Visit) :
    (plans.visit v).Current (visits ++ [v]) := by
  cases v with
  | load fs p =>
      cases h : fs.compileFile p with
      | ok x =>
          rw [Plans.visit, reload_ok h]
          exact cur.load_ok h
      | error err =>
          rw [Plans.visit, reload_error h]
          exact cur.load_error h
  | withdraw p => exact cur.withdraw p

theorem visitAll (cur : plans.Current visits) (more : List Visit) :
    (plans.visitAll more).Current (visits ++ more) := by
  induction more generalizing plans visits with
  | nil =>
      rw [List.append_nil]
      exact cur
  | cons v more ih =>
      have hrest := ih (cur.visit v)
      rw [List.append_assoc] at hrest
      exact hrest

end Current
end Plans

namespace Library

theorem run_current (folder : Path) (es : List LibraryEvent) :
    (run { folder } es).plans.Current (es.flatMap (·.visits folder)) := by
  rw [run_plans]
  exact Plans.current_empty.visitAll _

/-- After any history of scans and events over changing files, each installed plan is found under
its own id, which is not blank, and is enabled. It has the header and the compiled rules of the
document that its file held on the last visit that could load it, and has not been withdrawn since.
No two plans are of one file. -/
theorem run_installs_last (folder : Path) (es : List LibraryEvent) :
    (run { folder } es).plans = Plans.visitAll ∅ (es.flatMap (·.visits folder)) ∧
    (∀ (id : String) (l : LoadedPlan), (run { folder } es).plans[id]? = some l →
      id = l.metadata.id ∧ (Text.trim id).isEmpty = false ∧ l.metadata.enabled = true ∧
      ∃ before fs after d,
        es.flatMap (·.visits folder) = before ++ .load fs l.path :: after ∧
        fs.readDocument l.path = .ok d ∧ l.metadata = d.metadata ∧
        Plan.compile d.filters = .ok l.plan ∧
        ∀ v ∈ after, v.path = l.path → v.Fails) ∧
    ∀ (id : String) (l : LoadedPlan) (id' : String) (l' : LoadedPlan),
      (run { folder } es).plans[id]? = some l → (run { folder } es).plans[id']? = some l' →
      l.path = l'.path → id = id' := by
  have cur := run_current folder es
  refine ⟨run_plans _ es, ?_, cur.path⟩
  intro id l hl
  have installed := cur.entry id l hl
  obtain ⟨before, fs, after, hvisits, hcompile, hafter⟩ := installed.last
  obtain ⟨-, d, hread, hmetadata, hplan⟩ := Files.compileFile_eq_ok.mp hcompile
  exact ⟨installed.key, installed.named, installed.enabled, before, fs, after, d, hvisits, hread,
    hmetadata, hplan, hafter⟩

end Library
end Shortlist
