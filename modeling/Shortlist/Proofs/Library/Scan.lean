import Shortlist.Proofs.Library.Contents
/-! The plans that a first scan installs, described by the files alone. When the documents of a
folder all compile, under ids of their own, it does not matter in which order they are visited. -/
namespace Shortlist
open Library

/-- All documents of the folder compile, and no two of them have the same id. -/
structure Files.Coherent (fs : Files) (folder : Path) : Prop where
  compiles : ∀ p ∈ documents folder fs, ∃ l, fs.compileFile p = .ok l
  distinct : ∀ p ∈ documents folder fs, ∀ q ∈ documents folder fs, ∀ l l' : LoadedPlan,
    fs.compileFile p = .ok l → fs.compileFile q = .ok l' → l.metadata.id = l'.metadata.id → p = q

/-- The plan is that of a document of the folder, as the document now is. -/
structure LoadedPlan.ServedBy (l : LoadedPlan) (folder : Path) (fs : Files) : Prop where
  listed : l.path ∈ documents folder fs
  compiled : fs.compileFile l.path = .ok l
  enabled : l.metadata.enabled = true

/-- A visit that does what the files ask for: a document is loaded, and the plan of anything else
is withdrawn. -/
def Visit.Fits (folder : Path) (fs : Files) : Visit → Prop
  | .load fs' p => fs' = fs ∧ p ∈ documents folder fs
  | .withdraw p => p ∉ documents folder fs

namespace Plans

/-- The plans are those of the files as they are, except for the plans of some paths that have yet
to be visited. -/
structure UpToDateBut (plans : Plans) (folder : Path) (fs : Files) (pending : Path → Prop) :
    Prop where
  entry : ∀ (id : String) (l : LoadedPlan), plans[id]? = some l →
    id = l.metadata.id ∧ (l.ServedBy folder fs ∨ pending l.path)
  found : ∀ l : LoadedPlan, l.ServedBy folder fs → plans[l.metadata.id]? = some l ∨ pending l.path

def UpToDate (plans : Plans) (folder : Path) (fs : Files) : Prop :=
  plans.UpToDateBut folder fs fun _ => False

namespace UpToDateBut
variable {plans : Plans} {folder : Path} {fs : Files} {pending pending' : Path → Prop}

theorem imp (up : plans.UpToDateBut folder fs pending) (h : ∀ q, pending q → pending' q) :
    plans.UpToDateBut folder fs pending' where
  entry := fun id l hl => ⟨(up.entry id l hl).1, (up.entry id l hl).2.imp_right (h l.path)⟩
  found := fun l hl => (up.found l hl).imp_right (h l.path)

theorem load {p : Path} (coherent : fs.Coherent folder)
    (up : plans.UpToDateBut folder fs pending) (hp : p ∈ documents folder fs) :
    (plans.reload fs p).UpToDateBut folder fs fun q => pending q ∧ q ≠ p := by
  obtain ⟨x, hx⟩ := coherent.compiles p hp
  obtain ⟨rfl, -⟩ := Files.compileFile_eq_ok.mp hx
  rw [reload_ok hx]
  constructor
  · intro id l hl
    obtain ⟨rfl, henabled, rfl⟩ | ⟨-, hold, hother⟩ := install_eq_some.mp hl
    · exact ⟨rfl, .inl ⟨hp, hx, henabled⟩⟩
    · exact (up.entry id l hold).imp_right fun h => h.imp_right fun hpending => ⟨hpending, hother⟩
  · intro l served
    by_cases hpath : l.path = x.path
    · have hcompiled := served.compiled
      rw [hpath, hx] at hcompiled
      cases hcompiled
      exact .inl (install_eq_some.mpr (.inl ⟨rfl, served.enabled, rfl⟩))
    · have hid : l.metadata.id ≠ x.metadata.id := fun hid =>
        hpath (coherent.distinct l.path served.listed x.path hp l x served.compiled hx hid)
      apply (up.found l served).imp
      · exact fun hold => install_eq_some.mpr (.inr ⟨hid, hold, hpath⟩)
      · exact fun hpending => ⟨hpending, hpath⟩

theorem withdraw {p : Path} (up : plans.UpToDateBut folder fs pending)
    (hp : p ∉ documents folder fs) :
    (plans.withdrawPath p).UpToDateBut folder fs fun q => pending q ∧ q ≠ p := by
  constructor
  · intro id l hl
    obtain ⟨hold, hother⟩ := withdrawPath_eq_some.mp hl
    exact (up.entry id l hold).imp_right fun h => h.imp_right fun hpending => ⟨hpending, hother⟩
  · intro l served
    have hother : l.path ≠ p := fun hpath => hp (hpath ▸ served.listed)
    apply (up.found l served).imp
    · exact fun hold => withdrawPath_eq_some.mpr ⟨hold, hother⟩
    · exact fun hpending => ⟨hpending, hother⟩

theorem visit {v : Visit} (coherent : fs.Coherent folder)
    (up : plans.UpToDateBut folder fs pending) (fits : v.Fits folder fs) :
    (plans.visit v).UpToDateBut folder fs fun q => pending q ∧ q ≠ v.path := by
  cases v with
  | load fs' p =>
      obtain ⟨rfl, hp⟩ := fits
      exact up.load coherent hp
  | withdraw p => exact up.withdraw fits

theorem visitAll {visits : List Visit} (coherent : fs.Coherent folder)
    (up : plans.UpToDateBut folder fs pending) (fits : ∀ v ∈ visits, v.Fits folder fs) :
    (plans.visitAll visits).UpToDateBut folder fs
      fun q => pending q ∧ ∀ v ∈ visits, q ≠ v.path := by
  induction visits generalizing plans pending with
  | nil => exact up.imp fun q hq => ⟨hq, by simp⟩
  | cons v visits ih =>
      obtain ⟨hv, hvisits⟩ := List.forall_mem_cons.mp fits
      apply (ih (up.visit coherent hv) hvisits).imp
      rintro q ⟨⟨hq, hne⟩, hrest⟩
      exact ⟨hq, List.forall_mem_cons.mpr ⟨hne, hrest⟩⟩

end UpToDateBut

/-- The files leave no choice. -/
theorem UpToDate.unique {plans plans' : Plans} {folder : Path} {fs : Files}
    (up : plans.UpToDate folder fs) (up' : plans'.UpToDate folder fs) : plans = plans' := by
  have sub : ∀ {a b : Plans}, a.UpToDate folder fs → b.UpToDate folder fs →
      ∀ (id : String) (l : LoadedPlan), a[id]? = some l → b[id]? = some l := by
    intro a b ha hb id l hl
    obtain ⟨rfl, served⟩ := ha.entry id l hl
    exact (hb.found l (served.resolve_right not_false)).resolve_right not_false
  apply Std.ExtTreeMap.ext_getElem?
  intro id
  apply Option.ext
  exact fun l => ⟨sub up up' id l, sub up' up id l⟩

end Plans

namespace Library

/-- The plans of a new library after its first scan. -/
def scanned (folder : Path) (fs : Files) : Plans := (({ folder } : Library).loadAll fs).2.plans

theorem scanned_upToDate {folder : Path} {fs : Files} (coherent : fs.Coherent folder) :
    (scanned folder fs).UpToDate folder fs := by
  have visits : scanned folder fs = Plans.visitAll ∅ ((documents folder fs).map (.load fs)) :=
    loadList_plans fs ∅ _
  have start : (∅ : Plans).UpToDateBut folder fs (· ∈ documents folder fs) :=
    { entry := by simp, found := fun l served => .inr served.listed }
  rw [visits]
  apply (start.visitAll coherent ?_).imp
  · rintro q ⟨hq, hvisited⟩
    exact hvisited (.load fs q) (List.mem_map.mpr ⟨q, hq, rfl⟩) rfl
  · intro v hv
    obtain ⟨p, hp, rfl⟩ := List.mem_map.mp hv
    exact ⟨rfl, hp⟩

theorem scanned_eq_some {folder : Path} {fs : Files} {l : LoadedPlan}
    (coherent : fs.Coherent folder) (served : l.ServedBy folder fs) :
    (scanned folder fs)[l.metadata.id]? = some l :=
  ((scanned_upToDate coherent).found l served).resolve_right not_false

end Library

theorem servedBy_home {folder p : Path} {fs : Files} (hfile : fs.file? p = some homeText.toUTF8)
    (hcovers : covers folder p = true) (hfollow : Plans.follows p = true)
    (hformat : p.format? = some .json) : (homePlan p).ServedBy folder fs where
  listed := mem_documents.mpr ⟨hcovers, hfollow, Option.isSome_of_mem hfile⟩
  compiled := Files.compileFile_home hfile hformat
  enabled := rfl

end Shortlist
