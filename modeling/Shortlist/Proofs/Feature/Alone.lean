import Shortlist.Feature.Fetch
import Shortlist.Proofs.Entity.Footprint
/-! What a program does for a user that nobody else writes to. It does the same for any user that
looks the same to it, and in company it leaves the same behind if nobody comes near the cells that
it reads and writes. -/
namespace Shortlist

/-- How a program ends alone and what it leaves, with the cells that it has read and written by
then. It may have touched the user's barrier, which is not in its store. -/
structure Solo where
  stop? : Option FetchStop := none
  store : Store
  reads : Set Cell := ∅
  writes : Set Cell := ∅
  handsOff : Prop := True

def Program.alone (s : Store) : Program .user → Solo
  | .done => { store := s }
  | .fail e => { stop? := some (.failed e), store := s }
  | .panic => { stop? := some .panicked, store := s }
  | .pause next => next.alone s
  | .call (.user op) next =>
    let rest := (next (op.perform s).1).alone (op.perform s).2
    { rest with reads := op.reads ∪ rest.reads, writes := op.writes s ∪ rest.writes }
  | .call (.userBarrier _) _ => { store := s, handsOff := False }

namespace Solo

/-- Two programs that write no property and no feature of a namespace in common, and of which
neither reads what the other one writes. Both may create a namespace. -/
structure Apart (a b : Solo) : Prop where
  property : ∀ key, .property key ∈ a.writes → .property key ∉ b.writes
  feature : ∀ name key, .feature name key ∈ a.writes → .feature name key ∉ b.writes
  unread : ∀ c ∈ a.writes, c ∉ b.reads
  unwritten : ∀ c ∈ a.reads, c ∉ b.writes

/-- Two runs of one program that leave the same in the same cells. -/
structure Alike (a b : Solo) : Prop where
  stop? : b.stop? = a.stop?
  reads : b.reads = a.reads
  writes : b.writes = a.writes
  handsOff : b.handsOff ↔ a.handsOff
  cells : ∀ c ∈ a.writes, b.store.cell c = a.store.cell c

/-- Only a namespace can be written by two programs that are apart. -/
theorem Apart.common {a b : Solo} (h : a.Apart b) {c : Cell} (ha : c ∈ a.writes)
    (hb : c ∈ b.writes) : ∃ name, c = .space name := by
  cases c with
  | property key => exact absurd hb (h.property key ha)
  | feature name key => exact absurd hb (h.feature name key ha)
  | space name => exact ⟨name, rfl⟩

theorem Apart.symm {a b : Solo} (h : a.Apart b) : b.Apart a where
  property key hb ha := h.property key ha hb
  feature name key hb ha := h.feature name key ha hb
  unread c hb ha := h.unwritten c ha hb
  unwritten c hb ha := h.unread c ha hb

end Solo

namespace Store

theorem SameScores.refl (s : Store) : s.SameScores s := ⟨rfl, rfl⟩

theorem SameScores.trans {s t u : Store} (h : s.SameScores t) (h' : t.SameScores u) :
    s.SameScores u :=
  ⟨h'.1.trans h.1, h'.2.trans h.2⟩

theorem SameScores.symm {s t : Store} (h : s.SameScores t) : t.SameScores s :=
  ⟨h.1.symm, h.2.symm⟩

end Store

def Entities.withStore (e : Entities) (store : Store) : Entities :=
  { e with user := { e.user with store } }

namespace Program
variable {s t : Store}

theorem alone_scores (s : Store) (p : Program .user) : s.SameScores (p.alone s).store := by
  induction p generalizing s with
  | done => exact .refl s
  | fail e => exact .refl s
  | panic => exact .refl s
  | pause next ih => exact ih s
  | call a next ih =>
      cases a with
      | user op => exact (op.sameScores_perform s).trans (ih _ _)
      | userBarrier op => exact .refl s

theorem alone_frame {p : Program .user} {c : Cell} (h : c ∉ (p.alone s).writes) :
    (p.alone s).store.cell c = s.cell c := by
  induction p generalizing s with
  | done => rfl
  | fail e => rfl
  | panic => rfl
  | pause next ih => exact ih h
  | call a next ih =>
      cases a with
      | user op =>
          obtain ⟨hop, hrest⟩ := not_or.mp h
          exact (ih _ hrest).trans (StoreOp.cell_perform_of_not_mem hop)
      | userBarrier op => rfl

/-- A program acts on what it reads, and leaves the same wherever it finds the same. -/
theorem alone_congr {p : Program .user} (h : ∀ c ∈ (p.alone s).reads, t.cell c = s.cell c)
    (hscores : s.SameScores t) : (p.alone s).Alike (p.alone t) := by
  induction p generalizing s t with
  | done => exact ⟨rfl, rfl, rfl, Iff.rfl, fun c hc => by cases hc⟩
  | fail e => exact ⟨rfl, rfl, rfl, Iff.rfl, fun c hc => by cases hc⟩
  | panic => exact ⟨rfl, rfl, rfl, Iff.rfl, fun c hc => by cases hc⟩
  | pause next ih => exact ih h hscores
  | call a next ih =>
      cases a with
      | userBarrier op => exact ⟨rfl, rfl, rfl, Iff.rfl, fun c hc => by cases hc⟩
      | user op =>
          have hop : ∀ c ∈ op.reads, t.cell c = s.cell c := fun c hc => h c (Or.inl hc)
          have hwrites := StoreOp.writes_congr hop
          have hanswer := StoreOp.answer_congr hop hscores
          have hnext : ∀ c ∈ ((next (op.perform s).1).alone (op.perform s).2).reads,
              (op.perform t).2.cell c = (op.perform s).2.cell c := by
            intro c hc
            by_cases hwritten : c ∈ op.writes s
            · exact StoreOp.cell_perform_congr hop hwritten
            · rw [StoreOp.cell_perform_of_not_mem hwritten,
                StoreOp.cell_perform_of_not_mem (hwrites ▸ hwritten)]
              exact h c (Or.inr hc)
          have hafter : (op.perform s).2.SameScores (op.perform t).2 :=
            (op.sameScores_perform s).symm.trans (hscores.trans (op.sameScores_perform t))
          have hrest : ((next (op.perform s).1).alone (op.perform s).2).Alike
              ((next (op.perform t).1).alone (op.perform t).2) := by
            rw [hanswer]
            exact ih _ hnext hafter
          refine ⟨hrest.stop?, congrArg (op.reads ∪ ·) hrest.reads,
            congrArg₂ (· ∪ ·) hwrites hrest.writes, hrest.handsOff, fun c hc => ?_⟩
          by_cases hlater : c ∈ ((next (op.perform s).1).alone (op.perform s).2).writes
          · exact hrest.cells c hlater
          · have hnow : c ∈ op.writes s := hc.resolve_right hlater
            calc ((next (op.perform t).1).alone (op.perform t).2).store.cell c
                = (op.perform t).2.cell c := alone_frame (hrest.writes ▸ hlater)
              _ = (op.perform s).2.cell c := StoreOp.cell_perform_congr hop hnow
              _ = ((next (op.perform s).1).alone (op.perform s).2).store.cell c :=
                (alone_frame hlater).symm

/-- Nobody takes a namespace away that a program has created. -/
theorem alone_space {p : Program .user} {name : String} (h : .space name ∈ (p.alone s).writes) :
    (p.alone s).store.cell (.space name) = some .null := by
  induction p generalizing s with
  | done => cases h
  | fail e => cases h
  | panic => cases h
  | pause next ih => exact ih h
  | call a next ih =>
      cases a with
      | userBarrier op => cases h
      | user op =>
          by_cases hlater : .space name ∈ ((next (op.perform s).1).alone (op.perform s).2).writes
          · exact ih _ hlater
          · exact (alone_frame hlater).trans
              (StoreOp.cell_perform_space (h.resolve_right hlater))

/-- Without a pause in its way, a program that keeps its hands off the barrier ends as alone. -/
theorem finish_user {p : Program .user} {e : Entities} (h : (p.alone e.user.store).handsOff) :
    p.finish e =
      ((p.alone e.user.store).stop?, e.withStore (p.alone e.user.store).store) := by
  induction p generalizing e with
  | done => rfl
  | fail err => rfl
  | panic => rfl
  | pause next ih => exact ih h
  | call a next ih =>
      cases a with
      | userBarrier op => exact h.elim
      | user op => exact ih _ (e := e.withStore (op.perform e.user.store).2) h

end Program

/-- What several runs leave together: what each of them has left in the cells that it wrote, and
the start anywhere else. -/
structure Store.Merges (start : Store) (runs : List Solo) (s : Store) : Prop where
  written : ∀ run ∈ runs, ∀ c ∈ run.writes, s.cell c = run.store.cell c
  kept : ∀ c, (∀ run ∈ runs, c ∉ run.writes) → s.cell c = start.cell c
  spaces : ∀ run ∈ runs, ∀ name, .space name ∈ run.writes → s.cell (.space name) = some .null
  scores : start.SameScores s

namespace Store.Merges
variable {start s t : Store} {runs before later : List Solo} {a b : Solo}

theorem nil (start : Store) : start.Merges [] start where
  written _ h := by cases h
  kept _ _ := rfl
  spaces _ h := by cases h
  scores := .refl start

/-- Runs that have written nothing make no difference. -/
theorem idle (h : start.Merges runs s) {more : List Solo} (hmore : ∀ run ∈ more, run.writes = ∅) :
    start.Merges (runs ++ more) s := by
  have hcases : ∀ run ∈ runs ++ more, ∀ c ∈ run.writes, run ∈ runs := by
    intro run hrun c hc
    refine (List.mem_append.mp hrun).resolve_right fun hidle => ?_
    rw [hmore run hidle] at hc
    cases hc
  exact ⟨fun run hrun c hc => h.written run (hcases run hrun c hc) c hc,
    fun c hnone => h.kept c fun run hrun => hnone run (List.mem_append_left more hrun),
    fun run hrun name hc => h.spaces run (hcases run hrun _ hc) name hc, h.scores⟩

theorem congr {α : Type} {xs : List α} {f g : α → Solo} (h : start.Merges (xs.map f) s)
    (hsame : ∀ x ∈ xs, (f x).store = (g x).store ∧ (f x).writes = (g x).writes) :
    start.Merges (xs.map g) s := by
  refine ⟨fun run hrun c hc => ?_, fun c hnone => h.kept c fun run hrun => ?_,
    fun run hrun name hc => ?_, h.scores⟩
  · obtain ⟨x, hx, rfl⟩ := List.mem_map.mp hrun
    rw [← (hsame x hx).1]
    exact h.written _ (List.mem_map_of_mem hx) c ((hsame x hx).2 ▸ hc)
  · obtain ⟨x, hx, rfl⟩ := List.mem_map.mp hrun
    rw [(hsame x hx).2]
    exact hnone _ (List.mem_map_of_mem hx)
  · obtain ⟨x, hx, rfl⟩ := List.mem_map.mp hrun
    exact h.spaces _ (List.mem_map_of_mem hx) name ((hsame x hx).2 ▸ hc)

theorem unique (hs : start.Merges runs s) (ht : start.Merges runs t) : t = s := by
  refine ext_cell (fun c => ?_) (hs.scores.symm.trans ht.scores)
  by_cases h : ∃ run ∈ runs, c ∈ run.writes
  · obtain ⟨run, hrun, hc⟩ := h
    exact (ht.written run hrun c hc).trans (hs.written run hrun c hc).symm
  · have hnone : ∀ run ∈ runs, c ∉ run.writes := fun run hrun hc => h ⟨run, hrun, hc⟩
    exact (ht.kept c hnone).trans (hs.kept c hnone).symm

/-- Where no other run has written, a run finds what it has left itself. -/
theorem view (h : start.Merges (before ++ a :: later) s)
    (hkept : ∀ c ∉ a.writes, a.store.cell c = start.cell c) {c : Cell}
    (hothers : ∀ other ∈ before ++ later, c ∉ other.writes) : s.cell c = a.store.cell c := by
  by_cases hc : c ∈ a.writes
  · exact h.written a (by simp) c hc
  · rw [hkept c hc]
    refine h.kept c fun run hrun => ?_
    rcases List.mem_append.mp hrun with hrun | hrun
    · exact hothers run (List.mem_append_left _ hrun)
    · rcases List.mem_cons.mp hrun with rfl | hrun
      · exact hc
      · exact hothers run (List.mem_append_right _ hrun)

/-- One run goes on, and the others stay where they are. What it has in common with any of them
are namespaces. -/
theorem replace (h : start.Merges (before ++ a :: later) s) (hmore : a.writes ⊆ b.writes)
    (hwritten : ∀ c ∈ b.writes, t.cell c = b.store.cell c)
    (hframe : ∀ c ∉ b.writes, t.cell c = s.cell c)
    (hspaces : ∀ name, .space name ∈ b.writes → t.cell (.space name) = some .null)
    (hcommon : ∀ other ∈ before ++ later, ∀ c ∈ other.writes, c ∈ b.writes →
      ∃ name, c = .space name) (hscores : s.SameScores t) :
    start.Merges (before ++ b :: later) t := by
  have hcases : ∀ run ∈ before ++ b :: later, run = b ∨
      run ∈ before ++ later ∧ run ∈ before ++ a :: later := by
    intro run hrun
    simp only [List.mem_append, List.mem_cons] at hrun ⊢
    rcases hrun with hrun | rfl | hrun
    · exact Or.inr ⟨Or.inl hrun, Or.inl hrun⟩
    · exact Or.inl rfl
    · exact Or.inr ⟨Or.inr hrun, Or.inr (Or.inr hrun)⟩
  refine ⟨fun run hrun c hc => ?_, fun c hnone => ?_, fun run hrun name hc => ?_,
    h.scores.trans hscores⟩
  · rcases hcases run hrun with rfl | ⟨hother, hrun⟩
    · exact hwritten c hc
    · have hbefore := h.written run hrun c hc
      by_cases hb : c ∈ b.writes
      · obtain ⟨name, rfl⟩ := hcommon run hother c hc hb
        rw [hspaces name hb, ← hbefore, h.spaces run hrun name hc]
      · exact (hframe c hb).trans hbefore
  · have hb : c ∉ b.writes := hnone b (by simp)
    rw [hframe c hb]
    refine h.kept c fun run hrun hc => ?_
    rcases List.mem_append.mp hrun with hrun | hrun
    · exact hnone run (List.mem_append_left _ hrun) hc
    · rcases List.mem_cons.mp hrun with rfl | hrun
      · exact hb (hmore hc)
      · exact hnone run (List.mem_append_right _ (List.mem_cons_of_mem b hrun)) hc
  · by_cases hb : .space name ∈ b.writes
    · exact hspaces name hb
    · rcases hcases run hrun with rfl | ⟨-, hrun⟩
      · exact absurd hc hb
      · exact (hframe _ hb).trans (h.spaces run hrun name hc)

/-- One more program after the others, if it keeps apart from what they have done. -/
theorem alone (h : start.Merges runs s) {p : Program .user}
    (hapart : ∀ run ∈ runs, run.Apart (p.alone start)) :
    (p.alone start).Alike (p.alone s) ∧
      start.Merges (runs ++ [p.alone start]) (p.alone s).store := by
  have hidle : start.Merges (runs ++ [{ store := start }]) s :=
    h.idle fun run hrun => by rw [List.mem_singleton.mp hrun]
  have hreads : ∀ c ∈ (p.alone start).reads, s.cell c = start.cell c := by
    intro c hc
    exact h.kept c fun run hrun hwritten => (hapart run hrun).unread c hwritten hc
  have halike := Program.alone_congr hreads h.scores
  refine ⟨halike, hidle.replace (Set.empty_subset _) halike.cells (fun c hc => ?_)
    (fun name hname => ?_) (fun run hrun c hc hp => ?_) (Program.alone_scores s p)⟩
  · exact Program.alone_frame (halike.writes ▸ hc)
  · exact Program.alone_space (halike.writes ▸ hname)
  · rw [List.append_nil] at hrun
    exact (hapart run hrun).common hc hp

end Store.Merges
end Shortlist
