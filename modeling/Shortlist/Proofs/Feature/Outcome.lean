import Shortlist.Proofs.Feature.Waiting
/-! Outcomes of loads in flight. A call is told that it completed exactly if its own fetchers have
ended by its last look, and it makes no difference to anybody how a fetcher ends. -/
namespace Shortlist

/-- Some use of a new barrier leads to this one. -/
def Barrier.Reachable (b : Barrier) : Prop :=
  ∃ es : List BarrierEvent, (BarrierSession.run {} es).barrier = b

theorem Barrier.Reachable.consistent {b : Barrier} (h : b.Reachable) : b.Consistent := by
  obtain ⟨es, rfl⟩ := h
  exact BarrierSession.run_consistent Barrier.consistent_new es

namespace FetchSession

/-- What a call is told that takes its last look in this state. -/
def report (s : FetchSession) (call : Nat) (c : LoadCall) : LoadReport :=
  (s.finish c.target c.loader (s.outcomeOf call)).1

def quiet (s : FetchSession) : FetchSession := { s with failures := [] }

/-- The session in which a fetcher is about to return instead of taking its next step. -/
def returning (s : FetchSession) (k : Nat) : FetchSession :=
  match s.tasks[k]? with
  | some t => s.setTask k { t with rest := .done }
  | none => s

/-! ### The log decides nothing -/

theorem releaseLoad_quiet (s : FetchSession) (call : Nat) :
    (s.releaseLoad call).quiet = s.quiet.releaseLoad call := by
  simp only [releaseLoad, quiet]
  split
  · split <;> rfl
  · rfl

theorem logStop_quiet (s : FetchSession) (target : LoadTarget) (fetcher : String)
    (stop : Option FetchStop) : (s.logStop target fetcher stop).quiet = s.quiet := by
  unfold logStop
  split <;> rfl

theorem endTask_quiet (s : FetchSession) (k : Nat) (t : FetchTask) (stop : Option FetchStop) :
    (s.endTask k t stop).quiet =
      (s.quiet.setTask k { t with rest := .done, state := .ended }).releaseLoad t.call := by
  rw [endTask, releaseLoad_quiet, logStop_quiet]
  rfl

theorem quiet_tasks (s : FetchSession) : s.quiet.tasks = s.tasks := rfl

theorem quiet_entities (s : FetchSession) : s.quiet.entities = s.entities := rfl

theorem advance_quiet (s : FetchSession) (k : Nat) :
    (s.advance k).quiet = (s.quiet.advance k).quiet := by
  have hend : ∀ t stop, (s.endTask k t stop).quiet = (s.quiet.endTask k t stop).quiet := by
    intro t stop
    rw [endTask_quiet, endTask_quiet]
    rfl
  unfold advance
  simp only [quiet_tasks, quiet_entities]
  split
  · rfl
  · next t ht =>
      split
      · exact hend t none
      · exact hend t _
      · exact hend t _
      · rfl
      · rfl
      · rfl
      · rfl

theorem step_quiet (s : FetchSession) (e : FetchEvent) :
    (s.step e).quiet = (s.quiet.step e).quiet := by
  cases e with
  | start target loader request =>
      simp only [step, start]
      cases target with
      | items => rfl
      | user =>
          simp only [quiet]
          split <;> rfl
  | advance k => exact advance_quiet s k
  | resume k =>
      simp only [step, resume, quiet]
      split
      · split <;> rfl
      · rfl
  | edit f => rfl
  | increment n => rfl
  | decrement n => rfl

theorem run_quiet (s : FetchSession) (es : List FetchEvent) :
    (s.run es).quiet = (s.quiet.run es).quiet := by
  induction es generalizing s with
  | nil => rfl
  | cons e es ih =>
      calc ((s.step e).run es).quiet
        _ = ((s.step e).quiet.run es).quiet := ih (s.step e)
        _ = ((s.quiet.step e).quiet.run es).quiet := by rw [step_quiet]
        _ = ((s.quiet.step e).run es).quiet := (ih (s.quiet.step e)).symm

theorem run_quiet_congr {s s' : FetchSession} (h : s.quiet = s'.quiet) (es : List FetchEvent) :
    (s.run es).quiet = (s'.run es).quiet := by
  rw [run_quiet, h, ← run_quiet]

theorem advance_returning {s : FetchSession} {k : Nat} {t : FetchTask}
    (ht : s.tasks[k]? = some t) (hstate : t.state = .ready) :
    ((s.returning k).advance k).quiet = (s.endTask k t none).quiet := by
  have hk := (List.getElem?_eq_some_iff.mp ht).1
  have hreturning : s.returning k = s.setTask k { t with rest := .done } := by
    simp only [returning, ht]
  have hget : (s.returning k).tasks[k]? = some { t with rest := .done } := by
    rw [hreturning]
    exact List.getElem?_set_self hk
  have hadvance : (s.returning k).advance k =
      (s.returning k).endTask k { t with rest := .done } none := by
    simp only [advance, hget, hstate]
  have hset : (s.returning k).quiet.setTask k { t with rest := .done, state := .ended } =
      s.quiet.setTask k { t with rest := .done, state := .ended } := by
    rw [hreturning]
    simp only [setTask, quiet, List.set_set]
  rw [hadvance, endTask_quiet, endTask_quiet, hset]

/-- A fetcher that ends by an error or a panic might as well have returned: nothing but the log
of failures is any different, now or later. -/
theorem run_advance_quiet {s : FetchSession} {k : Nat} {t : FetchTask}
    (ht : s.tasks[k]? = some t) (hstate : t.state = .ready)
    (hended : (s.advance k).tasks[k]?.map (·.state) = some .ended) (es : List FetchEvent) :
    ((s.advance k).run es).quiet = (((s.returning k).advance k).run es).quiet := by
  have hk := (List.getElem?_eq_some_iff.mp ht).1
  refine run_quiet_congr ?_ es
  rw [advance_returning ht hstate]
  rcases s.advance_cases k with h | ⟨t', ht', hstate', ⟨stop, h⟩ | ⟨rest, h⟩ | hperform⟩
  · rw [h, ht] at hended
    cases hstate.symm.trans (Option.some.inj hended)
  · cases ht.symm.trans ht'
    rw [h, endTask_quiet, endTask_quiet]
  · rw [h] at hended
    simp only [setTask, List.getElem?_set_self hk] at hended
    cases hended
  · obtain ⟨a, next, -, h⟩ := hperform
    rw [h] at hended
    simp only [setTask, List.getElem?_set_self hk] at hended
    cases hstate'.symm.trans (Option.some.inj hended)

/-- Without fetchers, or without items to fetch for, a call starts nothing and has no wait. -/
theorem load_nothing {s : FetchSession} {target : LoadTarget} {loader : Loader}
    (h : s.nothingToLoad target loader = true) (request : Request) :
    (s.load target loader request).1.map (·.outcome) = some .completed ∧
      (s.load target loader request).2.tasks = s.tasks := by
  rw [load, if_pos h, finish]
  cases target with
  | user => exact ⟨rfl, rfl⟩
  | items => exact ⟨rfl, rfl⟩

/-- For any calls in flight on one user and any order of their fetchers' steps: a call starts all
its fetchers, is told `completed` exactly if all of them have ended by its last look and `timedOut`
otherwise, and leaves a complete barrier once they have. A call without work completes at once.
How a fetcher ends is not to be seen. -/
theorem call_outcomes {e : Entities} (hb : e.user.barrier.Reachable) {es : List FetchEvent}
    (hfetchers : ∀ e ∈ es, e.hasFetchers = true) (hes : Undisturbed { entities := e } es) :
    let s := run { entities := e } es
    (∀ call c, s.calls[call]? = some c →
      (s.tasksOf call).map (·.fetcher) = c.loader.fetchers.map (·.name) ∧
      ((s.report call c).outcome = .completed ↔ ∀ t ∈ s.tasksOf call, t.state = .ended) ∧
      ((s.report call c).outcome = .timedOut ↔ ∃ t ∈ s.tasksOf call, t.state ≠ .ended) ∧
      (s.report call c).outcome ≠ .aborted ∧
      ((∀ t ∈ s.tasksOf call, t.state = .ended) →
        (s.barrierOf call).phase = .complete ∧ (s.barrierOf call).pending = 0)) ∧
    (∀ target loader request, s.nothingToLoad target loader = true →
      (s.load target loader request).1.map (·.outcome) = some .completed ∧
      (s.load target loader request).2.tasks = s.tasks) ∧
    ∀ k t, s.tasks[k]? = some t → t.state = .ready →
      (s.advance k).tasks[k]?.map (·.state) = some .ended →
      ∀ fs, ((s.advance k).run fs).quiet = (((s.returning k).advance k).run fs).quiet := by
  intro s
  have hs : Waiting s := (waiting_new hb.consistent).run hfetchers hes
  refine ⟨fun call c hc => ?_, fun _ _ request hnothing => load_nothing hnothing request,
    fun k t ht hstate hended => run_advance_quiet ht hstate hended⟩
  have houtcome : (s.report call c).outcome = if s.live call = 0 then .completed else .timedOut :=
    hs.outcomeOf_eq hc
  refine ⟨hs.started call c hc, ?_, ?_, ?_, fun hended => ?_⟩
  · rw [houtcome, ← live_eq_zero_iff]
    split
    · next h => exact ⟨fun _ => h, fun _ => rfl⟩
    · next h => exact ⟨fun hout => (by cases hout), fun hzero => absurd hzero h⟩
  · rw [houtcome]
    split
    · next h =>
        have hended := live_eq_zero_iff.mp h
        exact ⟨fun hout => (by cases hout), fun ⟨t, ht, hne⟩ => absurd (hended t ht) hne⟩
    · next h => exact ⟨fun _ => by simpa [live_eq_zero_iff] using h, fun _ => rfl⟩
  · rw [houtcome]
    split <;> simp
  · rw [hs.awaits call c hc, live_eq_zero_iff.mpr hended]
    exact ⟨rfl, rfl⟩

/-- Two calls at once, the first on the user's own barrier. One of its fetchers pauses and never
goes on, a panic ends the other, and the second call has both of its fetchers ended. -/
theorem call_outcomes_overlapping :
    let user : User := { id := "u1" }
    let loader : Loader :=
      { fetchers := [{ name := "profile", forUser := fun _ _ => .pause .done },
          { name := "broken", forUser := fun _ _ => .panic }]
        config := {} }
    let start : FetchEvent := .start .user loader { scene := "home" }
    let es : List FetchEvent := [start, .advance 1, start, .advance 0, .advance 2, .advance 3,
      .resume 2, .advance 2]
    let s := run { entities := { user, items := [] } } es
    (user.barrier.Reachable ∧ (∀ e ∈ es, e.hasFetchers = true) ∧
      Undisturbed { entities := { user, items := [] } } es) ∧
    (∃ c, s.calls[0]? = some c ∧ (s.report 0 c).outcome = .timedOut) ∧
    ∃ c, s.calls[1]? = some c ∧ (s.report 1 c).outcome = .completed ∧
      (s.barrierOf 1).phase = .complete := by
  intro user loader start es s
  have hb : user.barrier.Reachable := ⟨[], rfl⟩
  have hfetchers : ∀ e ∈ es, e.hasFetchers = true := by decide
  have hes : Undisturbed { entities := { user, items := [] } } es := by decide
  obtain ⟨hcalls, -⟩ := call_outcomes hb hfetchers hes
  have hfirst : 0 < s.calls.length := by decide
  have hsecond : 1 < s.calls.length := by decide
  have hended : ∀ t ∈ s.tasksOf 1, t.state = .ended := by decide
  obtain ⟨-, -, htimedOut, -⟩ := hcalls 0 _ (List.getElem?_eq_getElem hfirst)
  obtain ⟨-, hcompleted, -, -, hphase⟩ := hcalls 1 _ (List.getElem?_eq_getElem hsecond)
  refine ⟨⟨hb, hfetchers, hes⟩, ⟨_, List.getElem?_eq_getElem hfirst, htimedOut.mpr (by decide)⟩,
    ⟨_, List.getElem?_eq_getElem hsecond, hcompleted.mpr hended, (hphase hended).1⟩⟩

end FetchSession
end Shortlist
