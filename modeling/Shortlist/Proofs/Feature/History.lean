import Shortlist.Feature.Session
import Shortlist.Proofs.Barrier.History
/-! Histories of feature loads: calls start, their fetchers take their steps in any order, and
others use the entities meanwhile. A waiting call may take its last look in any state. -/
namespace Shortlist

def BarrierOp.moves : BarrierOp → Bool
  | .increment _ | .decrement _ | .claim _ => true
  | .pending | .phase => false

def Access.movesOwn {target : LoadTarget} : Access target → Bool
  | .userBarrier op => op.moves
  | .user _ | .item .. | .itemBarrier .. => false

/-- `edit` is all that may happen to the entities apart from their barriers: the promotion at the
end of a call, a new batch of items, a write by whoever it is. `increment` and `decrement` move
the user's own barrier from outside. -/
inductive FetchEvent where
  | start (target : LoadTarget) (loader : Loader) (request : Request)
  | advance (task : Nat)
  | resume (task : Nat)
  | edit (f : Entities → Entities)
  | increment (n : UInt64)
  | decrement (n : UInt64)

/-- What waiting depends on in a task: its call, its name, and whether it has ended. -/
def FetchTask.place (t : FetchTask) : Nat × String × Bool :=
  (t.call, t.fetcher, t.state == .ended)

def FetchEvent.hasFetchers : FetchEvent → Bool
  | .start _ loader _ => !loader.fetchers.isEmpty
  | .advance _ | .resume _ | .edit _ | .increment _ | .decrement _ => true

namespace FetchSession

def own (s : FetchSession) : Barrier := s.entities.user.barrier

def step (s : FetchSession) : FetchEvent → FetchSession
  | .start target loader request => s.start target loader request
  | .advance k => s.advance k
  | .resume k => s.resume k
  | .edit f => { s with entities := f s.entities }.setUserBarrier s.own
  | .increment n => s.setUserBarrier (s.own.increment n).2
  | .decrement n => s.setUserBarrier (s.own.decrement n).2

def run (s : FetchSession) : List FetchEvent → FetchSession
  | [] => s
  | e :: es => (s.step e).run es

def moments (s : FetchSession) : List FetchEvent → List (FetchSession × FetchEvent)
  | [] => []
  | e :: es => (s, e) :: (s.step e).moments es

/-- Whether an event moves the user's own barrier without starting or ending a load. -/
def meddles (s : FetchSession) : FetchEvent → Bool
  | .increment _ | .decrement _ => true
  | .advance k =>
    match s.tasks[k]? with
    | some { state := .ready, rest := .call a _, .. } => a.movesOwn
    | _ => false
  | .start .. | .resume _ | .edit _ => false

def claimed (s : FetchSession) : Bool := s.calls.any (·.fresh?.isNone)

/-- Nothing but the loads of a call moves the barrier that the call waits on. The barriers made
for a call are out of reach anyway, so this is about the user's own one. -/
def Undisturbed (s : FetchSession) (es : List FetchEvent) : Prop :=
  ∀ m ∈ s.moments es, m.1.claimed = true → m.1.meddles m.2 = false

instance (s : FetchSession) (es : List FetchEvent) : Decidable (s.Undisturbed es) :=
  inferInstanceAs (Decidable (∀ m ∈ s.moments es, m.1.claimed = true → m.1.meddles m.2 = false))

theorem run_append (s : FetchSession) (es fs : List FetchEvent) :
    s.run (es ++ fs) = (s.run es).run fs := by
  induction es generalizing s with
  | nil => rfl
  | cons e es ih => exact ih (s.step e)

/-! ### Whole loads as histories -/

theorem settleTask_eq_run {s : FetchSession} {k : Nat} {t : FetchTask} {p : Program t.target}
    (ht : s.tasks[k]? = some { t with rest := p }) (hstate : t.state = .ready) :
    ∃ ks : List Nat, s.settleTask k t p = s.run (ks.map .advance) := by
  have hstep : s.advance k = s.run ([k].map .advance) := rfl
  induction p generalizing s with
  | done => exact ⟨[k], by rw [← hstep]; simp only [advance, ht, hstate]; rfl⟩
  | fail e => exact ⟨[k], by rw [← hstep]; simp only [advance, ht, hstate]; rfl⟩
  | panic => exact ⟨[k], by rw [← hstep]; simp only [advance, ht, hstate]; rfl⟩
  | pause rest _ => exact ⟨[k], by rw [← hstep]; simp only [advance, ht, hstate]; rfl⟩
  | call a next ih =>
      have hk := (List.getElem?_eq_some_iff.mp ht).1
      obtain ⟨ks, hks⟩ := ih (a.perform s.entities).1
        (s := { s with entities := (a.perform s.entities).2 }.setTask k
          { t with rest := next (a.perform s.entities).1 }) (List.getElem?_set_self hk) rfl
      refine ⟨k :: ks, hks.trans ?_⟩
      have hadvance : s.advance k = { s with entities := (a.perform s.entities).2 }.setTask k
          { t with rest := next (a.perform s.entities).1 } := by
        simp only [advance, ht, hstate]
      rw [← hadvance]
      rfl

theorem settle_eq_run (s : FetchSession) (k : Nat) :
    ∃ ks : List Nat, s.settle k = s.run (ks.map .advance) := by
  unfold settle
  split
  · next t ht =>
      split
      · next hstate => exact settleTask_eq_run ht hstate
      · exact ⟨[], rfl⟩
  · exact ⟨[], rfl⟩

theorem foldl_settle_eq_run (tasks : List Nat) (s : FetchSession) :
    ∃ ks : List Nat, tasks.foldl settle s = s.run (ks.map .advance) := by
  induction tasks generalizing s with
  | nil => exact ⟨[], rfl⟩
  | cons k tasks ih =>
      obtain ⟨ks, hks⟩ := s.settle_eq_run k
      obtain ⟨later, hlater⟩ := ih (s.settle k)
      exact ⟨ks ++ later, by rw [List.map_append, run_append, ← hks]; exact hlater⟩

theorem settleAll_eq_run (s : FetchSession) :
    ∃ ks : List Nat, s.settleAll = s.run (ks.map .advance) :=
  foldl_settle_eq_run (List.range s.tasks.length) s

/-- A concurrent load is the history of its start and of its fetchers' steps, with the last look
at the end. -/
theorem load_eq_run (s : FetchSession) {target : LoadTarget} {loader : Loader}
    (request : Request) (hwork : s.nothingToLoad target loader = false)
    (hconcurrent : loader.config.concurrent = true) :
    ∃ ks : List Nat, ∃ s', s' = s.run (.start target loader request :: ks.map .advance) ∧
      s.load target loader request =
        (s'.finish target loader (s'.outcomeOf s.calls.length)).map some id := by
  obtain ⟨ks, hks⟩ := (s.start target loader request).settleAll_eq_run
  refine ⟨ks, _, rfl, ?_⟩
  simp only [load, hwork, hconcurrent, hks, run, step]
  rfl

/-! ### One step of a fetcher -/

theorem BarrierOp.perform_move (b : Barrier) (op : BarrierOp) :
    ((op.perform b).2 = b ∨ op.moves = true) ∧
      ∃ added taken, b.Move added taken (op.perform b).2 := by
  cases op with
  | pending => exact ⟨Or.inl rfl, 0, 0, .keep⟩
  | phase => exact ⟨Or.inl rfl, 0, 0, .keep⟩
  | increment n => exact ⟨Or.inr rfl, _, _, Barrier.increment_move b n⟩
  | decrement n => exact ⟨Or.inr rfl, _, _, Barrier.decrement_move b n⟩
  | claim n =>
      refine ⟨Or.inr rfl, ?_⟩
      simp only [BarrierOp.perform]
      cases h : b.claim? n with
      | none => exact ⟨0, 0, .keep⟩
      | some b' => exact ⟨n, 0, Barrier.claim?_move h⟩

/-- An access leaves the user's barrier alone, unless that is what it is for. -/
theorem perform_barrier {target : LoadTarget} (e : Entities) (a : Access target) :
    (a.perform e).2.user.barrier = e.user.barrier ∨
      a.movesOwn = true ∧
        ∃ added taken, e.user.barrier.Move added taken (a.perform e).2.user.barrier := by
  cases a with
  | user op => exact Or.inl rfl
  | item place op => exact Or.inl rfl
  | itemBarrier place op => exact Or.inl rfl
  | userBarrier op =>
      obtain ⟨hsame | hmoves, hmove⟩ := BarrierOp.perform_move e.user.barrier op
      · exact Or.inl hsame
      · exact Or.inr ⟨hmoves, hmove⟩

/-- All that a step of a fetcher can be: nothing, its end, a pause, or one access to the
entities. -/
theorem advance_cases (s : FetchSession) (k : Nat) :
    s.advance k = s ∨ ∃ t, s.tasks[k]? = some t ∧ t.state = .ready ∧
      ((∃ stop, s.advance k = s.endTask k t stop) ∨
        (∃ rest, s.advance k = s.setTask k { t with rest, state := .hanging }) ∨
        ∃ a next, t.rest = .call a next ∧
          s.advance k = { s with entities := (a.perform s.entities).2 }.setTask k
            { t with rest := next (a.perform s.entities).1 }) := by
  unfold advance
  split
  · exact Or.inl rfl
  · next t ht =>
      split
      · next hstate hrest => exact Or.inr ⟨t, ht, hstate, Or.inl ⟨none, rfl⟩⟩
      · next e hstate hrest => exact Or.inr ⟨t, ht, hstate, Or.inl ⟨some (.failed e), rfl⟩⟩
      · next hstate hrest => exact Or.inr ⟨t, ht, hstate, Or.inl ⟨some .panicked, rfl⟩⟩
      · next rest hstate hrest => exact Or.inr ⟨t, ht, hstate, Or.inr (Or.inl ⟨rest, rfl⟩)⟩
      · next a next hstate hrest =>
          exact Or.inr ⟨t, ht, hstate, Or.inr (Or.inr ⟨a, next, hrest, rfl⟩)⟩
      · exact Or.inl rfl
      · exact Or.inl rfl

/-! ### One step of a history -/

/-- No call was started and no fetcher has ended. -/
structure Steady (s s' : FetchSession) : Prop where
  calls : s'.calls = s.calls
  tasks : s'.tasks.map FetchTask.place = s.tasks.map FetchTask.place

theorem Steady.refl (s : FetchSession) : Steady s s := ⟨rfl, rfl⟩

theorem Steady.setTask {s s' : FetchSession} (hs : Steady s s') {k : Nat} {t t' : FetchTask}
    (ht : s.tasks[k]? = some t) (hplace : t'.place = t.place) : Steady s (s'.setTask k t') := by
  refine ⟨hs.calls, ?_⟩
  obtain ⟨hlt, hget⟩ := List.getElem?_eq_some_iff.mp ht
  simp only [FetchSession.setTask, List.map_set, hs.tasks, hplace, ← hget]
  rw [← List.map_set, List.set_getElem_self]

theorem resume_steady (s : FetchSession) (k : Nat) :
    Steady s (s.resume k) ∧ (s.resume k).own = s.own := by
  unfold resume
  split
  · next t ht =>
      split
      · next hstate =>
          refine ⟨(Steady.refl s).setTask ht ?_, rfl⟩
          simp only [FetchTask.place, hstate]
          rfl
      · exact ⟨.refl s, rfl⟩
  · exact ⟨.refl s, rfl⟩

theorem meddles_call {s : FetchSession} {k : Nat} {t : FetchTask} {a : Access t.target}
    {next : a.Answer → Program t.target} (ht : s.tasks[k]? = some t) (hstate : t.state = .ready)
    (hrest : t.rest = .call a next) : s.meddles (.advance k) = a.movesOwn := by
  obtain ⟨call, target, fetcher, rest, state⟩ := t
  dsimp only at a next hstate hrest
  subst hstate hrest
  simp only [meddles, ht]

/-- All that an event can be: the start of a call, the end of a fetcher, or something that starts
and ends nothing. In the last case the user's own barrier stays, unless the event meddles. -/
theorem step_cases (s : FetchSession) (e : FetchEvent) :
    (∃ target loader request,
      e = .start target loader request ∧ s.step e = s.start target loader request) ∨
    (∃ k t stop, s.tasks[k]? = some t ∧ t.state = .ready ∧ s.step e = s.endTask k t stop) ∨
    (Steady s (s.step e) ∧ ((s.step e).own = s.own ∨
      s.meddles e = true ∧ ∃ added taken, s.own.Move added taken (s.step e).own)) := by
  cases e with
  | start target loader request => exact Or.inl ⟨target, loader, request, rfl, rfl⟩
  | resume k => exact Or.inr (Or.inr ⟨(resume_steady s k).1, Or.inl (resume_steady s k).2⟩)
  | edit f => exact Or.inr (Or.inr ⟨⟨rfl, rfl⟩, Or.inl rfl⟩)
  | increment n =>
      exact Or.inr (Or.inr ⟨⟨rfl, rfl⟩, Or.inr ⟨rfl, _, _, Barrier.increment_move s.own n⟩⟩)
  | decrement n =>
      exact Or.inr (Or.inr ⟨⟨rfl, rfl⟩, Or.inr ⟨rfl, _, _, Barrier.decrement_move s.own n⟩⟩)
  | advance k =>
      change _ ∨ _ ∨ (Steady s (s.advance k) ∧ ((s.advance k).own = s.own ∨
        s.meddles (.advance k) = true ∧ ∃ added taken, s.own.Move added taken (s.advance k).own))
      rcases advance_cases s k with h | ⟨t, ht, hstate, hend | ⟨rest, h⟩ | hperform⟩
      · rw [h]
        exact Or.inr (Or.inr ⟨.refl s, Or.inl rfl⟩)
      · obtain ⟨stop, h⟩ := hend
        exact Or.inr (Or.inl ⟨k, t, stop, ht, hstate, h⟩)
      · rw [h]
        refine Or.inr (Or.inr ⟨(Steady.refl s).setTask ht ?_, Or.inl rfl⟩)
        simp only [FetchTask.place, hstate]
        rfl
      · obtain ⟨a, next, hrest, h⟩ := hperform
        have hsteady : Steady s { s with entities := (a.perform s.entities).2 } := ⟨rfl, rfl⟩
        rw [h, meddles_call ht hstate hrest]
        exact Or.inr (Or.inr ⟨hsteady.setTask ht rfl, perform_barrier s.entities a⟩)

end FetchSession
end Shortlist
