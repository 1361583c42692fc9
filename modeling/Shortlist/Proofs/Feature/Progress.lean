import Mathlib.Data.List.Basic
import Shortlist.Proofs.Feature.Outcome
import Shortlist.Proofs.Feature.Alone
/-! The fetchers of one concurrent call, turn by turn. If they keep out of each other's way, each of
them does what it would do alone, in whatever order they take their turns. -/
namespace Shortlist

def Entities.withBarrier (e : Entities) (b : Barrier) : Entities :=
  { e with user := { e.user with barrier := b } }

/-- What is logged about the end of a fetcher. -/
def failuresOf (target : LoadTarget) (fetcher : String) : Option FetchStop → List FetchFailure
  | some (.failed error) => [{ target, fetcher, error }]
  | _ => []

namespace Fetcher

/-- What a fetcher does for a user that nobody else writes to. -/
def solo (r : Request) (u : User) (f : Fetcher) : Solo := (f.forUser r u.id).alone u.store

def failures (r : Request) (u : User) (f : Fetcher) : List FetchFailure :=
  failuresOf .user f.name (f.solo r u).stop?

/-- A fetcher that does not panic and does not touch the barrier. -/
structure Orderly (r : Request) (u : User) (f : Fetcher) : Prop where
  hands_off : (f.solo r u).handsOff
  no_panic : (f.solo r u).stop? ≠ some .panicked

def Apart (r : Request) (u : User) (f g : Fetcher) : Prop := (f.solo r u).Apart (g.solo r u)

end Fetcher

def FetchEvent.isTurn : FetchEvent → Bool
  | .advance _ | .resume _ => true
  | .start .. | .edit _ | .increment _ | .decrement _ => false

/-- A started fetcher: what is left of it, and what it would have made of the user's store alone. -/
structure Progress where
  fetcher : Fetcher
  rest : Program .user
  state : TaskState := .ready
  store : Store
  written : Set Cell := ∅

namespace Progress

def task (p : Progress) : FetchTask where
  call := 0
  target := .user
  fetcher := p.fetcher.name
  rest := p.rest
  state := p.state

def made (p : Progress) : Solo := { store := p.store, writes := p.written }

def ahead (p : Progress) : Solo := p.rest.alone p.store

def logged (r : Request) (u : User) (p : Progress) : List FetchFailure :=
  if p.state = .ended then p.fetcher.failures r u else []

def fresh (r : Request) (u : User) (f : Fetcher) : Progress where
  fetcher := f
  rest := f.forUser r u.id
  store := u.store

/-- After one more access. -/
def next (p : Progress) (op : StoreOp) (rest : op.Answer → Program .user) : Progress :=
  { p with
    rest := rest (op.perform p.store).1
    store := (op.perform p.store).2
    written := p.written ∪ op.writes p.store }

/-- What a fetcher has done and what it is about to do is what it does alone. -/
structure OnCourse (r : Request) (u : User) (p : Progress) : Prop where
  kept : ∀ c ∉ p.written, p.store.cell c = u.store.cell c
  scores : u.store.SameScores p.store
  store : p.ahead.store = (p.fetcher.solo r u).store
  reads : p.ahead.reads ⊆ (p.fetcher.solo r u).reads
  writes : p.written ∪ p.ahead.writes = (p.fetcher.solo r u).writes
  hands_off : p.ahead.handsOff
  stop? : p.state ≠ .ended → p.ahead.stop? = (p.fetcher.solo r u).stop?
  ended : p.state = .ended → p.rest = .done

namespace OnCourse
variable {r : Request} {u : User} {p : Progress}

theorem written_subset (h : p.OnCourse r u) : p.written ⊆ (p.fetcher.solo r u).writes :=
  h.writes ▸ Set.subset_union_left

theorem fresh {f : Fetcher} (h : f.Orderly r u) : (Progress.fresh r u f).OnCourse r u where
  kept _ _ := rfl
  scores := .refl u.store
  store := rfl
  reads := subset_rfl
  writes := Set.empty_union _
  hands_off := h.hands_off
  stop? _ := rfl
  ended hended := by cases hended

/-- To pause and to go on after a pause is to do nothing. -/
theorem turn (h : p.OnCourse r u) (hlive : p.state ≠ .ended) {rest : Program .user}
    {state : TaskState} (hrest : rest.alone p.store = p.ahead) (hstate : state ≠ .ended) :
    OnCourse r u { p with rest, state } where
  kept := h.kept
  scores := h.scores
  store := (congrArg Solo.store hrest).trans h.store
  reads := (congrArg Solo.reads hrest).subset.trans h.reads
  writes := (congrArg (p.written ∪ ·.writes) hrest).trans h.writes
  hands_off := (congrArg Solo.handsOff hrest).mpr h.hands_off
  stop? _ := (congrArg Solo.stop? hrest).trans (h.stop? hlive)
  ended hended := absurd hended hstate

theorem next (h : p.OnCourse r u) (hlive : p.state ≠ .ended) {op : StoreOp}
    {rest : op.Answer → Program .user} (hrest : p.rest = .call (.user op) rest) :
    (p.next op rest).OnCourse r u := by
  obtain ⟨fetcher, _, state, store, written⟩ := p
  cases hrest
  refine ⟨fun c hc => ?_, h.scores.trans (op.sameScores_perform store), h.store,
    Set.subset_union_right.trans h.reads, ?_, h.hands_off, fun _ => h.stop? hlive,
    fun hended => absurd hended hlive⟩
  · obtain ⟨hbefore, hop⟩ := not_or.mp hc
    exact (StoreOp.cell_perform_of_not_mem hop).trans (h.kept c hbefore)
  · exact (Set.union_assoc _ _ _).trans h.writes

/-- At its end a fetcher has done all that it does alone. -/
theorem done (h : p.OnCourse r u) (hlive : p.state ≠ .ended) {stop : Option FetchStop}
    (hrest : p.ahead = { stop? := stop, store := p.store }) :
    OnCourse r u { p with rest := .done, state := .ended } ∧
      p.fetcher.failures r u = failuresOf .user p.fetcher.name stop := by
  refine ⟨⟨h.kept, h.scores, ?_, Set.empty_subset _, ?_, trivial, fun hnot => absurd rfl hnot,
    fun _ => rfl⟩, ?_⟩
  · rw [← h.store, hrest]
    rfl
  · rw [← h.writes, hrest]
    rfl
  · rw [Fetcher.failures, ← h.stop? hlive, hrest]

/-- A fetcher that has ended has left what it leaves alone. -/
theorem made_eq (h : p.OnCourse r u) (hended : p.state = .ended) :
    p.store = (p.fetcher.solo r u).store ∧ p.written = (p.fetcher.solo r u).writes := by
  have hstore := h.store
  have hwrites := h.writes
  rw [Progress.ahead, h.ended hended] at hstore hwrites
  exact ⟨hstore, (Set.union_empty _).symm.trans hwrites⟩

end OnCourse
end Progress

namespace FetchSession

theorem logStop_eq (s : FetchSession) (target : LoadTarget) (fetcher : String)
    (stop : Option FetchStop) :
    s.logStop target fetcher stop =
      { s with failures := s.failures ++ failuresOf target fetcher stop } := by
  unfold logStop failuresOf
  split <;> simp

/-! ### One turn -/

theorem advance_idle {s : FetchSession} {k : Nat}
    (h : ∀ t, s.tasks[k]? = some t → t.state ≠ .ready) : s.advance k = s := by
  rcases s.advance_cases k with hsame | ⟨t, ht, hstate, -⟩
  · exact hsame
  · exact absurd hstate (h t ht)

/-- A turn of a fetcher that is ready and keeps its hands off the barrier: it ends, pauses or
accesses the store. -/
theorem advance_ready {s : FetchSession} {k : Nat} {p : Progress}
    (ht : s.tasks[k]? = some p.task) (hstate : p.state = .ready) (hands_off : p.ahead.handsOff) :
    (∃ stop, p.ahead = { stop? := stop, store := p.store } ∧
      s.advance k = s.endTask k p.task stop) ∨
    (∃ rest : Program .user, rest.alone p.store = p.ahead ∧
      s.advance k = s.setTask k { p with rest, state := .hanging : Progress }.task) ∨
    ∃ op rest, p.rest = .call (.user op) rest ∧
      s.advance k = { s with
        entities := s.entities.withStore (op.perform s.entities.user.store).2 }.setTask k
          { p with rest := rest (op.perform s.entities.user.store).1 : Progress }.task := by
  obtain ⟨fetcher, rest, state, store, written⟩ := p
  cases hstate
  cases rest with
  | done => exact Or.inl ⟨none, rfl, by simp only [FetchSession.advance, ht]; rfl⟩
  | fail e => exact Or.inl ⟨some (.failed e), rfl, by simp only [FetchSession.advance, ht]; rfl⟩
  | panic => exact Or.inl ⟨some .panicked, rfl, by simp only [FetchSession.advance, ht]; rfl⟩
  | pause rest =>
      exact Or.inr (Or.inl ⟨rest, rfl, by simp only [FetchSession.advance, ht]; rfl⟩)
  | call a rest =>
      cases a with
      | user op =>
          exact Or.inr (Or.inr ⟨op, rest, rfl, by simp only [FetchSession.advance, ht]; rfl⟩)
      | userBarrier op => exact hands_off.elim

theorem releaseLoad_frame (s : FetchSession) (call : Nat) :
    (s.releaseLoad call).entities = s.entities.withBarrier (s.releaseLoad call).own ∧
      (s.releaseLoad call).failures = s.failures := by
  unfold releaseLoad
  split
  · split <;> exact ⟨rfl, rfl⟩
  · exact ⟨rfl, rfl⟩

theorem endTask_frame (s : FetchSession) (k : Nat) (t : FetchTask) (stop : Option FetchStop) :
    (s.endTask k t stop).tasks = s.tasks.set k { t with rest := .done, state := .ended } ∧
      (s.endTask k t stop).entities = s.entities.withBarrier (s.endTask k t stop).own ∧
      (s.endTask k t stop).failures = s.failures ++ failuresOf t.target t.fetcher stop ∧
      (s.endTask k t stop).calls.length = s.calls.length := by
  rw [endTask, logStop_eq]
  refine ⟨releaseLoad_tasks _ _, ?_, ?_, releaseLoad_length⟩
  · exact (releaseLoad_frame _ _).1
  · exact (releaseLoad_frame _ _).2

/-! ### The fetchers of one call -/

/-- Every fetcher is on course, and the user holds what they have left together. -/
structure Underway (r : Request) (e : Entities) (fetchers : List Fetcher) (ps : List Progress)
    (s : FetchSession) : Prop where
  waiting : Waiting s
  called : s.calls.length = 1
  fetchers : ps.map (·.fetcher) = fetchers
  tasks : s.tasks = ps.map (·.task)
  on_course : ∀ p ∈ ps, p.OnCourse r e.user
  merges : e.user.store.Merges (ps.map (·.made)) s.entities.user.store
  entities : s.entities = (e.withStore s.entities.user.store).withBarrier s.own
  failures : s.failures.Perm (ps.flatMap (·.logged r e.user))

namespace Underway
variable {r : Request} {e : Entities} {fetchers : List Fetcher} {ps before later : List Progress}
  {p q : Progress} {s s' : FetchSession}

theorem course (h : Underway r e fetchers (before ++ p :: later) s) : p.OnCourse r e.user :=
  h.on_course p (List.mem_append_right _ List.mem_cons_self)

/-- A task belongs to one fetcher among the others, whatever becomes of it. -/
theorem split (h : Underway r e fetchers ps s) {k : Nat} {t : FetchTask}
    (ht : s.tasks[k]? = some t) :
    ∃ before p later, ps = before ++ p :: later ∧ p.task = t ∧
      ∀ q : Progress, s.tasks.set k q.task = (before ++ q :: later).map (·.task) := by
  rw [h.tasks, List.getElem?_map, Option.map_eq_some_iff] at ht
  obtain ⟨p, hp, htask⟩ := ht
  obtain ⟨hlt, hget⟩ := List.getElem?_eq_some_iff.mp hp
  refine ⟨ps.take k, p, ps.drop (k + 1), ?_, htask, fun q => ?_⟩
  · rw [← hget, List.getElem_cons_drop, List.take_append_drop]
  · rw [h.tasks, ← List.map_set, List.set_eq_take_append_cons_drop, if_pos hlt]

/-- What the others have written by now is apart from all that a fetcher does. -/
theorem neighbours (h : Underway r e fetchers (before ++ p :: later) s)
    (hapart : fetchers.Pairwise (Fetcher.Apart r e.user)) {o : Progress}
    (ho : o ∈ before ++ later) :
    (o.fetcher.solo r e.user).Apart (p.fetcher.solo r e.user) ∧ o.OnCourse r e.user := by
  rw [← h.fetchers, List.map_append, List.map_cons, List.pairwise_append,
    List.pairwise_cons] at hapart
  obtain ⟨-, ⟨hlater, -⟩, hbefore⟩ := hapart
  rcases List.mem_append.mp ho with ho | ho
  · exact ⟨hbefore _ (List.mem_map_of_mem ho) _ List.mem_cons_self,
      h.on_course o (List.mem_append_left _ ho)⟩
  · exact ⟨(hlater _ (List.mem_map_of_mem ho)).symm,
      h.on_course o (List.mem_append_right _ (List.mem_cons_of_mem p ho))⟩

/-- One fetcher goes on while the others stay where they are. -/
theorem replace (h : Underway r e fetchers (before ++ p :: later) s) (hlive : p.state ≠ .ended)
    (hfetcher : q.fetcher = p.fetcher) (hcourse : q.OnCourse r e.user) (hwaiting : Waiting s')
    (hcalls : s'.calls.length = s.calls.length)
    (htasks : s'.tasks = (before ++ q :: later).map (·.task))
    (hmerges : e.user.store.Merges ((before ++ q :: later).map (·.made)) s'.entities.user.store)
    (hentities : s'.entities = (e.withStore s'.entities.user.store).withBarrier s'.own)
    (hfailures : s'.failures = s.failures ++ q.logged r e.user) :
    Underway r e fetchers (before ++ q :: later) s' where
  waiting := hwaiting
  called := hcalls.trans h.called
  fetchers := by
    rw [← h.fetchers]
    simp [hfetcher]
  tasks := htasks
  on_course := by
    intro o ho
    rcases List.mem_append.mp ho with ho | ho
    · exact h.on_course o (List.mem_append_left _ ho)
    · rcases List.mem_cons.mp ho with rfl | ho
      · exact hcourse
      · exact h.on_course o (List.mem_append_right _ (List.mem_cons_of_mem p ho))
  merges := hmerges
  entities := hentities
  failures := by
    have hnone : p.logged r e.user = [] := if_neg hlive
    have hbefore := h.failures
    rw [List.flatMap_append, List.flatMap_cons, hnone, List.nil_append] at hbefore
    rw [hfailures, List.flatMap_append, List.flatMap_cons]
    refine (hbefore.append_right _).trans ?_
    rw [List.append_assoc]
    exact List.perm_append_comm.append_left _

theorem endTask (h : Underway r e fetchers (before ++ p :: later) s) {k : Nat}
    (ht : s.tasks[k]? = some p.task) (hstate : p.state = .ready)
    (hset : ∀ q : Progress, s.tasks.set k q.task = (before ++ q :: later).map (·.task))
    {stop : Option FetchStop} (hrest : p.ahead = { stop? := stop, store := p.store }) :
    Underway r e fetchers (before ++ { p with rest := .done, state := .ended } :: later)
      (s.endTask k p.task stop) := by
  have hlive : p.state ≠ .ended := by simp [hstate]
  obtain ⟨hcourse, hlogged⟩ := h.course.done hlive hrest
  obtain ⟨htasks, hentities, hfailures, hcalls⟩ := endTask_frame s k p.task stop
  have hstore : (s.endTask k p.task stop).entities.user.store = s.entities.user.store := by
    rw [hentities]
    rfl
  refine h.replace hlive rfl hcourse (h.waiting.endTask ht hstate stop) hcalls ?_ ?_ ?_ ?_
  · rw [htasks]
    exact hset { p with rest := .done, state := .ended }
  · have hmerges := h.merges
    simp only [List.map_append, List.map_cons] at hmerges ⊢
    rw [hstore]
    exact hmerges
  · rw [hstore, hentities, h.entities]
    rfl
  · rw [hfailures, Progress.logged, if_pos rfl, hlogged]
    rfl

/-- A fetcher pauses or goes on after a pause. -/
theorem turn (h : Underway r e fetchers (before ++ p :: later) s) {k : Nat}
    (ht : s.tasks[k]? = some p.task) (hlive : p.state ≠ .ended)
    (hset : ∀ q : Progress, s.tasks.set k q.task = (before ++ q :: later).map (·.task))
    {rest : Program .user} {state : TaskState} (hrest : rest.alone p.store = p.ahead)
    (hstate : state ≠ .ended) :
    Underway r e fetchers (before ++ { p with rest, state } :: later)
      (s.setTask k { p with rest, state : Progress }.task) := by
  have hplace : { p with rest, state : Progress }.task.place = p.task.place := by
    simp only [FetchTask.place, Progress.task, beq_false_of_ne hstate, beq_false_of_ne hlive]
  have hwaiting := h.waiting.steady ((Steady.refl s).setTask ht hplace) h.waiting.own_consistent
    (fun _ => rfl)
  refine h.replace hlive rfl (h.course.turn hlive hrest hstate) hwaiting rfl
    (hset { p with rest, state }) ?_ h.entities ?_
  · have hmerges := h.merges
    simp only [List.map_append, List.map_cons] at hmerges ⊢
    exact hmerges
  · exact (List.append_nil _).symm.trans (congrArg _ (if_neg hstate).symm)

/-- An access finds what it finds alone, since no other fetcher has written what this one reads,
and leaves what it leaves alone. -/
theorem next (h : Underway r e fetchers (before ++ p :: later) s)
    (hapart : fetchers.Pairwise (Fetcher.Apart r e.user)) {k : Nat}
    (ht : s.tasks[k]? = some p.task) (hlive : p.state ≠ .ended)
    (hset : ∀ q : Progress, s.tasks.set k q.task = (before ++ q :: later).map (·.task))
    {op : StoreOp} {rest : op.Answer → Program .user} (hrest : p.rest = .call (.user op) rest) :
    Underway r e fetchers (before ++ p.next op rest :: later)
      ({ s with entities := s.entities.withStore (op.perform s.entities.user.store).2 }.setTask k
        { p with rest := rest (op.perform s.entities.user.store).1 : Progress }.task) := by
  have hp := h.course
  have hnext := hp.next hlive hrest
  have hmerges := h.merges
  rw [List.map_append, List.map_cons] at hmerges
  have hothers : ∀ run ∈ before.map (·.made) ++ later.map (·.made), ∃ o ∈ before ++ later,
      run = o.made := by
    intro run hrun
    rw [← List.map_append] at hrun
    obtain ⟨o, ho, rfl⟩ := List.mem_map.mp hrun
    exact ⟨o, ho, rfl⟩
  have hread : op.reads ⊆ (p.fetcher.solo r e.user).reads := by
    refine subset_trans ?_ hp.reads
    rw [Progress.ahead, hrest]
    exact Set.subset_union_left
  have hfinds : ∀ c ∈ op.reads, s.entities.user.store.cell c = p.store.cell c := by
    intro c hc
    refine hmerges.view hp.kept fun run hrun hwritten => ?_
    obtain ⟨o, ho, rfl⟩ := hothers run hrun
    obtain ⟨ho, hcourse⟩ := h.neighbours hapart ho
    exact ho.unread c (hcourse.written_subset hwritten) (hread hc)
  have hscores : p.store.SameScores s.entities.user.store := hp.scores.symm.trans h.merges.scores
  have hwrites := StoreOp.writes_congr hfinds
  have htask : ({ p with rest := rest (op.perform s.entities.user.store).1 } : Progress).task =
      (p.next op rest).task := by
    rw [StoreOp.answer_congr hfinds hscores]
    rfl
  have hlogged : (p.next op rest).logged r e.user = [] := if_neg hlive
  rw [htask]
  refine h.replace hlive rfl hnext ?_ rfl (hset (p.next op rest)) ?_ ?_ ?_
  · have hsteady : Steady s { s with
        entities := s.entities.withStore (op.perform s.entities.user.store).2 } := ⟨rfl, rfl⟩
    exact h.waiting.steady (hsteady.setTask ht rfl) h.waiting.own_consistent (fun _ => rfl)
  · rw [List.map_append, List.map_cons]
    refine hmerges.replace Set.subset_union_left (fun c hc => ?_) (fun c hc => ?_)
      (fun name hname => ?_) (fun run hrun c hc hwritten => ?_)
      (op.sameScores_perform s.entities.user.store)
    · by_cases hop : c ∈ op.writes p.store
      · exact StoreOp.cell_perform_congr hfinds hop
      · have hbefore : c ∈ p.written := hc.resolve_right hop
        calc (op.perform s.entities.user.store).2.cell c
            = s.entities.user.store.cell c := StoreOp.cell_perform_of_not_mem (hwrites ▸ hop)
          _ = p.store.cell c := hmerges.written p.made (by simp) c hbefore
          _ = (op.perform p.store).2.cell c := (StoreOp.cell_perform_of_not_mem hop).symm
    · obtain ⟨-, hop⟩ := not_or.mp hc
      exact StoreOp.cell_perform_of_not_mem (hwrites ▸ hop)
    · by_cases hop : .space name ∈ op.writes s.entities.user.store
      · exact StoreOp.cell_perform_space hop
      · have hbefore : .space name ∈ p.written := hname.resolve_right (hwrites ▸ hop)
        exact (StoreOp.cell_perform_of_not_mem hop).trans
          (hmerges.spaces p.made (by simp) name hbefore)
    · obtain ⟨o, ho, rfl⟩ := hothers run hrun
      obtain ⟨ho, hcourse⟩ := h.neighbours hapart ho
      exact ho.common (hcourse.written_subset hc) (hnext.written_subset hwritten)
  · have hentities := h.entities
    simp only [setTask]
    rw [hentities]
    rfl
  · rw [hlogged, List.append_nil]
    rfl

theorem advance (h : Underway r e fetchers ps s)
    (hapart : fetchers.Pairwise (Fetcher.Apart r e.user)) (k : Nat) :
    ∃ ps', Underway r e fetchers ps' (s.advance k) := by
  by_cases hready : ∃ t, s.tasks[k]? = some t ∧ t.state = .ready
  · obtain ⟨t, ht, hstate⟩ := hready
    obtain ⟨before, p, later, rfl, rfl, hset⟩ := h.split ht
    have hlive : p.state ≠ .ended := by
      intro hended
      cases hstate.symm.trans hended
    rcases advance_ready ht hstate h.course.hands_off with
      ⟨stop, hrest, hadvance⟩ | ⟨rest, hrest, hadvance⟩ | ⟨op, rest, hrest, hadvance⟩
    · rw [hadvance]
      exact ⟨_, h.endTask ht hstate hset hrest⟩
    · rw [hadvance]
      exact ⟨_, h.turn ht hlive hset hrest (by decide)⟩
    · rw [hadvance]
      exact ⟨_, h.next hapart ht hlive hset hrest⟩
  · rw [advance_idle (fun t ht hstate => hready ⟨t, ht, hstate⟩)]
    exact ⟨ps, h⟩

theorem resume (h : Underway r e fetchers ps s) (k : Nat) :
    ∃ ps', Underway r e fetchers ps' (s.resume k) := by
  unfold FetchSession.resume
  split
  · next t ht =>
      split
      · next hstate =>
          obtain ⟨before, p, later, rfl, rfl, hset⟩ := h.split ht
          have hlive : p.state ≠ .ended := by
            intro hended
            cases hstate.symm.trans hended
          have hready : TaskState.ready ≠ .ended := by decide
          exact ⟨_, h.turn ht hlive hset rfl hready⟩
      · exact ⟨ps, h⟩
  · exact ⟨ps, h⟩

theorem run (h : Underway r e fetchers ps s)
    (hapart : fetchers.Pairwise (Fetcher.Apart r e.user)) {schedule : List FetchEvent}
    (hturns : ∀ turn ∈ schedule, turn.isTurn = true) :
    ∃ ps', Underway r e fetchers ps' (s.run schedule) := by
  induction schedule generalizing s ps with
  | nil => exact ⟨ps, h⟩
  | cons turn schedule ih =>
      obtain ⟨ps', h'⟩ : ∃ ps', Underway r e fetchers ps' (s.step turn) := by
        have hturn := hturns turn List.mem_cons_self
        cases turn with
        | advance k => exact h.advance hapart k
        | resume k => exact h.resume k
        | start target loader request => cases hturn
        | edit f => cases hturn
        | increment n => cases hturn
        | decrement n => cases hturn
      exact ih h' (fun turn hmem => hturns turn (List.mem_cons_of_mem _ hmem))

/-- Once its call is told that it completed, every fetcher has left what it leaves alone. -/
theorem completed (h : Underway r e fetchers ps s) (houtcome : s.outcomeOf 0 = .completed) :
    e.user.store.Merges (fetchers.map (·.solo r e.user)) s.entities.user.store ∧
      s.failures.Perm (fetchers.flatMap (·.failures r e.user)) := by
  have hcall : 0 < s.calls.length := by simp [h.called]
  have hlive : s.live 0 = 0 := by
    rw [h.waiting.outcomeOf_eq (List.getElem?_eq_getElem hcall)] at houtcome
    by_cases hzero : s.live 0 = 0
    · exact hzero
    · rw [if_neg hzero] at houtcome
      cases houtcome
  have hended : ∀ p ∈ ps, p.state = .ended := by
    intro p hp
    refine live_eq_zero_iff.mp hlive p.task (List.mem_filter.mpr ⟨?_, rfl⟩)
    rw [h.tasks]
    exact List.mem_map_of_mem hp
  have hlogged : ps.flatMap (·.logged r e.user) = fetchers.flatMap (·.failures r e.user) := by
    rw [← h.fetchers, List.flatMap_map]
    exact List.flatMap_congr fun p hp => if_pos (hended p hp)
  refine ⟨?_, hlogged ▸ h.failures⟩
  rw [← h.fetchers, List.map_map]
  exact h.merges.congr fun p hp => (h.on_course p hp).made_eq (hended p hp)

end Underway

theorem start_frame (s : FetchSession) (loader : Loader) (request : Request) :
    (s.start .user loader request).tasks = s.tasks ++ s.newTasks .user loader request ∧
      (s.start .user loader request).entities =
        s.entities.withBarrier (s.start .user loader request).own ∧
      (s.start .user loader request).failures = s.failures ∧
      (s.start .user loader request).calls.length = s.calls.length + 1 := by
  simp only [start]
  split
  · exact ⟨rfl, rfl, rfl, spawn_length _ _ _ _ _⟩
  · exact ⟨rfl, rfl, rfl, spawn_length _ _ _ _ _⟩

theorem underway_start {e : Entities} (hb : e.user.barrier.Reachable) {loader : Loader}
    {request : Request} (horderly : ∀ f ∈ loader.fetchers, f.Orderly request e.user)
    (hne : loader.fetchers ≠ []) :
    ∃ ps, Underway request e loader.fetchers ps (start { entities := e } .user loader request) := by
  obtain ⟨htasks, hentities, hfailures, hcalls⟩ := start_frame { entities := e } loader request
  refine ⟨loader.fetchers.map (Progress.fresh request e.user),
    (waiting_new hb.consistent).start .user request hne, hcalls, ?_, ?_, ?_, ?_, ?_, ?_⟩
  · rw [List.map_map]
    exact List.map_id loader.fetchers
  · rw [htasks, List.map_map]
    rfl
  · intro p hp
    obtain ⟨f, hf, rfl⟩ := List.mem_map.mp hp
    exact .fresh (horderly f hf)
  · rw [hentities]
    refine (Store.Merges.nil e.user.store).idle fun run hrun => ?_
    obtain ⟨p, hp, rfl⟩ := List.mem_map.mp hrun
    obtain ⟨f, -, rfl⟩ := List.mem_map.mp hp
    rfl
  · rw [hentities]
    rfl
  · rw [hfailures]
    simp [List.flatMap_map, Progress.fresh, Progress.logged]

end FetchSession
end Shortlist
