import Shortlist.Proofs.Feature.History
/-! What waiting calls are told. The barrier of a call counts the fetchers of that call that are
still at work, whatever else goes on and in whatever order, so a call completes exactly when its
own fetchers have ended. -/
namespace Shortlist

/-- A barrier on which `n` of the registered loads have not ended. -/
def Barrier.awaiting : Nat → Barrier
  | 0 => { phase := .complete, announced := .complete }
  | n + 1 => { pending := UInt64.ofNat (n + 1), phase := .loading }

/-- Whether a task still holds the load that its call registered for it. -/
def FetchTask.holds (t : FetchTask) (call : Nat) : Bool := t.call == call && t.state != .ended

def FetchTask.label (t : FetchTask) : Nat × String := (t.call, t.fetcher)

namespace Barrier

theorem awaiting_pos {n : Nat} (h : 0 < n) :
    awaiting n = { pending := UInt64.ofNat n, phase := .loading } := by
  cases n with
  | zero => cases h
  | succ n => rfl

theorem release_awaiting {n : Nat} (h : n + 1 < 2 ^ 64) :
    (awaiting (n + 1)).release = awaiting n := by
  have hpending : (UInt64.ofNat (n + 1)).toNat = n + 1 := UInt64.toNat_ofNat_of_lt' h
  have hle : 1 ≤ UInt64.ofNat (n + 1) := by
    rw [UInt64.le_iff_toNat_le, hpending, UInt64.toNat_one]
    omega
  have hleft : UInt64.ofNat (n + 1) - 1 = UInt64.ofNat n := by
    rw [← UInt64.toNat_inj, UInt64.toNat_sub_of_le _ _ hle, hpending,
      UInt64.toNat_ofNat_of_lt' (Nat.lt_of_succ_lt h), UInt64.toNat_one, Nat.add_sub_cancel]
  cases n with
  | zero => rfl
  | succ n =>
      have hless : (awaiting (n + 1 + 1)).phase = .loading →
          1 < (awaiting (n + 1 + 1)).pending := by
        intro _
        rw [UInt64.lt_iff_toNat_lt, awaiting, hpending, UInt64.toNat_one]
        omega
      rw [release, decrement_some (by simp [awaiting]) hle hless]
      simp only [awaiting, hleft]

theorem awaiting_not_idle (n : Nat) : (awaiting n).phase ≠ .idle := by
  cases n <;> simp [awaiting]

theorem awaiting_outcome (n : Nat) :
    (awaiting n).announcedOutcome = if n = 0 then .completed else .timedOut := by
  cases n <;> rfl

theorem claim?_awaiting {b b' : Barrier} (hb : b.Consistent) {n : Nat}
    (h : b.claim? (UInt64.ofNat n) = some b') : b' = awaiting n := by
  obtain ⟨hidle, hn, rfl⟩ := claim?_eq_some h
  have hpending := hb.idle_empty hidle
  have hannounced := hb.announced_eq
  have hpos : 0 < n := Nat.pos_of_ne_zero fun hzero => by simp [hzero] at hn
  simp only [hidle, LoadPhase.isTerminal] at hannounced
  rw [awaiting_pos hpos]
  simp [hpending, hannounced]

end Barrier

theorem Loader.length_lt (loader : Loader) : loader.fetchers.length < 2 ^ 64 :=
  Nat.lt_of_le_of_lt loader.room (by decide)

theorem Loader.ofNat_length_pos {loader : Loader} (h : loader.fetchers ≠ []) :
    0 < UInt64.ofNat loader.fetchers.length := by
  rw [UInt64.lt_iff_toNat_lt, UInt64.toNat_ofNat_of_lt' loader.length_lt]
  exact List.length_pos_iff.mpr h

namespace FetchSession

def tasksOf (s : FetchSession) (call : Nat) : List FetchTask := s.tasks.filter (·.call == call)

def live (s : FetchSession) (call : Nat) : Nat := s.tasks.countP (·.holds call)

theorem freshBarrier_awaiting {loader : Loader} (h : loader.fetchers ≠ []) :
    freshBarrier (UInt64.ofNat loader.fetchers.length) = .awaiting loader.fetchers.length := by
  rw [Barrier.awaiting_pos (List.length_pos_iff.mpr h)]
  simp [freshBarrier, Barrier.increment, Loader.ofNat_length_pos h]

/-! ### Frame -/

theorem barrierOf_fresh {s : FetchSession} {call : Nat} {c : LoadCall} {b : Barrier}
    (hc : s.calls[call]? = some c) (hb : c.fresh? = some b) : s.barrierOf call = b := by
  obtain ⟨target, loader, fresh?⟩ := c
  cases hb
  simp only [barrierOf, hc]

theorem barrierOf_own {s : FetchSession} {call : Nat} {c : LoadCall}
    (hc : s.calls[call]? = some c) (hb : c.fresh? = none) : s.barrierOf call = s.own := by
  obtain ⟨target, loader, fresh?⟩ := c
  cases hb
  simp only [barrierOf, hc]
  rfl

/-- A call that did not claim the user's own barrier does not see it move. -/
theorem barrierOf_congr {s s' : FetchSession} {call : Nat} {c : LoadCall}
    (hc : s.calls[call]? = some c) (hc' : s'.calls[call]? = some c)
    (hown : c.fresh? = none → s'.own = s.own) : s'.barrierOf call = s.barrierOf call := by
  cases hb : c.fresh? with
  | none => rw [barrierOf_own hc hb, barrierOf_own hc' hb, hown hb]
  | some b => rw [barrierOf_fresh hc hb, barrierOf_fresh hc' hb]

theorem claimed_of_own {s : FetchSession} {call : Nat} {c : LoadCall}
    (hc : s.calls[call]? = some c) (hb : c.fresh? = none) : s.claimed = true := by
  refine List.any_eq_true.mpr ⟨c, List.mem_of_getElem? hc, ?_⟩
  rw [hb]
  rfl

theorem live_congr {s s' : FetchSession}
    (h : s'.tasks.map FetchTask.place = s.tasks.map FetchTask.place) (call : Nat) :
    s'.live call = s.live call := by
  have hplace : ∀ ts : List FetchTask, ts.countP (·.holds call) =
      (ts.map FetchTask.place).countP fun p => p.1 == call && !p.2.2 := by
    intro ts
    rw [List.countP_map]
    rfl
  simp only [live, hplace, h]

theorem live_eq_zero_iff {s : FetchSession} {call : Nat} :
    s.live call = 0 ↔ ∀ t ∈ s.tasksOf call, t.state = .ended := by
  rw [live, List.countP_eq_zero]
  constructor
  · intro h t ht
    obtain ⟨hmem, hcall⟩ := List.mem_filter.mp ht
    have := h t hmem
    simpa [FetchTask.holds, beq_iff_eq.mp hcall] using this
  · intro h t ht hholds
    simp only [FetchTask.holds, Bool.and_eq_true, bne_iff_ne] at hholds
    exact hholds.2 (h t (List.mem_filter.mpr ⟨ht, hholds.1⟩))

theorem names_congr {s s' : FetchSession}
    (h : s'.tasks.map FetchTask.label = s.tasks.map FetchTask.label) (call : Nat) :
    (s'.tasksOf call).map (·.fetcher) = (s.tasksOf call).map (·.fetcher) := by
  have hlabel : ∀ ts : List FetchTask, (ts.filter (·.call == call)).map (·.fetcher) =
      ((ts.map FetchTask.label).filter (·.1 == call)).map (·.2) := by
    intro ts
    rw [List.filter_map, List.map_map]
    rfl
  simp only [tasksOf, hlabel, h]

theorem Steady.labels {s s' : FetchSession} (h : Steady s s') :
    s'.tasks.map FetchTask.label = s.tasks.map FetchTask.label := by
  have hlabel : ∀ ts : List FetchTask, ts.map FetchTask.label =
      (ts.map FetchTask.place).map fun p => (p.1, p.2.1) := by
    intro ts
    rw [List.map_map]
    rfl
  rw [hlabel, hlabel, h.tasks]

/-! ### Ending a load -/

theorem releaseLoad_tasks (s : FetchSession) (call : Nat) :
    (s.releaseLoad call).tasks = s.tasks := by
  unfold releaseLoad
  split
  · split <;> rfl
  · rfl

theorem logStop_frame (s : FetchSession) (target : LoadTarget) (fetcher : String)
    (stop : Option FetchStop) :
    (s.logStop target fetcher stop).tasks = s.tasks ∧
      (s.logStop target fetcher stop).calls = s.calls ∧
      (s.logStop target fetcher stop).entities = s.entities := by
  unfold logStop
  split <;> exact ⟨rfl, rfl, rfl⟩

theorem releaseLoad_fresh {s : FetchSession} {call : Nat} {c : LoadCall} {b : Barrier}
    (hc : s.calls[call]? = some c) (hb : c.fresh? = some b) :
    s.releaseLoad call =
      { s with calls := s.calls.set call { c with fresh? := some b.release } } := by
  simp only [releaseLoad, hc, hb]

theorem releaseLoad_own {s : FetchSession} {call : Nat} {c : LoadCall}
    (hc : s.calls[call]? = some c) (hb : c.fresh? = none) :
    s.releaseLoad call = s.setUserBarrier s.own.release := by
  simp only [releaseLoad, hc, hb]
  rfl

theorem releaseLoad_calls {s : FetchSession} {call i : Nat} {c d : LoadCall}
    (hc : s.calls[call]? = some c) (hd : (s.releaseLoad call).calls[i]? = some d) :
    ∃ c', s.calls[i]? = some c' ∧ d.loader = c'.loader ∧
      (d.fresh? = none ↔ c'.fresh? = none) := by
  cases hb : c.fresh? with
  | none =>
      rw [releaseLoad_own hc hb] at hd
      exact ⟨d, hd, rfl, Iff.rfl⟩
  | some b =>
      rw [releaseLoad_fresh hc hb] at hd
      by_cases hi : call = i
      · subst hi
        have hlt := (List.getElem?_eq_some_iff.mp hc).1
        simp only [List.getElem?_set_self hlt, Option.some.injEq] at hd
        subst hd
        exact ⟨c, hc, rfl, by simp [hb]⟩
      · simp only [List.getElem?_set_ne hi] at hd
        exact ⟨d, hd, rfl, Iff.rfl⟩

theorem releaseLoad_move (s : FetchSession) (call : Nat) :
    ∃ added taken, s.own.Move added taken (s.releaseLoad call).own := by
  unfold releaseLoad
  split
  · split
    · exact ⟨0, 0, .keep⟩
    · exact ⟨_, _, Barrier.decrement_move s.own 1⟩
  · exact ⟨0, 0, .keep⟩

theorem releaseLoad_length {s : FetchSession} {call : Nat} :
    (s.releaseLoad call).calls.length = s.calls.length := by
  unfold releaseLoad
  split
  · split
    · exact List.length_set
    · rfl
  · rfl

theorem barrierOf_releaseLoad_self {s : FetchSession} {call : Nat} {c : LoadCall}
    (hc : s.calls[call]? = some c) :
    (s.releaseLoad call).barrierOf call = (s.barrierOf call).release := by
  cases hb : c.fresh? with
  | none =>
      rw [releaseLoad_own hc hb, barrierOf_own hc hb]
      exact barrierOf_own hc hb
  | some b =>
      have hlt := (List.getElem?_eq_some_iff.mp hc).1
      rw [releaseLoad_fresh hc hb, barrierOf_fresh hc hb]
      exact barrierOf_fresh (List.getElem?_set_self hlt) rfl

/-- Two calls share no barrier, as long as the user's own one has a single owner. -/
theorem barrierOf_releaseLoad_ne {s : FetchSession} {call i : Nat} {c c' : LoadCall}
    (hc : s.calls[call]? = some c) (hc' : s.calls[i]? = some c') (hi : call ≠ i)
    (hown : ¬ (c.fresh? = none ∧ c'.fresh? = none)) :
    (s.releaseLoad call).barrierOf i = s.barrierOf i := by
  cases hb : c.fresh? with
  | none =>
      rw [releaseLoad_own hc hb]
      exact barrierOf_congr hc' hc' (fun hb' => absurd ⟨hb, hb'⟩ hown)
  | some b =>
      have hget : (s.releaseLoad call).calls[i]? = some c' := by
        rw [releaseLoad_fresh hc hb]
        simp only [List.getElem?_set_ne hi, hc']
      refine barrierOf_congr hc' hget (fun _ => ?_)
      rw [releaseLoad_fresh hc hb]
      rfl

theorem endTask_eq (s : FetchSession) (k : Nat) (t : FetchTask) (stop : Option FetchStop) :
    ∃ s₁ : FetchSession, s.endTask k t stop = s₁.releaseLoad t.call ∧
      s₁.tasks = s.tasks.set k { t with rest := .done, state := .ended } ∧
      s₁.calls = s.calls ∧ s₁.entities = s.entities := by
  refine ⟨_, rfl, ?_⟩
  exact logStop_frame (s.setTask k { t with rest := .done, state := .ended }) t.target t.fetcher
    stop

theorem live_ended {s : FetchSession} {k : Nat} {t : FetchTask} (ht : s.tasks[k]? = some t)
    (hstate : t.state = .ready) (i : Nat) :
    (s.tasks.set k { t with rest := .done, state := .ended }).countP (·.holds i) +
      (if t.call = i then 1 else 0) = s.live i := by
  obtain ⟨hk, hget⟩ := List.getElem?_eq_some_iff.mp ht
  have hafter : FetchTask.holds { t with rest := .done, state := .ended } i = false := by
    simp [FetchTask.holds]
  have hbefore : t.holds i = (t.call == i) := by
    simp [FetchTask.holds, hstate]
  rw [List.countP_set hk, hget, hafter, hbefore, live]
  by_cases hi : t.call = i
  · have hpos : 0 < s.tasks.countP (·.holds i) :=
      List.countP_pos_iff.mpr ⟨t, hget ▸ List.getElem_mem hk, by simp [hbefore, hi]⟩
    simp only [hi, beq_self_eq_true, if_true]
    simp
    omega
  · simp [hi]

theorem labels_ended {s : FetchSession} {k : Nat} {t : FetchTask} (ht : s.tasks[k]? = some t) :
    (s.tasks.set k { t with rest := .done, state := .ended }).map FetchTask.label =
      s.tasks.map FetchTask.label := by
  obtain ⟨hk, hget⟩ := List.getElem?_eq_some_iff.mp ht
  have hlabel : FetchTask.label { t with rest := .done, state := .ended } = s.tasks[k].label := by
    rw [hget]
    rfl
  rw [List.map_set, hlabel, ← List.map_set, List.set_getElem_self]

theorem task_call_congr {s s' : FetchSession} {n : Nat}
    (h : s'.tasks.map FetchTask.label = s.tasks.map FetchTask.label)
    (hs : ∀ t ∈ s.tasks, t.call < n) : ∀ t ∈ s'.tasks, t.call < n := by
  intro t ht
  have hmem : t.label ∈ s.tasks.map FetchTask.label := h ▸ List.mem_map_of_mem ht
  obtain ⟨t', ht', hlabel⟩ := List.mem_map.mp hmem
  have hcall : t'.call = t.call := congrArg Prod.fst hlabel
  rw [← hcall]
  exact hs t' ht'

/-! ### Starting a call -/

def newTasks (s : FetchSession) (target : LoadTarget) (loader : Loader) (request : Request) :
    List FetchTask :=
  loader.fetchers.map fun f =>
    { call := s.calls.length, target, fetcher := f.name
      rest := f.program request s.entities target }

theorem spawn_tasks (s : FetchSession) (target : LoadTarget) (loader : Loader)
    (request : Request) (fresh? : Option Barrier) :
    (s.spawn target loader request fresh?).tasks =
      s.tasks ++ s.newTasks target loader request := rfl

theorem spawn_length (s : FetchSession) (target : LoadTarget) (loader : Loader)
    (request : Request) (fresh? : Option Barrier) :
    (s.spawn target loader request fresh?).calls.length = s.calls.length + 1 := by
  simp only [spawn, List.length_append, List.length_singleton]

theorem spawn_calls {s : FetchSession} {target : LoadTarget} {loader : Loader}
    {request : Request} {fresh? : Option Barrier} {i : Nat} {c : LoadCall}
    (h : (s.spawn target loader request fresh?).calls[i]? = some c) :
    i < s.calls.length ∧ s.calls[i]? = some c ∨
      i = s.calls.length ∧ c = { target, loader, fresh? } := by
  simp only [spawn] at h
  by_cases hi : i < s.calls.length
  · rw [List.getElem?_append_left hi] at h
    exact Or.inl ⟨hi, h⟩
  · rw [List.getElem?_append_right (Nat.le_of_not_lt hi)] at h
    obtain ⟨hlt, hget⟩ := List.getElem?_eq_some_iff.mp h
    simp only [List.length_singleton] at hlt
    refine Or.inr ⟨by omega, ?_⟩
    simpa only [List.getElem_singleton] using hget.symm

theorem countP_newTasks (s : FetchSession) (target : LoadTarget) (loader : Loader)
    (request : Request) (call : Nat) :
    (s.newTasks target loader request).countP (·.holds call) =
      if call = s.calls.length then loader.fetchers.length else 0 := by
  rw [newTasks, List.countP_map]
  split
  · next h =>
      refine List.countP_eq_length.mpr (fun f _ => ?_)
      simp [FetchTask.holds, h]
  · next h =>
      refine List.countP_eq_zero.mpr (fun f _ => ?_)
      simp [FetchTask.holds, Ne.symm h]

theorem names_newTasks (s : FetchSession) (target : LoadTarget) (loader : Loader)
    (request : Request) (call : Nat) :
    ((s.newTasks target loader request).filter (·.call == call)).map (·.fetcher) =
      if call = s.calls.length then loader.fetchers.map (·.name) else [] := by
  rw [newTasks, List.filter_map, List.map_map]
  split
  · next h =>
      rw [List.filter_eq_self.mpr (fun f _ => by simp [h])]
      rfl
  · next h =>
      rw [List.filter_eq_nil_iff.mpr (fun f _ => by simp [Ne.symm h])]
      rfl

/-! ### The invariant -/

/-- Every call waits on a barrier that counts its own live fetchers. At most one of these is the
user's own, which is otherwise free to move. -/
structure Waiting (s : FetchSession) : Prop where
  own_consistent : s.own.Consistent
  task_call : ∀ t ∈ s.tasks, t.call < s.calls.length
  awaits : ∀ (i : Nat) (c : LoadCall), s.calls[i]? = some c →
    s.barrierOf i = .awaiting (s.live i)
  own_once : ∀ (i j : Nat) (c d : LoadCall), s.calls[i]? = some c → s.calls[j]? = some d →
    c.fresh? = none → d.fresh? = none → i = j
  started : ∀ (i : Nat) (c : LoadCall), s.calls[i]? = some c →
    (s.tasksOf i).map (·.fetcher) = c.loader.fetchers.map (·.name)

theorem waiting_new {e : Entities} (h : e.user.barrier.Consistent) : Waiting { entities := e } where
  own_consistent := h
  task_call := by simp
  awaits := by simp
  own_once := by simp
  started := by simp

namespace Waiting
variable {s s' : FetchSession}

/-- What starts and ends nothing leaves every wait as it is, if it leaves the user's own barrier
to the call that claimed it. -/
theorem steady (hs : Waiting s) (h : Steady s s') (hconsistent : s'.own.Consistent)
    (hown : s.claimed = true → s'.own = s.own) : Waiting s' where
  own_consistent := hconsistent
  task_call := by
    rw [h.calls]
    exact task_call_congr h.labels hs.task_call
  awaits := by
    intro i c hc'
    have hc : s.calls[i]? = some c := h.calls ▸ hc'
    rw [live_congr h.tasks, ← hs.awaits i c hc]
    exact barrierOf_congr hc hc' (fun hb => hown (claimed_of_own hc hb))
  own_once := by
    rw [h.calls]
    exact hs.own_once
  started := by
    intro i c hc
    rw [names_congr h.labels]
    exact hs.started i c (h.calls ▸ hc)

theorem live_lt (hs : Waiting s) {call : Nat} {c : LoadCall} (hc : s.calls[call]? = some c) :
    s.live call < 2 ^ 64 := by
  have hnames := congrArg List.length (hs.started call c hc)
  have hlive : s.live call ≤ (s.tasksOf call).length := by
    rw [live, tasksOf, ← List.countP_eq_length_filter]
    exact List.countP_mono_left fun t _ hholds => (Bool.and_eq_true_iff.mp hholds).1
  rw [List.length_map, List.length_map] at hnames
  exact Nat.lt_of_le_of_lt (hnames ▸ hlive) c.loader.length_lt

/-- The end of a fetcher takes one load off the barrier of its call and off no other. -/
theorem endTask (hs : Waiting s) {k : Nat} {t : FetchTask} (ht : s.tasks[k]? = some t)
    (hstate : t.state = .ready) (stop : Option FetchStop) : Waiting (s.endTask k t stop) := by
  obtain ⟨hk, hget⟩ := List.getElem?_eq_some_iff.mp ht
  obtain ⟨c, hc⟩ : ∃ c, s.calls[t.call]? = some c :=
    ⟨_, List.getElem?_eq_getElem (hs.task_call t (hget ▸ List.getElem_mem hk))⟩
  -- in `s₁` the fetcher has ended and its load is still registered
  obtain ⟨s₁, h₁, htasks, hcalls, hentities⟩ := endTask_eq s k t stop
  have hc₁ : s₁.calls[t.call]? = some c := by rw [hcalls]; exact hc
  have hbarrier : ∀ i, s₁.barrierOf i = s.barrierOf i := by
    intro i
    simp only [barrierOf, hcalls, hentities]
  have hlive : ∀ i, (s₁.releaseLoad t.call).live i + (if t.call = i then 1 else 0) = s.live i := by
    intro i
    rw [live, releaseLoad_tasks, htasks]
    exact live_ended ht hstate i
  have hlabels : (s₁.releaseLoad t.call).tasks.map FetchTask.label =
      s.tasks.map FetchTask.label := by
    rw [releaseLoad_tasks, htasks]
    exact labels_ended ht
  rw [h₁]
  refine ⟨?_, ?_, ?_, ?_, ?_⟩
  · obtain ⟨added, taken, m⟩ := releaseLoad_move s₁ t.call
    refine m.consistent ?_
    rw [own, hentities]
    exact hs.own_consistent
  · rw [releaseLoad_length, hcalls]
    exact task_call_congr hlabels hs.task_call
  · intro i d hd
    obtain ⟨c', hc', -, hfresh⟩ := releaseLoad_calls hc₁ hd
    have hawaits := hs.awaits i c' (hcalls ▸ hc')
    have hcount := hlive i
    by_cases hi : t.call = i
    · subst hi
      rw [if_pos rfl] at hcount
      rw [barrierOf_releaseLoad_self hc₁, hbarrier, hawaits, ← hcount]
      refine Barrier.release_awaiting ?_
      rw [hcount]
      exact hs.live_lt hc
    · rw [if_neg hi, Nat.add_zero] at hcount
      rw [barrierOf_releaseLoad_ne hc₁ hc' hi, hbarrier, hawaits, hcount]
      exact fun hboth => hi (hs.own_once _ _ c c' hc (hcalls ▸ hc') hboth.1 hboth.2)
  · intro i j d d' hd hd' hfresh hfresh'
    obtain ⟨c₁, hc₁', -, hiff⟩ := releaseLoad_calls hc₁ hd
    obtain ⟨c₂, hc₂', -, hiff'⟩ := releaseLoad_calls hc₁ hd'
    exact hs.own_once i j c₁ c₂ (hcalls ▸ hc₁') (hcalls ▸ hc₂') (hiff.mp hfresh)
      (hiff'.mp hfresh')
  · intro i d hd
    obtain ⟨c', hc', hloader, -⟩ := releaseLoad_calls hc₁ hd
    rw [names_congr hlabels, hloader]
    exact hs.started i c' (hcalls ▸ hc')

theorem live_eq_zero (hs : Waiting s) : s.live s.calls.length = 0 := by
  refine List.countP_eq_zero.mpr (fun t ht => ?_)
  have := hs.task_call t ht
  simp [FetchTask.holds, Nat.ne_of_lt this]

theorem tasksOf_eq_nil (hs : Waiting s) : s.tasksOf s.calls.length = [] := by
  refine List.filter_eq_nil_iff.mpr (fun t ht => ?_)
  have := hs.task_call t ht
  simp [Nat.ne_of_lt this]

/-- A call starts with as many loads registered as it starts fetchers. If it waits on the user's
own barrier, no other call does. -/
theorem spawn (hs : Waiting s) (target : LoadTarget) {loader : Loader} (request : Request)
    {fresh? : Option Barrier} (hb : fresh?.getD s.own = .awaiting loader.fetchers.length)
    (hone : fresh? = none → s.claimed = false) :
    Waiting (s.spawn target loader request fresh?) := by
  have hlive : ∀ i, (s.spawn target loader request fresh?).live i =
      s.live i + if i = s.calls.length then loader.fetchers.length else 0 := by
    intro i
    rw [live, spawn_tasks, List.countP_append, countP_newTasks]
    rfl
  have hnames : ∀ i, ((s.spawn target loader request fresh?).tasksOf i).map (·.fetcher) =
      (s.tasksOf i).map (·.fetcher) ++
        if i = s.calls.length then loader.fetchers.map (·.name) else [] := by
    intro i
    rw [tasksOf, spawn_tasks, List.filter_append, List.map_append, names_newTasks]
    rfl
  refine ⟨hs.own_consistent, ?_, ?_, ?_, ?_⟩
  · intro t ht
    rw [spawn_length]
    rcases List.mem_append.mp ht with hold | hnew
    · exact Nat.lt_succ_of_lt (hs.task_call t hold)
    · obtain ⟨f, -, rfl⟩ := List.mem_map.mp hnew
      exact Nat.lt_succ_self _
  · intro i c hc'
    rcases spawn_calls hc' with ⟨hi, hc⟩ | ⟨rfl, rfl⟩
    · rw [hlive, if_neg (Nat.ne_of_lt hi), Nat.add_zero, ← hs.awaits i c hc]
      exact barrierOf_congr hc hc' (fun _ => rfl)
    · rw [hlive, if_pos rfl, hs.live_eq_zero, Nat.zero_add, ← hb]
      cases fresh? with
      | none => exact barrierOf_own hc' rfl
      | some b => exact barrierOf_fresh hc' rfl
  · intro i j c d hc' hd' hfresh hfresh'
    rcases spawn_calls hc' with ⟨hi, hc⟩ | ⟨rfl, rfl⟩
    · rcases spawn_calls hd' with ⟨hj, hd⟩ | ⟨rfl, rfl⟩
      · exact hs.own_once i j c d hc hd hfresh hfresh'
      · have := claimed_of_own hc hfresh
        rw [hone hfresh'] at this
        cases this
    · rcases spawn_calls hd' with ⟨hj, hd⟩ | ⟨rfl, rfl⟩
      · have := claimed_of_own hd hfresh'
        rw [hone hfresh] at this
        cases this
      · rfl
  · intro i c hc'
    rw [hnames]
    rcases spawn_calls hc' with ⟨hi, hc⟩ | ⟨rfl, rfl⟩
    · rw [if_neg (Nat.ne_of_lt hi), List.append_nil]
      exact hs.started i c hc
    · rw [if_pos rfl, hs.tasksOf_eq_nil]
      rfl

/-- While some call waits on the user's own barrier, nobody else can claim it. -/
theorem not_idle_of_claimed (hs : Waiting s) (h : s.claimed = true) : s.own.phase ≠ .idle := by
  obtain ⟨c, hmem, hc⟩ := List.any_eq_true.mp h
  obtain ⟨i, hget⟩ := List.mem_iff_getElem?.mp hmem
  have hb : c.fresh? = none := Option.isNone_iff_eq_none.mp hc
  rw [← barrierOf_own hget hb, hs.awaits i c hget]
  exact Barrier.awaiting_not_idle _

theorem start (hs : Waiting s) (target : LoadTarget) {loader : Loader} (request : Request)
    (hne : loader.fetchers ≠ []) : Waiting (s.start target loader request) := by
  have hfresh := freshBarrier_awaiting hne
  unfold FetchSession.start
  cases target with
  | items => exact hs.spawn .items request hfresh (fun h => by cases h)
  | user =>
      simp only
      split
      · next own hclaim =>
          have hidle := (Barrier.claim?_eq_some hclaim).1
          have hunclaimed : s.claimed = false := by
            refine Bool.eq_false_iff.mpr (fun h => ?_)
            exact hs.not_idle_of_claimed h hidle
          have hs' : Waiting (s.setUserBarrier own) := by
            refine hs.steady ⟨rfl, rfl⟩ ?_ (fun h => ?_)
            · exact (Barrier.claim?_move hclaim).consistent hs.own_consistent
            · rw [hunclaimed] at h
              cases h
          exact hs'.spawn .user request (Barrier.claim?_awaiting hs.own_consistent hclaim)
            (fun _ => hunclaimed)
      · exact hs.spawn .user request hfresh (fun h => by cases h)

theorem step (hs : Waiting s) {e : FetchEvent} (hfetchers : e.hasFetchers = true)
    (hquiet : s.claimed = true → s.meddles e = false) : Waiting (s.step e) := by
  rcases s.step_cases e with ⟨target, loader, request, rfl, h⟩ | ⟨k, t, stop, ht, hstate, h⟩ |
    ⟨hsteady, hown⟩
  · rw [h]
    refine hs.start target request (fun hnil => ?_)
    simp [FetchEvent.hasFetchers, hnil] at hfetchers
  · rw [h]
    exact hs.endTask ht hstate stop
  · rcases hown with hsame | ⟨hmeddles, added, taken, m⟩
    · exact hs.steady hsteady (hsame ▸ hs.own_consistent) (fun _ => hsame)
    · refine hs.steady hsteady (m.consistent hs.own_consistent) (fun hclaimed => ?_)
      rw [hquiet hclaimed] at hmeddles
      cases hmeddles

theorem run (hs : Waiting s) {es : List FetchEvent}
    (hfetchers : ∀ e ∈ es, e.hasFetchers = true) (hes : s.Undisturbed es) :
    Waiting (s.run es) := by
  induction es generalizing s with
  | nil => exact hs
  | cons e es ih =>
      have hs' : Waiting (s.step e) :=
        hs.step (hfetchers e List.mem_cons_self) (hes (s, e) List.mem_cons_self)
      refine ih hs' (fun e' he' => ?_) (fun m hm => ?_)
      · exact hfetchers e' (List.mem_cons_of_mem e he')
      · exact hes m (List.mem_cons_of_mem (s, e) hm)

theorem outcomeOf_eq (hs : Waiting s) {call : Nat} {c : LoadCall}
    (hc : s.calls[call]? = some c) :
    s.outcomeOf call = if s.live call = 0 then .completed else .timedOut := by
  rw [outcomeOf, hs.awaits call c hc, Barrier.awaiting_outcome]

end Waiting

end FetchSession
end Shortlist
