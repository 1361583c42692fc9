import Shortlist.Proofs.Feature.Outcome
/-! Who has the user's own barrier. Calls of every kind overlap: a concurrent one starts its
fetchers and waits for them, a sequential one awaits theirs step by step, and either may end while
fetchers of earlier calls are still at work. One call at most ever claims the barrier, and nothing
but the ends of that call's fetchers moves it afterwards. -/
namespace Shortlist

/-- `await` is one access of a fetcher that its call runs itself, and `stop` the end of such a
fetcher if it does not return. `finish` is the end of a call, whatever it was told. `edit` stands
for everybody else, and for the batch of the next call. -/
inductive CallEvent where
  | call (target : LoadTarget) (loader : Loader) (request : Request)
  | advance (task : Nat)
  | resume (task : Nat)
  | await (target : LoadTarget) (a : Access target)
  | stop (target : LoadTarget) (fetcher : String) (stop : FetchStop)
  | finish (target : LoadTarget) (loader : Loader) (outcome : WaitOutcome)
  | edit (f : Entities → Entities)

def Entities.itemBarriers (e : Entities) : List Barrier := e.items.map (·.barrier)

def Access.moves {target : LoadTarget} : Access target → Bool
  | .userBarrier op | .itemBarrier _ op => op.moves
  | .user _ | .item .. => false

/-- The accesses of a program that goes through without interruption. -/
def Program.trace {target : LoadTarget} (e : Entities) : Program target → List (Access target)
  | .call a next => a :: (next (a.perform e).1).trace (a.perform e).2
  | .pause next => next.trace e
  | .done | .fail _ | .panic => []

namespace FetchSession

/-- The beginning of a call. Only a concurrent one starts anything. -/
def enter (s : FetchSession) (target : LoadTarget) (loader : Loader) (request : Request) :
    FetchSession :=
  if s.nothingToLoad target loader || !loader.config.concurrent then s
  else s.start target loader request

def act (s : FetchSession) : CallEvent → FetchSession
  | .call target loader request => s.enter target loader request
  | .advance k => s.advance k
  | .resume k => s.resume k
  | .await _ a => { s with entities := (a.perform s.entities).2 }
  | .stop target fetcher stop => s.logStop target fetcher (some stop)
  | .finish target loader outcome => (s.finish target loader outcome).2
  | .edit f => s.step (.edit f)

def follow (s : FetchSession) : List CallEvent → FetchSession
  | [] => s
  | e :: es => (s.act e).follow es

def scenes (s : FetchSession) : List CallEvent → List (FetchSession × CallEvent)
  | [] => []
  | e :: es => (s, e) :: (s.act e).scenes es

/-- Whether a fetcher is about to move a barrier itself. -/
def interferes (s : FetchSession) : CallEvent → Bool
  | .advance k =>
    match s.tasks[k]? with
    | some { state := .ready, rest := .call a _, .. } => a.moves
    | _ => false
  | .await _ a => a.moves
  | .call .. | .resume _ | .stop .. | .finish .. | .edit _ => false

def HandsOff (s : FetchSession) (es : List CallEvent) : Prop :=
  ∀ m ∈ s.scenes es, m.1.interferes m.2 = false

instance (s : FetchSession) (es : List CallEvent) : Decidable (s.HandsOff es) :=
  inferInstanceAs (Decidable (∀ m ∈ s.scenes es, m.1.interferes m.2 = false))

/-- Whether a call waits on the user's own barrier. -/
def claimedBy (s : FetchSession) (call : Nat) : Bool := s.calls[call]?.any (·.fresh?.isNone)

/-- Whether an event is a call that finds the barrier free and has a use for it. -/
def Claims (s : FetchSession) : CallEvent → Prop
  | .call target loader _ =>
    target = .user ∧ loader.config.concurrent = true ∧ loader.fetchers ≠ [] ∧
      s.own.phase = .idle
  | _ => False

theorem claimedBy_iff {s : FetchSession} {call : Nat} :
    s.claimedBy call = true ↔ ∃ c, s.calls[call]? = some c ∧ c.fresh? = none := by
  unfold claimedBy
  cases s.calls[call]? <;> simp

/-! ### What barriers do not see -/

theorem interferes_call {s : FetchSession} {k : Nat} {t : FetchTask} {a : Access t.target}
    {next : a.Answer → Program t.target} (ht : s.tasks[k]? = some t) (hstate : t.state = .ready)
    (hrest : t.rest = .call a next) : s.interferes (.advance k) = a.moves := by
  obtain ⟨call, target, fetcher, rest, state⟩ := t
  dsimp only at a next hstate hrest
  subst hstate hrest
  simp only [interferes, ht]

theorem item_barrier (i : Item) (op : ItemOp) : (op.perform i).2.barrier = i.barrier := by
  cases op with
  | features => simp only [ItemOp.perform, Item.exported]; split <;> rfl
  | addRecallName => simp only [ItemOp.perform, Item.addRecallName]; split <;> rfl
  | _ => rfl

theorem itemBarriers_set {e : Entities} {place : Nat} {i : Item}
    (h : i.barrier = (e.item place).barrier) :
    Entities.itemBarriers { e with items := e.items.set place i } = e.itemBarriers := by
  simp only [Entities.itemBarriers, List.map_set, h]
  by_cases hplace : place < e.items.length
  · have hbarriers : place < (e.items.map (·.barrier)).length := by simpa using hplace
    have hsame : (e.item place).barrier = (e.items.map (·.barrier))[place] := by
      simp [Entities.item, hplace]
    rw [hsame, List.set_getElem_self]
  · exact List.set_eq_of_length_le (by simpa using hplace)

/-- An access that moves no barrier leaves all barriers alone. -/
theorem perform_barriers {target : LoadTarget} (e : Entities) {a : Access target}
    (h : a.moves = false) : (a.perform e).2.user.barrier = e.user.barrier ∧
      (a.perform e).2.itemBarriers = e.itemBarriers := by
  cases a with
  | user op => exact ⟨rfl, rfl⟩
  | item place op => exact ⟨rfl, itemBarriers_set (item_barrier (e.item place) op)⟩
  | userBarrier op =>
      have hsame := (BarrierOp.perform_move e.user.barrier op).1
      exact ⟨hsame.resolve_right (ne_true_of_eq_false h), rfl⟩
  | itemBarrier place op =>
      have hsame := (BarrierOp.perform_move (e.item place).barrier op).1
      exact ⟨rfl, itemBarriers_set (hsame.resolve_right (ne_true_of_eq_false h))⟩

theorem promote_frame (s : FetchSession) (target : LoadTarget) (names : List String) :
    Steady s (s.promote target names).2 ∧ (s.promote target names).2.own = s.own ∧
      (s.promote target names).2.entities.itemBarriers = s.entities.itemBarriers := by
  cases target with
  | user => exact ⟨⟨rfl, rfl⟩, rfl, rfl⟩
  | items =>
      refine ⟨⟨rfl, rfl⟩, rfl, ?_⟩
      simp only [promote, Entities.itemBarriers, List.map_map]
      rfl

theorem logStop_barriers (s : FetchSession) (target : LoadTarget) (fetcher : String)
    (stop : Option FetchStop) :
    Steady s (s.logStop target fetcher stop) ∧ (s.logStop target fetcher stop).own = s.own ∧
      (s.logStop target fetcher stop).entities.itemBarriers = s.entities.itemBarriers := by
  obtain ⟨htasks, hcalls, hentities⟩ := logStop_frame s target fetcher stop
  exact ⟨⟨hcalls, by rw [htasks]⟩, by rw [own, hentities, own], by rw [hentities]⟩

theorem releaseLoad_itemBarriers (s : FetchSession) (call : Nat) :
    (s.releaseLoad call).entities.itemBarriers = s.entities.itemBarriers := by
  unfold releaseLoad
  split
  · split <;> rfl
  · rfl

theorem releaseLoad_claimedBy (s : FetchSession) (call i : Nat) :
    (s.releaseLoad call).claimedBy i = s.claimedBy i := by
  unfold releaseLoad
  split
  · next c hc =>
      split
      · next b hb =>
          simp only [claimedBy]
          by_cases hi : call = i
          · subst hi
            have hlt := (List.getElem?_eq_some_iff.mp hc).1
            simp [List.getElem?_set_self hlt, hc, hb]
          · rw [List.getElem?_set_ne hi]
      · rfl
  · rfl

theorem releaseLoad_unclaimed {s : FetchSession} {call : Nat} (h : s.claimedBy call = false) :
    (s.releaseLoad call).own = s.own := by
  unfold releaseLoad
  split
  · next c hc =>
      split
      · rfl
      · next hb => simp [claimedBy, hc, hb] at h
  · rfl

theorem endTask_claimedBy (s : FetchSession) (k : Nat) (t : FetchTask) (stop : Option FetchStop)
    (i : Nat) : (s.endTask k t stop).claimedBy i = s.claimedBy i := by
  obtain ⟨s₁, h, -, hcalls, -⟩ := endTask_eq s k t stop
  rw [h, releaseLoad_claimedBy, claimedBy, hcalls]
  rfl

theorem endTask_unclaimed {s : FetchSession} {k : Nat} {t : FetchTask} {stop : Option FetchStop}
    (h : s.claimedBy t.call = false) : (s.endTask k t stop).own = s.own := by
  obtain ⟨s₁, h₁, -, hcalls, hentities⟩ := endTask_eq s k t stop
  have hs₁ : s₁.claimedBy t.call = false := by
    rw [claimedBy, hcalls]
    exact h
  rw [h₁, releaseLoad_unclaimed hs₁, own, hentities]
  rfl

theorem endTask_itemBarriers (s : FetchSession) (k : Nat) (t : FetchTask)
    (stop : Option FetchStop) :
    (s.endTask k t stop).entities.itemBarriers = s.entities.itemBarriers := by
  obtain ⟨s₁, h, -, -, hentities⟩ := endTask_eq s k t stop
  rw [h, releaseLoad_itemBarriers, hentities]

/-! ### The start of a call -/

theorem spawn_claimedBy (s : FetchSession) (target : LoadTarget) (loader : Loader)
    (request : Request) (fresh? : Option Barrier) (i : Nat) :
    (s.spawn target loader request fresh?).claimedBy i = true ↔
      s.claimedBy i = true ∨ i = s.calls.length ∧ fresh? = none := by
  simp only [claimedBy, spawn]
  rcases Nat.lt_trichotomy i s.calls.length with hi | hi | hi
  · rw [List.getElem?_append_left hi]
    simp [Nat.ne_of_lt hi]
  · subst hi
    simp
  · rw [List.getElem?_eq_none (by simp; omega), List.getElem?_eq_none (by omega)]
    simp [Nat.ne_of_gt hi]

/-- A user phase that finds the barrier idle claims it, and no other call touches it. -/
theorem start_claim (s : FetchSession) (target : LoadTarget) {loader : Loader}
    (request : Request) (hne : loader.fetchers ≠ []) :
    (∀ i, (s.start target loader request).claimedBy i = true ↔
      s.claimedBy i = true ∨ i = s.calls.length ∧ target = .user ∧ s.own.phase = .idle) ∧
    (¬ (target = .user ∧ s.own.phase = .idle) → (s.start target loader request).own = s.own) ∧
    (s.start target loader request).entities.itemBarriers = s.entities.itemBarriers := by
  have hpos := Loader.ofNat_length_pos hne
  unfold start
  cases target with
  | items =>
      refine ⟨fun i => ?_, fun _ => rfl, rfl⟩
      rw [spawn_claimedBy]
      simp
  | user =>
      simp only
      split
      · next b hclaim =>
          have hidle := (Barrier.claim?_eq_some hclaim).1
          refine ⟨fun i => ?_, fun hnot => absurd ⟨trivial, hidle⟩ hnot, rfl⟩
          rw [spawn_claimedBy]
          simp [setUserBarrier, own, hidle, claimedBy]
      · next hnone =>
          have hbusy : s.own.phase ≠ .idle := by
            intro hidle
            cases hnone.symm.trans (Barrier.claim?_idle hidle hpos)
          refine ⟨fun i => ?_, fun _ => rfl, rfl⟩
          rw [spawn_claimedBy]
          simp [hbusy]

/-! ### One event -/

theorem nothingToLoad_user (s : FetchSession) (loader : Loader) :
    s.nothingToLoad .user loader = false ↔ loader.fetchers ≠ [] := by
  simp [nothingToLoad]

theorem nothingToLoad_fetchers {s : FetchSession} {target : LoadTarget} {loader : Loader}
    (h : s.nothingToLoad target loader = false) : loader.fetchers ≠ [] := by
  intro hnil
  simp [nothingToLoad, hnil] at h

/-- All that an event can be: a call that starts its fetchers, the end of a started fetcher, or
something that leaves calls, fetchers and the user's own barrier as they are. -/
theorem act_cases {s : FetchSession} {e : CallEvent} (hoff : s.interferes e = false) :
    (∃ target loader request, e = .call target loader request ∧ loader.fetchers ≠ [] ∧
      loader.config.concurrent = true ∧ s.act e = s.start target loader request) ∨
    (∃ k t stop, e = .advance k ∧ s.tasks[k]? = some t ∧ t.state = .ready ∧
      s.act e = s.endTask k t stop) ∨
    (¬ s.Claims e ∧ Steady s (s.act e) ∧ (s.act e).own = s.own) := by
  cases e with
  | call target loader request =>
      simp only [act, enter]
      cases hwork : s.nothingToLoad target loader with
      | true =>
          refine Or.inr (Or.inr ⟨?_, Steady.refl s, rfl⟩)
          rintro ⟨rfl, -, hne, -⟩
          rw [(nothingToLoad_user s loader).mpr hne] at hwork
          cases hwork
      | false =>
          cases hconcurrent : loader.config.concurrent with
          | true =>
              exact Or.inl ⟨target, loader, request, rfl, nothingToLoad_fetchers hwork,
                hconcurrent, rfl⟩
          | false =>
              refine Or.inr (Or.inr ⟨?_, Steady.refl s, rfl⟩)
              rintro ⟨-, htrue, -, -⟩
              cases hconcurrent.symm.trans htrue
  | advance k =>
      refine Or.inr ?_
      simp only [act]
      rcases advance_cases s k with h | ⟨t, ht, hstate, ⟨stop, h⟩ | ⟨rest, h⟩ | hperform⟩
      · rw [h]
        exact Or.inr ⟨id, Steady.refl s, rfl⟩
      · exact Or.inl ⟨k, t, stop, rfl, ht, hstate, h⟩
      · rw [h]
        refine Or.inr ⟨id, (Steady.refl s).setTask ht ?_, rfl⟩
        simp only [FetchTask.place, hstate]
        rfl
      · obtain ⟨a, next, hrest, h⟩ := hperform
        rw [interferes_call ht hstate hrest] at hoff
        rw [h]
        have hsteady : Steady s { s with entities := (a.perform s.entities).2 } := ⟨rfl, rfl⟩
        exact Or.inr ⟨id, hsteady.setTask ht rfl, (perform_barriers s.entities hoff).1⟩
  | resume k => exact Or.inr (Or.inr ⟨id, resume_steady s k⟩)
  | await target a =>
      exact Or.inr (Or.inr ⟨id, ⟨rfl, rfl⟩, (perform_barriers s.entities hoff).1⟩)
  | stop target fetcher stop =>
      obtain ⟨hsteady, hown, -⟩ := logStop_barriers s target fetcher (some stop)
      exact Or.inr (Or.inr ⟨id, hsteady, hown⟩)
  | finish target loader outcome =>
      obtain ⟨hsteady, hown, -⟩ := promote_frame s target loader.config.promoted
      exact Or.inr (Or.inr ⟨id, hsteady, hown⟩)
  | edit f => exact Or.inr (Or.inr ⟨id, ⟨rfl, rfl⟩, rfl⟩)

theorem act_waiting {s : FetchSession} (hs : Waiting s) {e : CallEvent}
    (hoff : s.interferes e = false) : Waiting (s.act e) := by
  rcases act_cases hoff with ⟨target, loader, request, -, hne, -, h⟩ |
    ⟨k, t, stop, -, ht, hstate, h⟩ | ⟨-, hsteady, hown⟩
  · rw [h]
    exact hs.start target request hne
  · rw [h]
    exact hs.endTask ht hstate stop
  · exact hs.steady hsteady (hown ▸ hs.own_consistent) (fun _ => hown)

/-- The calls that have the barrier after an event are those that had it, and the one that claims
it now. -/
theorem act_claimedBy {s : FetchSession} {e : CallEvent} (hoff : s.interferes e = false) (i : Nat) :
    (s.act e).claimedBy i = true ↔
      s.claimedBy i = true ∨ i = s.calls.length ∧ s.Claims e := by
  rcases act_cases hoff with ⟨target, loader, request, rfl, hne, hconcurrent, h⟩ |
    ⟨k, t, stop, rfl, -, -, h⟩ | ⟨hclaims, hsteady, -⟩
  · rw [h, (start_claim s target request hne).1]
    simp [Claims, hconcurrent, hne]
  · rw [h, endTask_claimedBy]
    simp [Claims]
  · rw [claimedBy, hsteady.calls]
    simp [hclaims, claimedBy]

/-- Only a call that claims the barrier and the ends of that call's fetchers move it. -/
theorem act_own {s : FetchSession} {e : CallEvent} (hoff : s.interferes e = false) :
    (s.act e).own = s.own ∨ s.Claims e ∨
      ∃ k t, e = .advance k ∧ s.tasks[k]? = some t ∧ s.claimedBy t.call = true := by
  rcases act_cases hoff with ⟨target, loader, request, rfl, hne, hconcurrent, h⟩ |
    ⟨k, t, stop, rfl, ht, -, h⟩ | ⟨-, -, hown⟩
  · by_cases hfree : target = .user ∧ s.own.phase = .idle
    · exact Or.inr (Or.inl ⟨hfree.1, hconcurrent, hne, hfree.2⟩)
    · rw [h]
      exact Or.inl ((start_claim s target request hne).2.1 hfree)
  · cases hclaimed : s.claimedBy t.call with
    | true => exact Or.inr (Or.inr ⟨k, t, rfl, ht, hclaimed⟩)
    | false =>
        rw [h]
        exact Or.inl (endTask_unclaimed hclaimed)
  · exact Or.inl hown

/-- No call moves the barrier of any item. -/
theorem act_itemBarriers {s : FetchSession} {e : CallEvent} (hoff : s.interferes e = false)
    (hedit : ∀ f, e ≠ .edit f) :
    (s.act e).entities.itemBarriers = s.entities.itemBarriers := by
  cases e with
  | call target loader request =>
      simp only [act, enter]
      split
      · rfl
      · next h =>
          simp only [Bool.or_eq_true, not_or, Bool.not_eq_true] at h
          exact (start_claim s target request (nothingToLoad_fetchers h.1)).2.2
  | advance k =>
      simp only [act]
      rcases advance_cases s k with h | ⟨t, ht, hstate, ⟨stop, h⟩ | ⟨rest, h⟩ | hperform⟩
      · rw [h]
      · rw [h]
        exact endTask_itemBarriers s k t stop
      · rw [h]
        rfl
      · obtain ⟨a, next, hrest, h⟩ := hperform
        rw [interferes_call ht hstate hrest] at hoff
        rw [h]
        exact (perform_barriers s.entities hoff).2
  | resume k =>
      simp only [act, resume]
      split
      · split <;> rfl
      · rfl
  | await target a => exact (perform_barriers s.entities hoff).2
  | stop target fetcher stop => exact (logStop_barriers s target fetcher (some stop)).2.2
  | finish target loader outcome => exact (promote_frame s target loader.config.promoted).2.2
  | edit f => exact absurd rfl (hedit f)

/-! ### Whole histories -/

theorem follow_append (s : FetchSession) (es fs : List CallEvent) :
    s.follow (es ++ fs) = (s.follow es).follow fs := by
  induction es generalizing s with
  | nil => rfl
  | cons e es ih => exact ih (s.act e)

/-- What every history keeps, for a user whose own barrier was `b` at first. -/
structure Kept (b : Barrier) (s : FetchSession) : Prop where
  waiting : Waiting s
  unclaimed : (∀ i, ¬ s.claimedBy i = true) → s.own = b

theorem kept_new {e : Entities} (hb : e.user.barrier.Reachable) :
    Kept e.user.barrier { entities := e } where
  waiting := waiting_new hb.consistent
  unclaimed _ := rfl

namespace Kept
variable {b : Barrier} {s : FetchSession}

theorem act (hs : Kept b s) {e : CallEvent} (hoff : s.interferes e = false) :
    Kept b (s.act e) where
  waiting := act_waiting hs.waiting hoff
  unclaimed := by
    intro hnone
    have hbefore : ∀ i, ¬ s.claimedBy i = true := by
      intro i hi
      exact hnone i ((act_claimedBy hoff i).mpr (Or.inl hi))
    rcases act_own hoff with hown | hclaims | ⟨k, t, -, -, ht⟩
    · exact hown.trans (hs.unclaimed hbefore)
    · exact absurd ((act_claimedBy hoff _).mpr (Or.inr ⟨rfl, hclaims⟩)) (hnone _)
    · exact absurd ht (hbefore t.call)

theorem follow (hs : Kept b s) {es : List CallEvent} (hes : s.HandsOff es) :
    Kept b (s.follow es) := by
  induction es generalizing s with
  | nil => exact hs
  | cons e es ih =>
      have hstep : Kept b (s.act e) := hs.act (hes (s, e) List.mem_cons_self)
      exact ih hstep (fun m hm => hes m (List.mem_cons_of_mem (s, e) hm))

/-- The barrier counts the live fetchers of the call that claimed it, and of no other. -/
theorem own_eq (hs : Kept b s) {i : Nat} (hi : s.claimedBy i = true) :
    s.own = .awaiting (s.live i) := by
  obtain ⟨c, hc, hfresh⟩ := claimedBy_iff.mp hi
  exact (barrierOf_own hc hfresh).symm.trans (hs.waiting.awaits i c hc)

theorem claimed_once (hs : Kept b s) {i j : Nat} (hi : s.claimedBy i = true)
    (hj : s.claimedBy j = true) : i = j := by
  obtain ⟨c, hc, hfresh⟩ := claimedBy_iff.mp hi
  obtain ⟨d, hd, hfresh'⟩ := claimedBy_iff.mp hj
  exact hs.waiting.own_once i j c d hc hd hfresh hfresh'

end Kept

/-! ### Whole calls -/

/-- What a call does between its beginning and its end. While a concurrent one waits, the fetchers
of other calls may go on as well. -/
def DuringCall (target : LoadTarget) (loader : Loader) (request : Request) (e : CallEvent) :
    Prop :=
  (∃ k, e = .advance k) ∨ ∃ f ∈ loader.fetchers, ∃ entities : Entities,
    (∃ a ∈ (f.program request entities target).trace entities, e = .await target a) ∨
    ∃ stop, ((f.program request entities target).finish entities).1 = some stop ∧
      e = .stop target f.name stop

theorem finish_eq_follow (s : FetchSession) {target : LoadTarget} (p : Program target) :
    { s with entities := (p.finish s.entities).2 } =
      s.follow ((p.trace s.entities).map (.await target)) := by
  induction p generalizing s with
  | done => rfl
  | fail e => rfl
  | panic => rfl
  | pause next ih => exact ih s
  | call a next ih =>
      exact ih (a.perform s.entities).1 { s with entities := (a.perform s.entities).2 }

/-- The events of a fetcher that its call runs itself. -/
def inlineEvents (s : FetchSession) (target : LoadTarget) (request : Request) (f : Fetcher) :
    List CallEvent :=
  let p := f.program request s.entities target
  (p.trace s.entities).map (.await target) ++
    ((p.finish s.entities).1.map (.stop target f.name)).toList

theorem follow_inlineEvents (s : FetchSession) (target : LoadTarget) (request : Request)
    (f : Fetcher) :
    s.follow (s.inlineEvents target request f) =
      ({ s with entities := ((f.program request s.entities target).finish s.entities).2 } :
        FetchSession).logStop target f.name
          ((f.program request s.entities target).finish s.entities).1 := by
  rw [inlineEvents, follow_append, ← finish_eq_follow]
  cases ((f.program request s.entities target).finish s.entities).1 <;> rfl

theorem inlineEvents_during (s : FetchSession) (target : LoadTarget) {loader : Loader}
    (request : Request) {f : Fetcher} (hf : f ∈ loader.fetchers) :
    ∀ e ∈ s.inlineEvents target request f, DuringCall target loader request e := by
  intro e he
  refine Or.inr ⟨f, hf, s.entities, ?_⟩
  rcases List.mem_append.mp he with he | he
  · obtain ⟨a, ha, rfl⟩ := List.mem_map.mp he
    exact Or.inl ⟨a, ha, rfl⟩
  · obtain ⟨stop, hstop, rfl⟩ := Option.map_eq_some_iff.mp (Option.mem_toList.mp he)
    exact Or.inr ⟨stop, hstop, rfl⟩

/-- Of the fetchers that a call runs itself only the last one can panic. -/
theorem runInline_eq_follow (s : FetchSession) (target : LoadTarget) {loader : Loader}
    (request : Request) {fetchers : List Fetcher} (hfetchers : fetchers ⊆ loader.fetchers) :
    ∃ es : List CallEvent, (∀ e ∈ es, DuringCall target loader request e) ∧
      (s.runInline target request fetchers).2 = s.follow es ∧
      ((s.runInline target request fetchers).1 = true → ∀ f, .stop target f .panicked ∉ es) ∧
      ((s.runInline target request fetchers).1 = false →
        ∃ f ∈ fetchers, es.getLast? = some (.stop target f.name .panicked)) := by
  induction fetchers generalizing s with
  | nil => exact ⟨[], by simp, rfl, by simp, by simp [runInline]⟩
  | cons f fs ih =>
      obtain ⟨hf, hfs⟩ := List.cons_subset.mp hfetchers
      have hevents := s.inlineEvents_during target request hf
      have hfollow := s.follow_inlineEvents target request f
      simp only [runInline]
      split
      · next hpanic =>
          refine ⟨_, hevents, hfollow.symm, by simp, fun _ => ⟨f, List.mem_cons_self, ?_⟩⟩
          simp [inlineEvents, hpanic]
      · next hgoes =>
          obtain ⟨es, hes, hrest, hquiet, hpanic⟩ := ih
            (({ s with entities := ((f.program request s.entities target).finish s.entities).2 } :
              FetchSession).logStop target f.name
                ((f.program request s.entities target).finish s.entities).1) hfs
          refine ⟨s.inlineEvents target request f ++ es, ?_, ?_, fun htrue g hg => ?_,
            fun hfalse => ?_⟩
          · intro e he
            exact (List.mem_append.mp he).elim (hevents e) (hes e)
          · rw [follow_append, hfollow]
            exact hrest
          · rcases List.mem_append.mp hg with hg | hg
            · have hstop : ((f.program request s.entities target).finish s.entities).1 =
                  some .panicked ∧ f.name = g := by
                simpa [inlineEvents] using hg
              exact hgoes hstop.1
            · exact hquiet htrue g hg
          · obtain ⟨g, hg, hlast⟩ := hpanic hfalse
            exact ⟨g, List.mem_cons_of_mem f hg, by simp [List.getLast?_append, hlast]⟩

theorem run_advance_eq_follow (s : FetchSession) (ks : List Nat) :
    s.run (ks.map .advance) = s.follow (ks.map .advance) := by
  induction ks generalizing s with
  | nil => rfl
  | cons k ks ih => exact ih (s.advance k)

/-- A call that goes through alone is a history of its beginning, its fetchers' steps and its end.
If it runs its fetchers itself and one of them panics, then this is the end of the call. -/
def Unfolds (s : FetchSession) (target : LoadTarget) (loader : Loader) (request : Request)
    (es : List CallEvent) : Prop :=
  let left := s.follow (.call target loader request :: es)
  (∀ e ∈ es, DuringCall target loader request e) ∧
  ((∀ f, .stop target f .panicked ∉ es) ∧
      (∃ outcome, s.load target loader request = (left.finish target loader outcome).map some id) ∨
    loader.config.concurrent = false ∧
      (∃ f ∈ loader.fetchers, es.getLast? = some (.stop target f.name .panicked)) ∧
      s.load target loader request = (none, left))

theorem load_unfolds (s : FetchSession) (target : LoadTarget) (loader : Loader)
    (request : Request) : ∃ es, s.Unfolds target loader request es := by
  cases hwork : s.nothingToLoad target loader with
  | true =>
      refine ⟨[], by simp, Or.inl ⟨by simp, .completed, ?_⟩⟩
      simp [load, follow, FetchSession.act, enter, hwork]
  | false =>
      cases hconcurrent : loader.config.concurrent with
      | false =>
          have henter : s.enter target loader request = s := by
            simp [enter, hconcurrent]
          obtain ⟨es, hes, hrun, hquiet, hpanic⟩ :=
            s.runInline_eq_follow target request (List.Subset.refl loader.fetchers)
          refine ⟨es, hes, ?_⟩
          simp only [follow, FetchSession.act, henter, ← hrun, load, hwork, hconcurrent]
          rcases hinline : s.runInline target request loader.fetchers with ⟨_ | _, left⟩
          · exact Or.inr ⟨trivial, hpanic (by rw [hinline]), rfl⟩
          · exact Or.inl ⟨hquiet (by rw [hinline]), .completed, rfl⟩
      | true =>
          obtain ⟨ks, s', hs', hload⟩ := s.load_eq_run request hwork hconcurrent
          refine ⟨ks.map .advance, fun e he => ?_,
            Or.inl ⟨by simp, s'.outcomeOf s.calls.length, ?_⟩⟩
          · obtain ⟨k, -, rfl⟩ := List.mem_map.mp he
            exact Or.inl ⟨k, rfl⟩
          · rw [hload, hs', run, run_advance_eq_follow]
            simp [step, follow, FetchSession.act, enter, hwork, hconcurrent]

/-! ### The user's own barrier -/

/-- For calls of any kind, in any number and overlapping in any way: the user's own barrier is
claimed once at most, by a concurrent user phase with fetchers that finds it idle. It counts the
live fetchers of that call, and is what it was before if there is none. No other call moves it at
any step, and no call moves the barrier of an item. -/
theorem barriers_under_calls {e : Entities} (hb : e.user.barrier.Reachable)
    {es : List CallEvent} (hes : HandsOff { entities := e } es) :
    let s := follow { entities := e } es
    (∀ i j, s.claimedBy i = true → s.claimedBy j = true → i = j) ∧
    (∀ m ∈ scenes { entities := e } es,
      (∀ i, (m.1.act m.2).claimedBy i = true ↔
        m.1.claimedBy i = true ∨ i = m.1.calls.length ∧ m.1.Claims m.2) ∧
      ((m.1.act m.2).own = m.1.own ∨ m.1.Claims m.2 ∨
        ∃ k t, m.2 = .advance k ∧ m.1.tasks[k]? = some t ∧ m.1.claimedBy t.call = true) ∧
      ((∀ f, m.2 ≠ .edit f) →
        (m.1.act m.2).entities.itemBarriers = m.1.entities.itemBarriers)) ∧
    ((∀ i, ¬ s.claimedBy i = true) → s.own = e.user.barrier) ∧
    (∀ i, s.claimedBy i = true → s.own = .awaiting (s.live i)) ∧
    ∀ target loader request, ∃ fs, s.Unfolds target loader request fs := by
  intro s
  have hs : Kept e.user.barrier s := (kept_new hb).follow hes
  refine ⟨fun i j hi hj => hs.claimed_once hi hj, fun m hm => ?_, hs.unclaimed,
    fun i hi => hs.own_eq hi, s.load_unfolds⟩
  have hoff := hes m hm
  exact ⟨act_claimedBy hoff, act_own hoff, act_itemBarriers hoff⟩

/-- The first call claims the barrier and times out. A second one, a sequential one and one for
items come and go before its fetcher ends. -/
theorem barriers_under_late_fetcher :
    let user : User := { id := "u1" }
    let item : Item := { id := "i1" }
    let fetcher : Fetcher :=
      { name := "profile"
        forUser := fun _ _ => .pause .done
        forItems := fun _ _ _ => .pause .done }
    let writer : Fetcher :=
      { name := "writer", forUser := fun _ _ => .call (.user (.delete "age")) fun _ => .panic }
    let loader : Loader := { fetchers := [fetcher], config := {} }
    let sequential : Loader := { fetchers := [writer], config := { concurrent := false } }
    let request : Request := { scene := "home" }
    let e : Entities := { user, items := [item] }
    let es : List CallEvent := [.call .user loader request, .advance 0,
      .finish .user loader .timedOut, .call .user loader request, .call .items loader request,
      .call .user sequential request, .await .user (.user (.delete "age")),
      .stop .user "writer" .panicked, .advance 1, .resume 0]
    let s := follow { entities := e } es
    (user.barrier.Reachable ∧ HandsOff { entities := e } es) ∧
    (∀ i, s.claimedBy i = true → i = 0) ∧ s.own = .awaiting 1 ∧
    (s.act (.advance 0)).own = .awaiting 0 := by
  intro user item fetcher writer loader sequential request e es s
  have hb : user.barrier.Reachable := ⟨[], rfl⟩
  have hes : HandsOff { entities := e } es := by decide
  obtain ⟨honce, -, -, hown, -⟩ := barriers_under_calls (e := e) hb hes
  refine ⟨⟨hb, hes⟩, fun i hi => honce i 0 hi (by decide), ?_, by decide⟩
  exact hown 0 (by decide)

/-- Not to move a barrier is not to make no difference to it. A call runs its fetcher itself, and
the fetcher leaves a property of the user. With it, the fetcher of a later call goes on for longer
than it would have done without, and so the user's own barrier still has its load. -/
theorem barriers_after_sequential :
    let writer : Fetcher :=
      { name := "writer"
        forUser := fun _ _ => .call (.user (.set "age" (.int 30))) fun _ => .done }
    let reader : Fetcher :=
      { name := "reader"
        forUser := fun _ _ => .call (.user (.get "age")) fun age? =>
          match age? with
          | some _ => .pause .done
          | none => .fail (.property (.notFound "age")) }
    let sequential : Loader := { fetchers := [writer], config := { concurrent := false } }
    let concurrent : Loader := { fetchers := [reader], config := {} }
    let request : Request := { scene := "home" }
    let s : FetchSession := { entities := { user := { id := "u1" }, items := [] } }
    let during : List CallEvent := [.await .user (.user (.set "age" (.int 30)))]
    let after : List CallEvent := [.call .user concurrent request, .advance 0, .advance 0]
    let left := (s.load .user sequential request).2
    (s.Unfolds .user sequential request during ∧
      s.HandsOff (.call .user sequential request :: during) ∧ left.HandsOff after ∧
      s.HandsOff after) ∧
    (left.follow after).own.pending = 1 ∧ (left.follow after).own.phase = .loading ∧
    (s.follow after).own.pending = 0 ∧ (s.follow after).own.phase = .complete := by
  intro writer reader sequential concurrent request s during after left
  have hduring : ∀ e ∈ during, DuringCall .user sequential request e := by
    intro e he
    have hwrites : .user (.set "age" (.int 30)) ∈
        (writer.program request s.entities .user).trace s.entities := List.mem_singleton.mpr rfl
    exact Or.inr ⟨writer, List.mem_singleton.mpr rfl, s.entities,
      Or.inl ⟨_, hwrites, List.mem_singleton.mp he⟩⟩
  have hload : s.Unfolds .user sequential request during :=
    ⟨hduring, Or.inl ⟨by simp [during], .completed, rfl⟩⟩
  exact ⟨⟨hload, by decide, by decide, by decide⟩, by decide, by decide, by decide, by decide⟩

end FetchSession
end Shortlist
