import Shortlist.Proofs.Barrier.History
/-! Waiting on a barrier. A waiter looks when it comes, sleeps while nothing is decided, is woken
by every broadcast, and takes a last look at its deadline. Tasks know the barrier from its
broadcasts and threads look at the phase itself; both are told the same. -/
namespace Shortlist

inductive WaiterKind where
  | listening | looking
deriving DecidableEq, Repr

inductive WaiterState where
  | asleep | woken
  | released (outcome : WaitOutcome)
deriving DecidableEq, Repr

structure Waiter where
  kind : WaiterKind
  state : WaiterState
deriving DecidableEq, Repr

/-- What a phase tells its waiters, if it lets them go. -/
def LoadPhase.verdict? : LoadPhase → Option WaitOutcome
  | .complete => some .completed
  | .aborted => some .aborted
  | .idle | .loading => none

namespace WaiterKind

def decision? : WaiterKind → Barrier → Option WaitOutcome
  | .listening, b => b.announcedDecision?
  | .looking, b => b.decision?

/-- The outcome at the deadline. -/
def outcome : WaiterKind → Barrier → WaitOutcome
  | .listening, b => b.announcedOutcome
  | .looking, b => b.waitOutcome

end WaiterKind

namespace Waiter

def isReleased (w : Waiter) : Bool :=
  match w.state with
  | .released _ => true
  | .asleep | .woken => false

def look (w : Waiter) (b : Barrier) : Waiter :=
  if w.isReleased then w
  else match w.kind.decision? b with
    | some outcome => { w with state := .released outcome }
    | none => { w with state := .asleep }

def expire (w : Waiter) (b : Barrier) : Waiter :=
  if w.isReleased then w else { w with state := .released (w.kind.outcome b) }

def hear (w : Waiter) : Waiter := if w.isReleased then w else { w with state := .woken }

end Waiter

/-- A waiter may also look without having been woken. -/
inductive WaitEvent where
  | operate (e : BarrierEvent)
  | arrive (kind : WaiterKind)
  | look (waiter : Nat)
  | expire (waiter : Nat)
deriving DecidableEq, Repr

structure WaitSession where
  use : BarrierSession := {}
  waiters : List Waiter := []
deriving DecidableEq, Repr

namespace WaitSession

def barrier (s : WaitSession) : Barrier := s.use.barrier

/-- A broadcast wakes everybody who waits. An operation that announces nothing wakes nobody. -/
def operate (s : WaitSession) (e : BarrierEvent) : WaitSession :=
  let use := (s.use.step e).2
  { use
    waiters := if use.barrier.announced = s.barrier.announced then s.waiters
      else s.waiters.map .hear }

def step (s : WaitSession) : WaitEvent → WaitSession
  | .operate e => s.operate e
  | .arrive kind =>
    { s with waiters := s.waiters ++ [Waiter.look { kind, state := .woken } s.barrier] }
  | .look i => { s with waiters := s.waiters.modify i (·.look s.barrier) }
  | .expire i => { s with waiters := s.waiters.modify i (·.expire s.barrier) }

def run (s : WaitSession) : List WaitEvent → WaitSession
  | [] => s
  | e :: es => (s.step e).run es

end WaitSession

/-! ### One look -/

theorem LoadPhase.isTerminal_iff {p : LoadPhase} :
    p.isTerminal = true ↔ ∃ outcome, p.verdict? = some outcome := by
  cases p <;> simp [isTerminal, verdict?]

theorem LoadPhase.isTerminal_of_rank_le {p q : LoadPhase} (h : p.rank ≤ q.rank)
    (hp : p.isTerminal = true) : q.isTerminal = true := by
  cases p <;> cases q <;> simp [rank, isTerminal] at h hp ⊢

theorem LoadPhase.verdict?_eq_some {p : LoadPhase} {outcome : WaitOutcome}
    (h : p.verdict? = some outcome) :
    (outcome = .completed ↔ p = .complete) ∧ (outcome = .aborted ↔ p = .aborted) ∧
      outcome ≠ .timedOut := by
  cases p <;> cases h <;> simp

namespace Barrier

theorem decision?_eq (b : Barrier) : b.decision? = b.phase.verdict? := by
  unfold decision? LoadPhase.verdict?
  cases b.phase <;> rfl

theorem announcedDecision?_eq (b : Barrier) : b.announcedDecision? = b.announced.verdict? := by
  unfold announcedDecision? LoadPhase.verdict?
  cases b.announced <;> rfl

theorem Consistent.verdict?_announced {b : Barrier} (hb : b.Consistent) :
    b.announced.verdict? = b.phase.verdict? := by
  rw [hb.announced_eq]
  cases b.phase <;> rfl

/-- It makes no difference how a waiter knows the barrier. -/
theorem Consistent.kind_decision? {b : Barrier} (hb : b.Consistent) (kind : WaiterKind) :
    kind.decision? b = b.phase.verdict? := by
  cases kind with
  | listening => exact (announcedDecision?_eq b).trans hb.verdict?_announced
  | looking => exact decision?_eq b

theorem Consistent.kind_outcome {b : Barrier} (hb : b.Consistent) (kind : WaiterKind) :
    kind.outcome b = b.phase.verdict?.getD .timedOut := by
  rw [← hb.kind_decision? kind]
  cases kind <;> rfl

theorem Consistent.kind_decision_iff {b : Barrier} (hb : b.Consistent) (kind : WaiterKind) :
    (kind.decision? b = some .completed ↔ b.phase = .complete) ∧
      (kind.decision? b = some .aborted ↔ b.phase = .aborted) ∧
      (kind.decision? b = none ↔ b.phase.isTerminal = false) := by
  rw [hb.kind_decision? kind]
  cases b.phase <;> simp [LoadPhase.verdict?, LoadPhase.isTerminal]

/-- A phase that lets waiters go has been announced, and nothing else has. -/
theorem Consistent.isTerminal_announced {b : Barrier} (hb : b.Consistent) :
    b.announced.isTerminal = b.phase.isTerminal := by
  rw [hb.announced_eq]
  cases b.phase <;> rfl

end Barrier

namespace Waiter
variable {w : Waiter} {b : Barrier}

theorem look_released (h : w.isReleased = true) : w.look b = w := if_pos h

theorem expire_released (h : w.isReleased = true) : w.expire b = w := if_pos h

theorem hear_released (h : w.isReleased = true) : w.hear = w := if_pos h

theorem look_waiting (hb : b.Consistent) (h : w.isReleased = false) :
    w.look b =
      { w with state := (b.phase.verdict?.map WaiterState.released).getD .asleep } := by
  simp only [look, h, hb.kind_decision?]
  cases b.phase.verdict? <;> rfl

theorem expire_waiting (hb : b.Consistent) (h : w.isReleased = false) :
    w.expire b = { w with state := .released (b.phase.verdict?.getD .timedOut) } := by
  simp only [expire, h, hb.kind_outcome]
  rfl

theorem hear_waiting (h : w.isReleased = false) : w.hear = { w with state := .woken } := by
  simp only [hear, h]
  rfl

theorem isReleased_iff : w.isReleased = true ↔ ∃ outcome, w.state = .released outcome := by
  unfold isReleased
  cases w.state <;> simp

end Waiter

/-! ### One step -/

namespace WaitSession
variable {s : WaitSession}

/-- Waiters sleep only while there is nothing to tell them. -/
structure Alert (s : WaitSession) : Prop where
  consistent : s.barrier.Consistent
  awake : s.barrier.phase.isTerminal = true → ∀ w ∈ s.waiters, w.state ≠ .asleep

theorem alert_new : Alert {} where
  consistent := Barrier.consistent_new
  awake _ w hw := by cases hw

theorem step_barrier (s : WaitSession) (e : WaitEvent) :
    ∃ added taken, s.barrier.Move added taken (s.step e).barrier := by
  cases e with
  | operate e => exact ⟨_, _, s.use.step_move e⟩
  | arrive kind => exact ⟨0, 0, .keep⟩
  | look i => exact ⟨0, 0, .keep⟩
  | expire i => exact ⟨0, 0, .keep⟩

theorem look_awake {w : Waiter} (hb : s.barrier.Consistent)
    (ht : s.barrier.phase.isTerminal = true) (hw : w.state ≠ .asleep) :
    (w.look s.barrier).state ≠ .asleep := by
  cases h : w.isReleased with
  | true => rwa [Waiter.look_released h]
  | false =>
      obtain ⟨outcome, houtcome⟩ := LoadPhase.isTerminal_iff.mp ht
      rw [Waiter.look_waiting hb h, houtcome]
      simp

theorem expire_awake {w : Waiter} (b : Barrier) (hw : w.state ≠ .asleep) :
    (w.expire b).state ≠ .asleep := by
  cases h : w.isReleased with
  | true => rwa [Waiter.expire_released h]
  | false => simp [Waiter.expire, h]

theorem hear_awake (w : Waiter) : w.hear.state ≠ .asleep := by
  cases h : w.isReleased with
  | true =>
      obtain ⟨outcome, hstate⟩ := Waiter.isReleased_iff.mp h
      rw [Waiter.hear_released h, hstate]
      simp
  | false =>
      rw [Waiter.hear_waiting h]
      simp

theorem forall_mem_modify {p : Waiter → Prop} {f : Waiter → Waiter} {ws : List Waiter}
    (h : ∀ w ∈ ws, p w) (hf : ∀ w, p w → p (f w)) (i : Nat) : ∀ w ∈ ws.modify i f, p w := by
  intro w hw
  obtain ⟨k, hk⟩ := List.mem_iff_getElem?.mp hw
  rw [List.getElem?_modify] at hk
  obtain ⟨w', hw', rfl⟩ := Option.map_eq_some_iff.mp hk
  have hp := h w' (List.mem_of_getElem? hw')
  split
  · exact hf w' hp
  · exact hp

theorem Alert.step (hs : s.Alert) (e : WaitEvent) : (s.step e).Alert := by
  obtain ⟨added, taken, m⟩ := s.step_barrier e
  have hb := m.consistent hs.consistent
  refine ⟨hb, ?_⟩
  cases e with
  | operate e =>
      intro ht w hw
      simp only [WaitSession.step, operate] at hw
      split at hw
      · next hsame =>
          -- nothing was announced, so the phase let waiters go before already
          refine hs.awake ?_ w hw
          rw [← hs.consistent.isTerminal_announced, ← hsame]
          exact hb.isTerminal_announced.trans ht
      · obtain ⟨w', -, rfl⟩ := List.mem_map.mp hw
        exact hear_awake w'
  | arrive kind =>
      intro ht w hw
      rcases List.mem_append.mp hw with hold | hnew
      · exact hs.awake ht w hold
      · cases List.mem_singleton.mp hnew
        exact look_awake hs.consistent ht (by simp)
  | look i =>
      intro ht
      exact forall_mem_modify (hs.awake ht) (fun w hw => look_awake hs.consistent ht hw) i
  | expire i =>
      intro ht
      exact forall_mem_modify (hs.awake ht) (fun w hw => expire_awake s.barrier hw) i

theorem Alert.run (hs : s.Alert) (es : List WaitEvent) : (s.run es).Alert := by
  induction es generalizing s with
  | nil => exact hs
  | cons e es ih => exact ih (hs.step e)

theorem rank_le_step (s : WaitSession) (e : WaitEvent) :
    s.barrier.phase.rank ≤ (s.step e).barrier.phase.rank := by
  obtain ⟨added, taken, m⟩ := s.step_barrier e
  exact m.rank_le

/-- What a step makes of one waiter: it looks, takes its last look, hears a broadcast, or is left
alone. -/
theorem step_waiter {i : Nat} {w : Waiter} (hw : s.waiters[i]? = some w) (e : WaitEvent) :
    (e = .look i ∧ (s.step e).waiters[i]? = some (w.look s.barrier)) ∨
    (e = .expire i ∧ (s.step e).waiters[i]? = some (w.expire s.barrier)) ∨
    ((e ≠ .look i ∧ e ≠ .expire i) ∧
      ((s.step e).waiters[i]? = some w ∨ (s.step e).waiters[i]? = some w.hear)) := by
  cases e with
  | operate e =>
      refine Or.inr (Or.inr ⟨⟨by simp, by simp⟩, ?_⟩)
      simp only [WaitSession.step, operate]
      split
      · exact Or.inl hw
      · exact Or.inr (by rw [List.getElem?_map, hw, Option.map_some])
  | arrive kind =>
      have hlt := (List.getElem?_eq_some_iff.mp hw).1
      refine Or.inr (Or.inr ⟨⟨by simp, by simp⟩, Or.inl ?_⟩)
      simp only [WaitSession.step, List.getElem?_append_left hlt, hw]
  | look k =>
      simp only [WaitSession.step, List.getElem?_modify, hw]
      by_cases hk : k = i
      · exact Or.inl (by simp [hk])
      · exact Or.inr (Or.inr (by simp [hk]))
  | expire k =>
      simp only [WaitSession.step, List.getElem?_modify, hw]
      by_cases hk : k = i
      · exact Or.inr (Or.inl (by simp [hk]))
      · exact Or.inr (Or.inr (by simp [hk]))

theorem woken_of_waiting {w : Waiter} (hwaiting : w.isReleased = false)
    (hawake : w.state ≠ .asleep) : w = { w with state := .woken } := by
  obtain ⟨kind, state⟩ := w
  cases state with
  | asleep => exact absurd rfl hawake
  | woken => rfl
  | released outcome => cases hwaiting

/-- A waiter is let go by its own look, with what the phase says; only at its deadline may it be
let go while the phase says nothing. -/
theorem Alert.released (hs : s.Alert) {e : WaitEvent} {i : Nat} {w w' : Waiter}
    {outcome : WaitOutcome} (hw : s.waiters[i]? = some w) (hwaiting : w.isReleased = false)
    (hw' : (s.step e).waiters[i]? = some w') (hreleased : w'.state = .released outcome) :
    s.barrier.phase.verdict? = some outcome ∧ (e = .look i ∨ e = .expire i) ∨
      s.barrier.phase.verdict? = none ∧ outcome = .timedOut ∧ e = .expire i := by
  rcases step_waiter hw e with ⟨he, hlook⟩ | ⟨he, hexpire⟩ | ⟨-, hkeep | hhear⟩
  · cases hlook.symm.trans hw'
    rw [Waiter.look_waiting hs.consistent hwaiting] at hreleased
    cases hv : s.barrier.phase.verdict? with
    | none => simp [hv] at hreleased
    | some o =>
        simp only [hv, Option.map_some, Option.getD_some, WaiterState.released.injEq] at hreleased
        exact Or.inl ⟨congrArg some hreleased, Or.inl he⟩
  · cases hexpire.symm.trans hw'
    rw [Waiter.expire_waiting hs.consistent hwaiting] at hreleased
    cases hv : s.barrier.phase.verdict? with
    | none =>
        simp only [hv, Option.getD_none, WaiterState.released.injEq] at hreleased
        exact Or.inr ⟨rfl, hreleased.symm, he⟩
    | some o =>
        simp only [hv, Option.getD_some, WaiterState.released.injEq] at hreleased
        exact Or.inl ⟨congrArg some hreleased, Or.inr he⟩
  · cases hkeep.symm.trans hw'
    rw [Waiter.isReleased_iff.mpr ⟨outcome, hreleased⟩] at hwaiting
    cases hwaiting
  · cases hhear.symm.trans hw'
    rw [Waiter.hear_waiting hwaiting] at hreleased
    cases hreleased

theorem Alert.outcome_iff (hs : s.Alert) {e : WaitEvent} {i : Nat} {w w' : Waiter}
    {outcome : WaitOutcome} (hw : s.waiters[i]? = some w) (hwaiting : w.isReleased = false)
    (hw' : (s.step e).waiters[i]? = some w') (hreleased : w'.state = .released outcome) :
    (e = .look i ∨ e = .expire i) ∧
      (outcome = .completed ↔ s.barrier.phase = .complete) ∧
      (outcome = .aborted ↔ s.barrier.phase = .aborted) ∧
      (outcome = .timedOut → e = .expire i ∧ s.barrier.phase.isTerminal = false) := by
  rcases hs.released hw hwaiting hw' hreleased with ⟨hverdict, he⟩ | ⟨hnone, rfl, he⟩
  · obtain ⟨hcomplete, haborted, hnever⟩ := LoadPhase.verdict?_eq_some hverdict
    exact ⟨he, hcomplete, haborted, fun h => absurd h hnever⟩
  · refine ⟨Or.inr he, ?_⟩
    cases hp : s.barrier.phase <;> simp [hp, LoadPhase.verdict?] at hnone
    · exact ⟨by simp, by simp, fun _ => ⟨he, rfl⟩⟩
    · exact ⟨by simp, by simp, fun _ => ⟨he, rfl⟩⟩

/-! ### Whole histories -/

theorem step_kept {i : Nat} {w : Waiter} (hw : s.waiters[i]? = some w)
    (hreleased : w.isReleased = true) (e : WaitEvent) : (s.step e).waiters[i]? = some w := by
  rcases step_waiter hw e with ⟨-, h⟩ | ⟨-, h⟩ | ⟨-, h | h⟩
  · rwa [Waiter.look_released hreleased] at h
  · rwa [Waiter.expire_released hreleased] at h
  · exact h
  · rwa [Waiter.hear_released hreleased] at h

theorem run_kept {i : Nat} {w : Waiter} (hw : s.waiters[i]? = some w)
    (hreleased : w.isReleased = true) (es : List WaitEvent) :
    (s.run es).waiters[i]? = some w := by
  induction es generalizing s with
  | nil => exact hw
  | cons e es ih => exact ih (step_kept hw hreleased e)

/-- A waiter of a terminal phase has been woken, and its next look lets it go with that phase or
a later one. -/
theorem Alert.lets_go (hs : s.Alert) {i : Nat} {w : Waiter} (hw : s.waiters[i]? = some w)
    (hwaiting : w.isReleased = false) (ht : s.barrier.phase.isTerminal = true)
    (es : List WaitEvent) :
    (s.run es).waiters[i]? = some { w with state := .woken } ∧
        (∀ e ∈ es, e ≠ .look i ∧ e ≠ .expire i) ∨
      ∃ (p : LoadPhase) (outcome : WaitOutcome),
        (s.run es).waiters[i]? = some { w with state := .released outcome } ∧
        p.verdict? = some outcome ∧ s.barrier.phase.rank ≤ p.rank := by
  have hwoken := woken_of_waiting hwaiting (hs.awake ht w (List.mem_of_getElem? hw))
  induction es generalizing s with
  | nil => exact Or.inl ⟨hw.trans (congrArg some hwoken), by simp⟩
  | cons e es ih =>
      obtain ⟨outcome, hverdict⟩ := LoadPhase.isTerminal_iff.mp ht
      rcases step_waiter hw e with ⟨-, h⟩ | ⟨-, h⟩ | ⟨hnot, h⟩
      · rw [Waiter.look_waiting hs.consistent hwaiting, hverdict] at h
        exact Or.inr ⟨_, outcome, run_kept h rfl es, hverdict, Nat.le_refl _⟩
      · rw [Waiter.expire_waiting hs.consistent hwaiting, hverdict] at h
        exact Or.inr ⟨_, outcome, run_kept h rfl es, hverdict, Nat.le_refl _⟩
      · have hnext : (s.step e).waiters[i]? = some w := by
          rcases h with h | h
          · exact h
          · rw [Waiter.hear_waiting hwaiting, ← hwoken] at h
            exact h
        have hrank := s.rank_le_step e
        have hterminal := LoadPhase.isTerminal_of_rank_le hrank ht
        rcases ih (hs.step e) hnext hterminal with ⟨hlast, hes⟩ | ⟨p, o, hlast, hp, hle⟩
        · exact Or.inl ⟨hlast, List.forall_mem_cons.mpr ⟨hnot, hes⟩⟩
        · exact Or.inr ⟨p, o, hlast, hp, Nat.le_trans hrank hle⟩

theorem Alert.arrives (hs : s.Alert) (kind : WaiterKind) :
    (s.step (.arrive kind)).waiters = s.waiters ++
      [{ kind, state := (s.barrier.phase.verdict?.map WaiterState.released).getD .asleep }] := by
  have hlook := Waiter.look_waiting (w := { kind, state := .woken }) hs.consistent rfl
  simp only [WaitSession.step, hlook]

/-- The laws of waiting, over every history of operations and waiters: what is announced, that
both kinds of waiter decide alike, what a waiter is let go with, that a terminal phase lets every
waiter go, and that nobody sleeps who comes to one. -/
theorem waiting_laws (es : List WaitEvent) :
    let s := run {} es
    s.barrier.announced =
        (if s.barrier.phase.isTerminal then s.barrier.phase else .idle) ∧
    ((∀ kind : WaiterKind,
        (kind.decision? s.barrier = some .completed ↔ s.barrier.phase = .complete) ∧
        (kind.decision? s.barrier = some .aborted ↔ s.barrier.phase = .aborted) ∧
        (kind.decision? s.barrier = none ↔ s.barrier.phase.isTerminal = false)) ∧
      WaiterKind.listening.decision? s.barrier = WaiterKind.looking.decision? s.barrier) ∧
    (∀ (e : WaitEvent) (i : Nat) (w w' : Waiter) (outcome : WaitOutcome),
      s.waiters[i]? = some w → w.isReleased = false →
      (s.step e).waiters[i]? = some w' → w'.state = .released outcome →
      (e = .look i ∨ e = .expire i) ∧
      (outcome = .completed ↔ s.barrier.phase = .complete) ∧
      (outcome = .aborted ↔ s.barrier.phase = .aborted) ∧
      (outcome = .timedOut → e = .expire i ∧ s.barrier.phase.isTerminal = false)) ∧
    (s.barrier.phase.isTerminal = true →
      ∀ (i : Nat) (w : Waiter), s.waiters[i]? = some w → w.isReleased = false →
      ∀ fs : List WaitEvent,
        (s.run fs).waiters[i]? = some { w with state := .woken } ∧
            (∀ e ∈ fs, e ≠ .look i ∧ e ≠ .expire i) ∨
          ∃ (p : LoadPhase) (outcome : WaitOutcome),
            (s.run fs).waiters[i]? = some { w with state := .released outcome } ∧
            p.verdict? = some outcome ∧ s.barrier.phase.rank ≤ p.rank) ∧
    ∀ kind : WaiterKind, (s.step (.arrive kind)).waiters = s.waiters ++
      [{ kind, state := (s.barrier.phase.verdict?.map WaiterState.released).getD .asleep }] := by
  intro s
  have hs : s.Alert := alert_new.run es
  have hb := hs.consistent
  refine ⟨hb.announced_eq, ⟨hb.kind_decision_iff, ?_⟩, ?_, ?_, hs.arrives⟩
  · exact (hb.kind_decision? .listening).trans (hb.kind_decision? .looking).symm
  · intro e i w w' outcome hw hwaiting hw' hreleased
    exact hs.outcome_iff hw hwaiting hw' hreleased
  · intro ht i w hw hwaiting fs
    exact hs.lets_go hw hwaiting ht fs

end WaitSession
end Shortlist
