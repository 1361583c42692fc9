import Mathlib.Data.Nat.ModEq
import Shortlist.Proofs.Barrier.Move
/-! Histories of a load barrier: any events in any order. Each moment of a history is a state
together with the event that comes next. -/
namespace Shortlist
open Barrier (granted)

def errorOf? : Except LoadError UInt64 → Option LoadError
  | .ok _ => none
  | .error e => some e

namespace BarrierSession

/-- Loads that an event puts on the count. A failed event puts none; one that unwinds afterwards
has put them there. -/
def added (s : BarrierSession) : BarrierEvent → UInt64
  | .increment n | .register n => granted (s.barrier.increment n).1 n
  | .claim n => if (s.barrier.claim? n).isSome then n else 0
  | .decrement _ | .complete _ | .drop _ => 0

/-- Loads that an event takes off the count. Loads end one by one, however they end. -/
def taken (s : BarrierSession) : BarrierEvent → UInt64
  | .decrement n => granted (s.barrier.decrement n).1 n
  | .complete load | .drop load =>
    if s.isHeld load then granted (s.barrier.decrement 1).1 1 else 0
  | .increment _ | .register _ | .claim _ => 0

/-- The error that an event meets. A dropped load meets it too, although nobody is told. -/
def error? (s : BarrierSession) : BarrierEvent → Option LoadError
  | .increment n | .register n => errorOf? (s.barrier.increment n).1
  | .decrement n => errorOf? (s.barrier.decrement n).1
  | .complete load | .drop load =>
    if s.isHeld load then errorOf? (s.barrier.decrement 1).1 else none
  | .claim _ => none

def completes (s : BarrierSession) (e : BarrierEvent) : Bool :=
  s.barrier.phase != .complete && (s.step e).2.barrier.phase == .complete

/-- The states of a history, each with its next event. -/
def moments (s : BarrierSession) : List BarrierEvent → List (BarrierSession × BarrierEvent)
  | [] => []
  | e :: es => (s, e) :: (s.step e).2.moments es

/-- The count does not go past the largest word in a history. -/
def Fits (s : BarrierSession) (es : List BarrierEvent) : Prop :=
  ∀ m ∈ s.moments es, m.1.barrier.pending.toNat + (m.1.added m.2).toNat < 2 ^ 64

instance (s : BarrierSession) (es : List BarrierEvent) : Decidable (s.Fits es) :=
  inferInstanceAs (Decidable (∀ m ∈ s.moments es, _))

/-! ### One step -/

@[simp] theorem handOut_barrier (s : BarrierSession) (b : Barrier) (n : UInt64) :
    (s.handOut b n).2.barrier = b := by
  unfold handOut
  split <;> rfl

theorem handOut_ne_failed (s : BarrierSession) (b : Barrier) (n : UInt64) (err : LoadError) :
    (s.handOut b n).1 ≠ .failed err := by
  unfold handOut
  split <;> simp

theorem errorOf?_of_answer {r : Except LoadError UInt64} {err : LoadError}
    (h : answer r = .failed err) : errorOf? r = some err := by
  cases r with
  | ok n => cases h
  | error e => cases h; rfl

theorem step_move (s : BarrierSession) (e : BarrierEvent) :
    s.barrier.Move (s.added e) (s.taken e) (s.step e).2.barrier := by
  cases e with
  | increment n => exact Barrier.increment_move s.barrier n
  | decrement n => exact Barrier.decrement_move s.barrier n
  | register n =>
      have m := Barrier.increment_move s.barrier n
      simp only [step, added, taken]
      split
      · next b h => simpa only [h, handOut_barrier] using m
      · next err b h => simpa only [h] using m
  | claim n =>
      simp only [step, added, taken]
      cases h : s.barrier.claim? n with
      | none => exact .keep
      | some b => simpa using Barrier.claim?_move h
  | complete load =>
      simp only [step, added, taken]
      split
      · exact Barrier.decrement_move s.barrier 1
      · exact .keep
  | drop load =>
      simp only [step, added, taken]
      split
      · exact Barrier.decrement_move s.barrier 1
      · exact .keep

theorem step_aborted {s : BarrierSession} (h : s.barrier.phase = .aborted) :
    (∀ n, (s.step (.increment n)).1 = .failed .aborted) ∧
    (∀ n, (s.step (.decrement n)).1 = .failed .aborted) ∧
    (∀ n, (s.step (.register n)).1 = .failed .aborted) ∧
    (∀ n, (s.step (.claim n)).1 = .absent) ∧
    (∀ load, s.isHeld load = true → (s.step (.complete load)).1 = .failed .aborted) := by
  have hi : s.barrier.phase ≠ .idle := by simp [h]
  refine ⟨fun n => ?_, fun n => ?_, fun n => ?_, fun n => ?_, fun load hload => ?_⟩
  · simp only [step, Barrier.increment_aborted h, answer]
  · simp only [step, Barrier.decrement_aborted h, answer]
  · simp only [step, Barrier.increment_aborted h]
  · simp only [step, Barrier.claim?_eq_none hi]
  · simp only [step, if_pos hload, Barrier.decrement_aborted h, answer]

/-- A failure that is told is the error that the event met. -/
theorem error?_of_failed {s : BarrierSession} {e : BarrierEvent} {err : LoadError}
    (h : (s.step e).1 = .failed err) : s.error? e = some err := by
  cases e with
  | increment n => exact errorOf?_of_answer h
  | decrement n => exact errorOf?_of_answer h
  | register n =>
      simp only [step, error?] at h ⊢
      split at h
      · exact absurd h (handOut_ne_failed s _ n err)
      · next hb => cases h; rw [hb]; rfl
  | claim n =>
      simp only [step] at h
      split at h
      · exact absurd h (handOut_ne_failed s _ n err)
      · cases h
  | complete load =>
      simp only [step, error?] at h ⊢
      split at h
      · next hload => rw [if_pos hload]; exact errorOf?_of_answer h
      · cases h
  | drop load =>
      simp only [step] at h
      split at h <;> cases h

/-! ### Whole histories -/

theorem run_append (s : BarrierSession) (es fs : List BarrierEvent) :
    s.run (es ++ fs) = (s.run es).run fs := by
  induction es generalizing s with
  | nil => rfl
  | cons e es ih => exact ih (s.step e).2

theorem moments_append (s : BarrierSession) (es fs : List BarrierEvent) :
    s.moments (es ++ fs) = s.moments es ++ (s.run es).moments fs := by
  induction es generalizing s with
  | nil => rfl
  | cons e es ih => exact congrArg ((s, e) :: ·) (ih (s.step e).2)

theorem run_consistent {s : BarrierSession} (hs : s.barrier.Consistent) (es : List BarrierEvent) :
    (s.run es).barrier.Consistent := by
  induction es generalizing s with
  | nil => exact hs
  | cons e es ih => exact ih ((s.step_move e).consistent hs)

theorem rank_le_run (s : BarrierSession) (es : List BarrierEvent) :
    s.barrier.phase.rank ≤ (s.run es).barrier.phase.rank := by
  induction es generalizing s with
  | nil => exact Nat.le_refl _
  | cons e es ih => exact Nat.le_trans (s.step_move e).rank_le (ih (s.step e).2)

theorem Fits.head {s : BarrierSession} {e : BarrierEvent} {es : List BarrierEvent}
    (h : s.Fits (e :: es)) : s.barrier.pending.toNat + (s.added e).toNat < 2 ^ 64 :=
  h (s, e) List.mem_cons_self

theorem Fits.tail {s : BarrierSession} {e : BarrierEvent} {es : List BarrierEvent}
    (h : s.Fits (e :: es)) : (s.step e).2.Fits es :=
  fun m hm => h m (List.mem_cons_of_mem (s, e) hm)

theorem run_aborted {s : BarrierSession} (h : s.barrier.phase = .aborted)
    (es : List BarrierEvent) : (s.run es).barrier = s.barrier := by
  induction es generalizing s with
  | nil => rfl
  | cons e es ih =>
      have hstep := (s.step_move e).eq_of_aborted h
      exact (ih (by rw [hstep]; exact h)).trans hstep

theorem of_completes {s : BarrierSession} {e : BarrierEvent} (h : s.completes e = true) :
    s.barrier.phase = .loading ∧ s.taken e = s.barrier.pending ∧
      (s.step e).2.barrier.pending = 0 := by
  simp only [completes, Bool.and_eq_true, bne_iff_ne, beq_iff_eq] at h
  exact (s.step_move e).of_completes h.1 h.2

/-- What uses up something that no event ever gives back happens once at most. -/
theorem countP_moments_le_one {p : BarrierSession × BarrierEvent → Bool}
    (spent : BarrierSession → Prop) (stays : ∀ s e, spent s → spent (s.step e).2)
    (spends : ∀ s e, p (s, e) = true → ¬ spent s ∧ spent (s.step e).2)
    (s : BarrierSession) (es : List BarrierEvent) : (s.moments es).countP p ≤ 1 := by
  have none_left : ∀ (es : List BarrierEvent) (s : BarrierSession), spent s →
      (s.moments es).countP p = 0 := by
    intro es
    induction es with
    | nil => exact fun _ _ => rfl
    | cons e es ih =>
        intro s hs
        have hnot : ¬ p (s, e) = true := fun hp => (spends s e hp).1 hs
        rw [moments, List.countP_cons_of_neg hnot]
        exact ih (s.step e).2 (stays s e hs)
  induction es generalizing s with
  | nil => exact Nat.zero_le _
  | cons e es ih =>
      rw [moments]
      by_cases hp : p (s, e) = true
      · have hspent := none_left es (s.step e).2 (spends s e hp).2
        exact Nat.le_of_eq (by rw [List.countP_cons_of_pos hp, hspent])
      · rw [List.countP_cons_of_neg hp]
        exact ih (s.step e).2

end BarrierSession
end Shortlist
