import Mathlib.Algebra.Group.Nat.Defs
import Shortlist.Barrier.Session
/-! What one operation can do to a load barrier. Every operation is a `Move`, and what holds of
whole histories is read off the moves alone. Counts are machine words: a registration that takes
the count past the largest one makes it start again from zero. -/
namespace Shortlist

/-- The place of a phase in the order in which a barrier goes through them. -/
def LoadPhase.rank : LoadPhase → Nat
  | .idle => 0
  | .loading => 1
  | .complete => 2
  | .aborted => 3

theorem LoadPhase.eq_complete {p : LoadPhase} (h : complete.rank ≤ p.rank) (ha : p ≠ .aborted) :
    p = .complete := by
  cases p with
  | idle => simp [rank] at h
  | loading => simp [rank] at h
  | complete => rfl
  | aborted => exact absurd rfl ha

def LoadPhase.isTerminal : LoadPhase → Bool
  | .complete | .aborted => true
  | .idle | .loading => false

namespace Barrier

/-- How a barrier may change, with the loads put on the count and the loads taken off it. -/
inductive Move (b : Barrier) : (added taken : UInt64) → Barrier → Prop
  | keep : Move b 0 0 b
  | add (n : UInt64) : b.phase ≠ .idle → b.phase ≠ .aborted →
      Move b n 0 { b with pending := b.pending + n }
  | arm (n : UInt64) : b.phase = .idle → 0 < n →
      Move b n 0 { b with pending := b.pending + n, phase := .loading }
  | take (n : UInt64) : b.phase ≠ .aborted → n ≤ b.pending →
      (b.phase = .loading → n < b.pending) → Move b 0 n { b with pending := b.pending - n }
  | finish : b.phase = .loading →
      Move b 0 b.pending (fire { b with pending := 0 } .complete)
  | abort : b.phase ≠ .aborted → Move b 0 0 (b.fire .aborted)

/-- What every barrier in use keeps: idle means that nothing is outstanding, and waiters have been
told the phase if it is one that lets them go. -/
structure Consistent (b : Barrier) : Prop where
  idle_empty : b.phase = .idle → b.pending = 0
  announced_eq : b.announced = if b.phase.isTerminal then b.phase else .idle

theorem consistent_new : Consistent {} where
  idle_empty _ := rfl
  announced_eq := rfl

/-- Loading means that something is outstanding. That holds until the count wraps around. -/
def Armed (b : Barrier) : Prop := b.phase = .loading → 0 < b.pending

theorem armed_new : Armed {} := fun h => by cases h

theorem eq_zero_of_not_pos {n : UInt64} (h : ¬ 0 < n) : n = 0 :=
  UInt64.le_zero_iff.mp (UInt64.not_lt.mp h)

theorem toNat_add_of_fits {p n : UInt64} (h : p.toNat + n.toNat < 2 ^ 64) :
    (p + n).toNat = p.toNat + n.toNat := by
  rw [UInt64.toNat_add, Nat.mod_eq_of_lt h]

theorem lt_add_of_fits {p n : UInt64} (h : p.toNat + n.toNat < 2 ^ 64)
    (hpos : 0 < p ∨ 0 < n) : 0 < p + n := by
  rw [UInt64.lt_iff_toNat_lt, UInt64.lt_iff_toNat_lt] at hpos
  rw [UInt64.lt_iff_toNat_lt, toNat_add_of_fits h]
  simp only [UInt64.toNat_zero] at hpos ⊢
  omega

/-! ### Operations are moves -/

/-- The part of `n` loads that a call moved: all of them unless it failed. -/
def granted (result : Except LoadError UInt64) (n : UInt64) : UInt64 :=
  match result with
  | .ok _ => n
  | .error _ => 0

theorem increment_aborted {b : Barrier} (h : b.phase = .aborted) (n : UInt64) :
    b.increment n = (.error .aborted, b) := by
  simp [increment, h]

theorem increment_idle {b : Barrier} {n : UInt64} (h : b.phase = .idle) (hn : 0 < n) :
    b.increment n =
      (.ok (b.pending + n), { b with pending := b.pending + n, phase := .loading }) := by
  simp [increment, h, hn]

theorem increment_used {b : Barrier} (hi : b.phase ≠ .idle) (ha : b.phase ≠ .aborted) (n : UInt64) :
    b.increment n = (.ok (b.pending + n), { b with pending := b.pending + n }) := by
  unfold increment
  split
  · contradiction
  · contradiction
  · rfl
  · rfl

theorem increment_zero {b : Barrier} (ha : b.phase ≠ .aborted) :
    b.increment 0 = (.ok b.pending, b) := by
  by_cases hi : b.phase = .idle
  · simp only [increment, hi, UInt64.add_zero, UInt64.lt_irrefl, if_false]
    rw [← hi]
  · rw [increment_used hi ha, UInt64.add_zero]

theorem increment_ok {b : Barrier} (h : b.phase ≠ .aborted) (n : UInt64) :
    (b.increment n).1 = .ok (b.pending + n) ∧ (b.increment n).2.phase ≠ .aborted ∧
      ((b.increment n).2.phase = .idle ↔ b.phase = .idle ∧ n = 0) := by
  by_cases hn : n = 0
  · subst hn
    rw [increment_zero h]
    exact ⟨by rw [UInt64.add_zero], h, by simp⟩
  · by_cases hi : b.phase = .idle
    · rw [increment_idle hi (UInt64.pos_iff_ne_zero.mpr hn)]
      exact ⟨rfl, by simp, by simp [hn]⟩
    · rw [increment_used hi h]
      exact ⟨rfl, h, by simp [hi]⟩

theorem decrement_aborted {b : Barrier} (h : b.phase = .aborted) (n : UInt64) :
    b.decrement n = (.error .aborted, b) := by
  simp [decrement, h]

theorem decrement_underflow {b : Barrier} {n : UInt64} (h : b.phase ≠ .aborted)
    (hn : b.pending < n) :
    b.decrement n = (.error (.underflow b.pending n), b.fire .aborted) := by
  simp [decrement, h, hn]

theorem decrement_last {b : Barrier} (h : b.phase = .loading) :
    b.decrement b.pending = (.ok 0, fire { b with pending := 0 } .complete) := by
  simp [decrement, h]

theorem decrement_some {b : Barrier} {n : UInt64} (h : b.phase ≠ .aborted) (hn : n ≤ b.pending)
    (hlast : b.phase = .loading → n < b.pending) :
    b.decrement n = (.ok (b.pending - n), { b with pending := b.pending - n }) := by
  have hnot : ¬ (b.pending - n = 0 ∧ b.phase = .loading) := by
    rintro ⟨hzero, hloading⟩
    have := hlast hloading
    grind
  simp only [decrement, if_neg h, if_neg (UInt64.not_lt.mpr hn), if_neg hnot]

theorem decrement_ok {b : Barrier} {n : UInt64} (h : b.phase ≠ .aborted) (hn : n ≤ b.pending) :
    (b.decrement n).1 = .ok (b.pending - n) ∧ (b.decrement n).2.pending = b.pending - n ∧
      (b.decrement n).2.phase =
        if b.phase = .loading ∧ n = b.pending then .complete else b.phase := by
  by_cases hlast : b.phase = .loading ∧ n = b.pending
  · obtain ⟨hloading, rfl⟩ := hlast
    rw [decrement_last hloading, if_pos ⟨hloading, rfl⟩, UInt64.sub_self]
    exact ⟨rfl, rfl, rfl⟩
  · have hless : b.phase = .loading → n < b.pending := fun hl =>
      UInt64.lt_of_le_of_ne hn fun he => hlast ⟨hl, he⟩
    rw [decrement_some h hn hless, if_neg hlast]
    exact ⟨rfl, rfl, rfl⟩

theorem claim?_eq_none {b : Barrier} {n : UInt64} (h : b.phase ≠ .idle) : b.claim? n = none := by
  simp [claim?, h]

theorem claim?_idle {b : Barrier} {n : UInt64} (h : b.phase = .idle) (hn : 0 < n) :
    b.claim? n = some { b with pending := b.pending + n, phase := .loading } := by
  simp [claim?, h, UInt64.pos_iff_ne_zero.mp hn]

theorem claim?_eq_some {b b' : Barrier} {n : UInt64} (h : b.claim? n = some b') :
    b.phase = .idle ∧ 0 < n ∧ b' = { b with pending := b.pending + n, phase := .loading } := by
  by_cases hi : b.phase = .idle
  · by_cases hn : 0 < n
    · rw [claim?_idle hi hn] at h
      exact ⟨hi, hn, (Option.some.inj h).symm⟩
    · simp [claim?, eq_zero_of_not_pos hn] at h
  · rw [claim?_eq_none hi] at h
    cases h

theorem increment_move (b : Barrier) (n : UInt64) :
    b.Move (granted (b.increment n).1 n) 0 (b.increment n).2 := by
  by_cases ha : b.phase = .aborted
  · rw [increment_aborted ha]
    exact .keep
  · by_cases hi : b.phase = .idle
    · by_cases hn : 0 < n
      · rw [increment_idle hi hn]
        exact .arm n hi hn
      · rw [eq_zero_of_not_pos hn, increment_zero ha]
        exact .keep
    · rw [increment_used hi ha]
      exact .add n hi ha

theorem decrement_move (b : Barrier) (n : UInt64) :
    b.Move 0 (granted (b.decrement n).1 n) (b.decrement n).2 := by
  by_cases ha : b.phase = .aborted
  · rw [decrement_aborted ha]
    exact .keep
  · by_cases hn : b.pending < n
    · rw [decrement_underflow ha hn]
      exact .abort ha
    · by_cases hlast : b.phase = .loading ∧ n = b.pending
      · obtain ⟨hloading, rfl⟩ := hlast
        rw [decrement_last hloading]
        exact .finish hloading
      · have hle : n ≤ b.pending := UInt64.not_lt.mp hn
        have hless : b.phase = .loading → n < b.pending := fun hl =>
          UInt64.lt_of_le_of_ne hle fun he => hlast ⟨hl, he⟩
        rw [decrement_some ha hle hless]
        exact .take n ha hle hless

theorem claim?_move {b b' : Barrier} {n : UInt64} (h : b.claim? n = some b') : b.Move n 0 b' := by
  obtain ⟨hi, hn, rfl⟩ := claim?_eq_some h
  exact .arm n hi hn

/-! ### What a move keeps -/

namespace Move
variable {b b' : Barrier} {added taken : UInt64}

/-- The count keeps its books, up to a multiple of the word size. -/
theorem pending_eq (m : b.Move added taken b') : b'.pending + taken = b.pending + added := by
  cases m with
  | keep => rfl
  | add n hi ha => exact UInt64.add_zero _
  | arm n hi hn => exact UInt64.add_zero _
  | take n ha hn hl => simp
  | finish hl => simp [fire]
  | abort ha => rfl

theorem taken_le (m : b.Move added taken b') : taken ≤ b.pending := by
  cases m with
  | take n ha hn hl => exact hn
  | finish hl => exact UInt64.le_refl _
  | keep => exact UInt64.zero_le
  | add n hi ha => exact UInt64.zero_le
  | arm n hi hn => exact UInt64.zero_le
  | abort ha => exact UInt64.zero_le

theorem toNat_pending_eq (m : b.Move added taken b')
    (h : b.pending.toNat + added.toNat < 2 ^ 64) :
    b'.pending.toNat + taken.toNat = b.pending.toNat + added.toNat := by
  have hle := UInt64.le_iff_toNat_le.mp m.taken_le
  have hback : b'.pending = b.pending + added - taken := by
    rw [← m.pending_eq, UInt64.add_sub_cancel]
  have htaken : taken ≤ b.pending + added := by
    rw [UInt64.le_iff_toNat_le, toNat_add_of_fits h]
    omega
  rw [hback, UInt64.toNat_sub_of_le _ _ htaken, toNat_add_of_fits h]
  omega

theorem rank_le (m : b.Move added taken b') : b.phase.rank ≤ b'.phase.rank := by
  cases m with
  | keep => exact Nat.le_refl _
  | add n hi ha => exact Nat.le_refl _
  | arm n hi hn => simp [hi, LoadPhase.rank]
  | take n ha hn hl => exact Nat.le_refl _
  | finish hl => simp [hl, fire, LoadPhase.rank]
  | abort ha => cases b.phase <;> simp [fire, LoadPhase.rank]

theorem consistent (m : b.Move added taken b') (hb : b.Consistent) : b'.Consistent := by
  cases m with
  | keep => exact hb
  | add n hi ha => exact ⟨fun h => absurd h hi, hb.announced_eq⟩
  | arm n hi hn =>
      refine ⟨fun h => by simp at h, ?_⟩
      have := hb.announced_eq
      simp only [hi, LoadPhase.isTerminal] at this ⊢
      exact this
  | take n ha hn hl =>
      refine ⟨fun h => ?_, hb.announced_eq⟩
      have hzero := hb.idle_empty h
      rw [hzero] at hn
      simp only [hzero, UInt64.le_zero_iff.mp hn, UInt64.sub_self]
  | finish hl => exact ⟨fun h => by simp [fire] at h, rfl⟩
  | abort ha => exact ⟨fun h => by simp [fire] at h, rfl⟩

theorem armed (m : b.Move added taken b') (hb : b.Armed)
    (hfit : b.pending.toNat + added.toNat < 2 ^ 64) : b'.Armed := by
  cases m with
  | keep => exact hb
  | add n hi ha => exact fun h => lt_add_of_fits hfit (Or.inl (hb h))
  | arm n hi hn => exact fun _ => lt_add_of_fits hfit (Or.inr hn)
  | take n ha hn hl =>
      intro h
      rw [UInt64.lt_iff_toNat_lt, UInt64.toNat_sub_of_le _ _ hn]
      exact Nat.sub_pos_of_lt (UInt64.lt_iff_toNat_lt.mp (hl h))
  | finish hl => exact fun h => by simp [fire] at h
  | abort ha => exact fun h => by simp [fire] at h

theorem eq_of_aborted (m : b.Move added taken b') (h : b.phase = .aborted) : b' = b := by
  cases m with
  | keep => rfl
  | add n hi ha => exact absurd h ha
  | arm n hi hn => rw [hi] at h; cases h
  | take n ha hn hl => exact absurd h ha
  | finish hl => rw [hl] at h; cases h
  | abort ha => exact absurd h ha

/-- Only taking off all loads while loading completes a barrier. -/
theorem of_completes (m : b.Move added taken b') (hbefore : b.phase ≠ .complete)
    (hafter : b'.phase = .complete) :
    b.phase = .loading ∧ taken = b.pending ∧ b'.pending = 0 := by
  cases m with
  | keep => exact absurd hafter hbefore
  | add n hi ha => exact absurd hafter hbefore
  | arm n hi hn => cases hafter
  | take n ha hn hl => exact absurd hafter hbefore
  | finish hl => exact ⟨hl, rfl, rfl⟩
  | abort ha => cases hafter

theorem not_idle (m : b.Move added taken b') (h : b.phase ≠ .idle) : b'.phase ≠ .idle := by
  intro h'
  have := m.rank_le
  cases hp : b.phase with
  | idle => exact h hp
  | loading => simp [hp, h', LoadPhase.rank] at this
  | complete => simp [hp, h', LoadPhase.rank] at this
  | aborted => simp [hp, h', LoadPhase.rank] at this

end Move
end Barrier
end Shortlist
