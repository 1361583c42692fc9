import Mathlib.Algebra.GroupWithZero.Nat
import Mathlib.Data.List.Basic
import Shortlist.Proofs.Barrier.History
/-! Decrements that race for a loading barrier. They are served in some order, which nobody
controls; how many of them succeed, and where the barrier ends, does not depend on it. -/
namespace Shortlist

namespace BarrierAnswer

def isCount : BarrierAnswer → Bool
  | .count _ => true
  | _ => false

def isUnderflow : BarrierAnswer → Bool
  | .failed (.underflow ..) => true
  | _ => false

end BarrierAnswer

namespace BarrierSession

/-- What is told about the events of a history, in order. -/
def answers (s : BarrierSession) (es : List BarrierEvent) : List BarrierAnswer :=
  (s.moments es).map fun m => (m.1.step m.2).1

/-- Several decrements, with nothing in between. -/
def decrements (ns : List UInt64) : List BarrierEvent := ns.map .decrement

/-- What several decrements take off together. -/
def total (ns : List UInt64) : Nat := (ns.map UInt64.toNat).sum

variable {s : BarrierSession} {n : UInt64} {ns : List UInt64}

@[simp] theorem total_nil : total [] = 0 := rfl

@[simp] theorem total_cons (n : UInt64) (ns : List UInt64) :
    total (n :: ns) = n.toNat + total ns := by
  rw [total, List.map_cons, List.sum_cons, total]

@[simp] theorem total_append (ns ms : List UInt64) :
    total (ns ++ ms) = total ns + total ms := by
  rw [total, List.map_append, List.sum_append, total, total]

theorem answers_append (s : BarrierSession) (es fs : List BarrierEvent) :
    s.answers (es ++ fs) = s.answers es ++ (s.run es).answers fs := by
  rw [answers, moments_append, List.map_append]
  rfl

theorem decrements_append (ns ms : List UInt64) :
    decrements (ns ++ ms) = decrements ns ++ decrements ms := List.map_append

theorem answers_decrements_cons (s : BarrierSession) (n : UInt64) (ns : List UInt64) :
    s.answers (decrements (n :: ns)) =
      (s.step (.decrement n)).1 :: (s.step (.decrement n)).2.answers (decrements ns) := rfl

theorem run_decrements_cons (s : BarrierSession) (n : UInt64) (ns : List UInt64) :
    s.run (decrements (n :: ns)) = (s.step (.decrement n)).2.run (decrements ns) := rfl

/-! ### One decrement -/

theorem not_aborted (h : s.barrier.phase = .loading) : s.barrier.phase ≠ .aborted := by
  rw [h]
  decide

theorem step_decrement_ok (h : s.barrier.phase ≠ .aborted)
    (hn : n.toNat ≤ s.barrier.pending.toNat) :
    (s.step (.decrement n)).1 = .count (s.barrier.pending - n) ∧
    (s.step (.decrement n)).2.barrier.pending.toNat = s.barrier.pending.toNat - n.toNat ∧
    (s.step (.decrement n)).2.barrier.phase =
      if s.barrier.phase = .loading ∧ n = s.barrier.pending then .complete
      else s.barrier.phase := by
  have hle := UInt64.le_iff_toNat_le.mpr hn
  obtain ⟨hresult, hpending, hphase⟩ := Barrier.decrement_ok h hle
  refine ⟨congrArg answer hresult, ?_, hphase⟩
  rw [← UInt64.toNat_sub_of_le _ _ hle]
  exact congrArg UInt64.toNat hpending

theorem step_decrement_underflow (h : s.barrier.phase ≠ .aborted)
    (hn : s.barrier.pending.toNat < n.toNat) :
    (s.step (.decrement n)).1 = .failed (.underflow s.barrier.pending n) ∧
    (s.step (.decrement n)).2.barrier.phase = .aborted := by
  rw [step, Barrier.decrement_underflow h (UInt64.lt_iff_toNat_lt.mpr hn)]
  exact ⟨rfl, rfl⟩

/-- Unless it is the last one, a decrement that fits leaves a loading barrier loading. -/
theorem step_decrement_loading (h : s.barrier.phase = .loading)
    (hn : n.toNat < s.barrier.pending.toNat) :
    (s.step (.decrement n)).2.barrier.phase = .loading := by
  obtain ⟨-, -, hphase⟩ := step_decrement_ok (not_aborted h) (Nat.le_of_lt hn)
  rw [hphase, if_neg (fun hlast => ?_), h]
  rw [hlast.2] at hn
  exact Nat.lt_irrefl _ hn

/-! ### Decrements that fit -/

/-- Decrements that add up to the count at most all succeed. -/
theorem decrements_fit (h : s.barrier.phase ≠ .aborted)
    (hsum : total ns ≤ s.barrier.pending.toNat) :
    (∀ a ∈ s.answers (decrements ns), a.isCount = true) ∧
    (s.run (decrements ns)).barrier.pending.toNat = s.barrier.pending.toNat - total ns ∧
    (s.run (decrements ns)).barrier.phase ≠ .aborted := by
  induction ns generalizing s with
  | nil => exact ⟨by simp [answers, decrements, moments], rfl, h⟩
  | cons n ns ih =>
      rw [total_cons] at hsum
      obtain ⟨htold, hpending, hphase⟩ := step_decrement_ok h (n := n) (by omega)
      have hlive : (s.step (.decrement n)).2.barrier.phase ≠ .aborted := by
        rw [hphase]
        split
        · simp
        · exact h
      obtain ⟨hrest, hleft, hend⟩ := ih hlive (by omega)
      refine ⟨?_, ?_, hend⟩
      · rw [answers_decrements_cons, htold]
        exact List.forall_mem_cons.mpr ⟨rfl, hrest⟩
      · rw [run_decrements_cons, hleft, hpending, total_cons, Nat.sub_sub]

/-- They complete a loading barrier exactly if nothing is left of its count. -/
theorem decrements_phase (h : s.barrier.phase = .loading)
    (hsum : total ns ≤ s.barrier.pending.toNat) :
    (s.run (decrements ns)).barrier.phase =
      if ns ≠ [] ∧ total ns = s.barrier.pending.toNat then .complete else .loading := by
  induction ns generalizing s with
  | nil => exact h
  | cons n ns ih =>
      rw [total_cons] at hsum ⊢
      obtain ⟨-, hpending, hphase⟩ := step_decrement_ok (not_aborted h) (n := n) (by omega)
      rw [run_decrements_cons]
      by_cases hlast : n = s.barrier.pending
      · -- The barrier is complete by now, and the rest are decrements by nothing.
        have hcomplete : (s.step (.decrement n)).2.barrier.phase = .complete := by
          rw [hphase, if_pos ⟨h, hlast⟩]
        have hrank := (s.step (.decrement n)).2.rank_le_run (decrements ns)
        rw [hcomplete] at hrank
        have hfit : total ns ≤ (s.step (.decrement n)).2.barrier.pending.toNat := by omega
        obtain ⟨-, -, hend⟩ := decrements_fit (by simp [hcomplete]) hfit
        rw [LoadPhase.eq_complete hrank hend, if_pos ⟨by simp, by rw [hlast] at hsum ⊢; omega⟩]
      · have hless : n.toNat < s.barrier.pending.toNat :=
          Nat.lt_of_le_of_ne (by omega) fun heq => hlast (UInt64.toNat_inj.mp heq)
        have hloading := step_decrement_loading h hless
        have hleft : ns ≠ [] ∧ total ns = s.barrier.pending.toNat - n.toNat ↔
            n :: ns ≠ [] ∧ n.toNat + total ns = s.barrier.pending.toNat := by
          cases ns with
          | nil => simp; omega
          | cons m ns => simp; omega
        rw [ih hloading (by omega), hpending]
        simp only [hleft]

/-- As long as something is left of the count, nobody is told zero and nobody completes. -/
theorem decrements_short (h : s.barrier.phase = .loading)
    (hsum : total ns < s.barrier.pending.toNat) :
    ∀ m ∈ s.moments (decrements ns),
      (m.1.step m.2).1 ≠ .count 0 ∧ m.1.completes m.2 = false := by
  induction ns generalizing s with
  | nil => simp [decrements, moments]
  | cons n ns ih =>
      rw [total_cons] at hsum
      obtain ⟨htold, hpending, -⟩ := step_decrement_ok (not_aborted h) (n := n) (by omega)
      have hloading := step_decrement_loading h (n := n) (by omega)
      refine List.forall_mem_cons.mpr ⟨⟨?_, ?_⟩, ih hloading (by omega)⟩
      · have hle : n ≤ s.barrier.pending := UInt64.le_iff_toNat_le.mpr (by omega)
        intro hzero
        rw [htold, BarrierAnswer.count.injEq, ← UInt64.toNat_inj,
          UInt64.toNat_sub_of_le _ _ hle, UInt64.toNat_zero] at hzero
        omega
      · simp [completes, hloading]

/-- Of decrements by something that use up the count, the last one is told zero and completes the
barrier. -/
theorem decrements_all (h : s.barrier.phase = .loading) (hsome : ns ≠ [])
    (hsum : total ns = s.barrier.pending.toNat) (hpos : ∀ n ∈ ns, 0 < n) :
    (s.answers (decrements ns)).count (.count 0) = 1 ∧
    ∀ m ∈ s.moments (decrements ns),
      (m.1.step m.2).1 = .count 0 ↔ m.1.completes m.2 = true := by
  obtain rfl | ⟨early, n, rfl⟩ := ns.eq_nil_or_concat'
  · exact absurd rfl hsome
  · have hn := UInt64.lt_iff_toNat_lt.mp (hpos n (by simp))
    rw [total_append, total_cons, total_nil] at hsum
    rw [UInt64.toNat_zero] at hn
    have hshort : total early < s.barrier.pending.toNat := by omega
    have hearly := decrements_short h hshort
    obtain ⟨-, hleft, hlive⟩ := decrements_fit (not_aborted h) (Nat.le_of_lt hshort)
    have hloading := decrements_phase h (Nat.le_of_lt hshort)
    rw [if_neg (fun hall => Nat.ne_of_lt hshort hall.2)] at hloading
    have hlast : n = (s.run (decrements early)).barrier.pending :=
      UInt64.toNat_inj.mp (by omega)
    obtain ⟨htold, -, hphase⟩ :=
      step_decrement_ok hlive (Nat.le_of_eq (congrArg UInt64.toNat hlast))
    rw [if_pos ⟨hloading, hlast⟩] at hphase
    rw [← hlast, UInt64.sub_self] at htold
    rw [decrements_append, answers_append, moments_append]
    constructor
    · have hnone : (s.answers (decrements early)).count (.count 0) = 0 := by
        rw [List.count_eq_zero]
        intro hzero
        obtain ⟨m, hm, hm0⟩ := List.mem_map.mp hzero
        exact (hearly m hm).1 hm0
      rw [List.count_append, hnone, answers_decrements_cons, htold]
      rfl
    · refine List.forall_mem_append.mpr ⟨?_, ?_⟩
      · intro m hm
        obtain ⟨hzero, hcompletes⟩ := hearly m hm
        simp [hzero, hcompletes]
      · intro m hm
        obtain rfl := List.mem_singleton.mp hm
        simp [htold, completes, hloading, hphase]

/-! ### Decrements that do not fit -/

/-- Amounts that are too much together are so from some place on. -/
theorem exists_excess {p : Nat} (h : p < total ns) :
    ∃ before n after, ns = before ++ n :: after ∧ total before ≤ p ∧
      p < total before + n.toNat := by
  induction ns generalizing p with
  | nil => exact absurd h (Nat.not_lt_zero p)
  | cons m ns ih =>
      rw [total_cons] at h
      by_cases hm : p < m.toNat
      · exact ⟨[], m, ns, rfl, Nat.zero_le p, by simpa using hm⟩
      · obtain ⟨before, n, after, rfl, hbefore, hafter⟩ := ih (p := p - m.toNat) (by omega)
        refine ⟨m :: before, n, after, rfl, ?_, ?_⟩
        · rw [total_cons]
          omega
        · rw [total_cons]
          omega

theorem answers_aborted (h : s.barrier.phase = .aborted) (ns : List UInt64) :
    s.answers (decrements ns) = List.replicate ns.length (.failed .aborted) := by
  induction ns generalizing s with
  | nil => rfl
  | cons n ns ih =>
      have hstep := (s.step_move (.decrement n)).eq_of_aborted h
      have hrest := ih (s := (s.step (.decrement n)).2) (by rw [hstep]; exact h)
      rw [answers_decrements_cons, hrest, (step_aborted h).2.1 n]
      rfl

/-- Decrements that add up to more than the count: those before the excess succeed, the next one
underflows, and the barrier is lost for the rest. -/
theorem decrements_overflow (h : s.barrier.phase ≠ .aborted)
    (hsum : s.barrier.pending.toNat < total ns) :
    ∃ before n after left, ns = before ++ n :: after ∧ total before ≤ s.barrier.pending.toNat ∧
      s.barrier.pending.toNat < total before + n.toNat ∧
      (∀ a ∈ s.answers (decrements before), a.isCount = true) ∧
      s.answers (decrements ns) = s.answers (decrements before) ++
        .failed (.underflow left n) :: List.replicate after.length (.failed .aborted) ∧
      (s.run (decrements ns)).barrier.phase = .aborted := by
  obtain ⟨before, n, after, rfl, hbefore, hexcess⟩ := exists_excess hsum
  obtain ⟨hcounts, hleft, hlive⟩ := decrements_fit h hbefore
  obtain ⟨htold, haborted⟩ := step_decrement_underflow hlive (n := n) (by omega)
  refine ⟨before, n, after, (s.run (decrements before)).barrier.pending, rfl, hbefore, hexcess,
    hcounts, ?_, ?_⟩
  · rw [decrements_append, answers_append, answers_decrements_cons, htold, answers_aborted haborted]
  · rw [decrements_append, run_append, run_decrements_cons, run_aborted haborted]
    exact haborted

theorem length_answers (s : BarrierSession) (ns : List UInt64) :
    (s.answers (decrements ns)).length = ns.length := by
  induction ns generalizing s with
  | nil => rfl
  | cons n ns ih => exact congrArg (· + 1) (ih (s.step (.decrement n)).2)

/-- How many are told what, when some succeed, one underflows and the rest come too late. -/
theorem countP_overflow {counts : List BarrierAnswer} (hcounts : ∀ a ∈ counts, a.isCount = true)
    (left n : UInt64) (late : Nat) :
    let told := counts ++ .failed (.underflow left n) :: List.replicate late (.failed .aborted)
    told.countP (·.isUnderflow) = 1 ∧ told.countP (·.isCount) = counts.length ∧
      told.count (.failed .aborted) = late := by
  have hother : ∀ a ∈ counts, ¬ a.isUnderflow = true ∧ a ≠ .failed .aborted := by
    intro a ha
    have hcount := hcounts a ha
    cases a with
    | count k => simp [BarrierAnswer.isUnderflow]
    | done => cases hcount
    | failed e => cases hcount
    | absent => cases hcount
    | unwound => cases hcount
  have hunderflow : counts.countP (·.isUnderflow) = 0 :=
    List.countP_eq_zero.mpr fun a ha => (hother a ha).1
  have haborted : counts.count (.failed .aborted) = 0 :=
    List.count_eq_zero.mpr fun ha => (hother _ ha).2 rfl
  have hcount : counts.countP (·.isCount) = counts.length := List.countP_eq_length.mpr hcounts
  refine ⟨?_, ?_, ?_⟩
  · rw [List.countP_append, hunderflow, List.countP_cons_of_pos rfl, List.countP_replicate]
    rfl
  · rw [List.countP_append, hcount, List.countP_cons_of_neg Bool.false_ne_true,
      List.countP_replicate]
    rfl
  · simp [haborted]

/-- Decrements of a loading barrier that has been used in any way, served in any order with no
registration in between. If they add up to the count at most, all succeed, and what is left and the
phase are the same in every order; one that uses the count up is told zero, and it is the one that
completes the barrier. No decrements at all complete nothing, even where the count has wrapped
around to zero. Otherwise some succeed, one underflows, the rest find the barrier aborted, and if
each is by one, how many of each kind there are is the same in every order. -/
theorem racing_decrements {history : List BarrierEvent} {ns order : List UInt64}
    (hloading : (run {} history).barrier.phase = .loading) (horder : order.Perm ns) :
    let s := run {} history
    let told := s.answers (decrements order)
    let last := (s.run (decrements order)).barrier
    (total ns ≤ s.barrier.pending.toNat →
      (∀ a ∈ told, a.isCount = true) ∧
      last.pending.toNat = s.barrier.pending.toNat - total ns ∧
      last.phase =
        if ns ≠ [] ∧ total ns = s.barrier.pending.toNat then .complete else .loading) ∧
    (ns ≠ [] → total ns = s.barrier.pending.toNat → (∀ n ∈ ns, 0 < n) →
      told.count (.count 0) = 1 ∧
      ∀ m ∈ s.moments (decrements order),
        (m.1.step m.2).1 = .count 0 ↔ m.1.completes m.2 = true) ∧
    (s.barrier.pending.toNat < total ns →
      last.phase = .aborted ∧ told.countP (·.isUnderflow) = 1 ∧
      (∃ counts left n late, (∀ a ∈ counts, a.isCount = true) ∧
        told = counts ++ .failed (.underflow left n) :: List.replicate late (.failed .aborted)) ∧
      ((∀ n ∈ ns, n = 1) → told.countP (·.isCount) = s.barrier.pending.toNat ∧
        told.count (.failed .aborted) = ns.length - s.barrier.pending.toNat - 1)) := by
  intro s told last
  have hlive : s.barrier.phase ≠ .aborted := not_aborted hloading
  have hsum : total order = total ns := (horder.map UInt64.toNat).sum_nat
  have hsome : order ≠ [] ↔ ns ≠ [] := not_congr ⟨fun h => by simpa [h] using horder.symm,
    fun h => by simpa [h] using horder⟩
  refine ⟨fun hfit => ?_, fun hnonempty hall hpos => ?_, fun hexcess => ?_⟩
  · rw [← hsum] at hfit ⊢
    obtain ⟨hcounts, hpending, -⟩ := decrements_fit hlive hfit
    simp only [← hsome]
    exact ⟨hcounts, hpending, decrements_phase hloading hfit⟩
  · have hpos' : ∀ n ∈ order, 0 < n := fun n hn => hpos n (horder.mem_iff.mp hn)
    rw [← hsum] at hall
    exact decrements_all hloading (hsome.mpr hnonempty) hall hpos'
  · rw [← hsum] at hexcess
    obtain ⟨before, n, after, left, hsplit, hbefore, hafter, hcounts, htold, haborted⟩ :=
      decrements_overflow hlive hexcess
    obtain ⟨hunderflow, hsucceeded, hlate⟩ := countP_overflow hcounts left n after.length
    rw [← htold] at hunderflow hsucceeded hlate
    refine ⟨haborted, hunderflow, ⟨_, left, n, after.length, hcounts, htold⟩, fun hones => ?_⟩
    have hone : ∀ m ∈ order, m = 1 := fun m hm => hones m (horder.mem_iff.mp hm)
    have hlength := horder.length_eq
    rw [hsplit] at hone hlength
    obtain ⟨hbefores, hrest⟩ := List.forall_mem_append.mp hone
    obtain rfl := hrest n List.mem_cons_self
    have hserved : total before = before.length := by
      rw [List.eq_replicate_iff.mpr ⟨rfl, hbefores⟩]
      simp [total]
    rw [length_answers] at hsucceeded
    rw [List.length_append, List.length_cons] at hlength
    rw [UInt64.toNat_one] at hafter
    refine ⟨?_, ?_⟩
    · rw [hsucceeded]
      omega
    · rw [hlate]
      omega

/-- Two loads are outstanding and five threads end one each, besides one that ends nothing. -/
theorem racing_decrements_burst :
    let s := run {} [.register 3, .complete 1]
    let order : List UInt64 := [1, 0, 1, 1, 1, 1]
    (s.barrier.phase = .loading ∧ order.Perm [0, 1, 1, 1, 1, 1]) ∧
    (s.run (decrements order)).barrier.phase = .aborted ∧
    (s.answers (decrements order)).countP (·.isUnderflow) = 1 := by
  have hloading : (run {} [.register 3, .complete 1]).barrier.phase = .loading := by decide
  have horder : [(1 : UInt64), 0, 1, 1, 1, 1].Perm [0, 1, 1, 1, 1, 1] := by decide
  have hexcess : (run {} [.register 3, .complete 1]).barrier.pending.toNat <
      total [0, 1, 1, 1, 1, 1] := by decide
  obtain ⟨haborted, hunderflow, -⟩ := (racing_decrements hloading horder).2.2 hexcess
  exact ⟨⟨hloading, horder⟩, haborted, hunderflow⟩

end BarrierSession
end Shortlist
