import Shortlist.Proofs.Barrier.History
/-! Barriers that are counted by handed-out loads alone. Registering hands out as many loads as it
counts and every load ends once, so the count is the number of loads still held and no operation
can fail. -/
namespace Shortlist
open Barrier (granted)

/-- Events that keep the count to the loads handed out. -/
def BarrierEvent.byLoads : BarrierEvent → Bool
  | .register _ | .claim _ | .complete _ | .drop _ => true
  | .increment _ | .decrement _ => false

namespace BarrierSession

def heldCount (s : BarrierSession) : Nat := s.held.count true

def claims (s : BarrierSession) : BarrierEvent → Bool
  | .claim n => (s.barrier.claim? n).isSome
  | _ => false

def totalClaims (s : BarrierSession) (es : List BarrierEvent) : Nat :=
  (s.moments es).countP fun m => m.1.claims m.2

/-- Every registration that is accepted in a history is small enough to be handed out. -/
def HandsOut (s : BarrierSession) (es : List BarrierEvent) : Prop :=
  ∀ m ∈ s.moments es, (m.1.added m.2).toNat ≤ handOutLimit

instance (s : BarrierSession) (es : List BarrierEvent) : Decidable (s.HandsOut es) :=
  inferInstanceAs (Decidable (∀ m ∈ s.moments es, _))

/-- There is a load on the count for each one held. -/
structure Covered (s : BarrierSession) : Prop where
  held_le : s.heldCount ≤ s.barrier.pending.toNat
  not_aborted : s.barrier.phase ≠ .aborted

/-- The count and the held loads belong together. -/
structure Accounted (s : BarrierSession) : Prop extends s.Covered where
  consistent : s.barrier.Consistent
  armed : s.barrier.Armed
  pending_eq : s.barrier.pending.toNat = s.heldCount
  idle_iff : s.barrier.phase = .idle ↔ s.held = []

theorem accounted_new : Accounted {} where
  held_le := Nat.le_refl 0
  not_aborted := by simp
  consistent := Barrier.consistent_new
  armed := Barrier.armed_new
  pending_eq := rfl
  idle_iff := by simp

/-! ### One step -/

theorem handOut_eq {s : BarrierSession} {b : Barrier} {n : UInt64}
    (h : n.toNat ≤ handOutLimit) :
    s.handOut b n = (.count n, { barrier := b, held := s.held ++ List.replicate n.toNat true }) :=
  if_neg (Nat.not_lt.mpr h)

theorem heldCount_append (s : BarrierSession) (b : Barrier) (n : Nat) :
    heldCount { barrier := b, held := s.held ++ List.replicate n true } = s.heldCount + n := by
  simp only [heldCount, List.count_append, List.count_replicate_self]

theorem heldCount_handOut_le (s : BarrierSession) (b : Barrier) (n : UInt64) :
    (s.handOut b n).2.heldCount ≤ s.heldCount + n.toNat := by
  unfold handOut
  split
  · exact Nat.le_add_right _ _
  · exact Nat.le_of_eq (heldCount_append s b n.toNat)

theorem lt_of_isHeld {s : BarrierSession} {load : Nat} (h : s.isHeld load = true) :
    ∃ hlt : load < s.held.length, s.held[load] = true := by
  unfold isHeld at h
  cases hget : s.held[load]? with
  | none => simp [hget] at h
  | some b =>
      obtain ⟨hlt, hb⟩ := List.getElem?_eq_some_iff.mp hget
      refine ⟨hlt, ?_⟩
      rw [hb]
      simpa [hget] using h

theorem count_set_held {s : BarrierSession} {load : Nat} (h : s.isHeld load = true) :
    (s.held.set load false).count true + 1 = s.heldCount := by
  obtain ⟨hlt, hb⟩ := lt_of_isHeld h
  have hmem : true ∈ s.held := hb ▸ List.getElem_mem hlt
  have hpos := List.count_pos_iff.mpr hmem
  rw [List.count_set hlt, hb]
  simp only [heldCount, beq_self_eq_true, if_true]
  simp
  omega

/-- All that an event of the loads can be while nothing has failed: new loads, the end of one that
is held, or nothing. -/
theorem step_cases {s : BarrierSession} (ha : s.barrier.phase ≠ .aborted) {e : BarrierEvent}
    (he : e.byLoads = true) :
    (∃ b, s.barrier.Move (s.added e) 0 b ∧ b.phase ≠ .aborted ∧
      (b.phase = .idle ↔ s.barrier.phase = .idle ∧ s.added e = 0) ∧ s.error? e = none ∧
      (s.step e).2 = (s.handOut b (s.added e)).2) ∨
    (∃ load, s.isHeld load = true ∧ s.error? e = errorOf? (s.barrier.decrement 1).1 ∧
      (s.step e).2 = { barrier := (s.barrier.decrement 1).2, held := s.held.set load false }) ∨
    (s.error? e = none ∧ (s.step e).2 = s) := by
  cases e with
  | increment n => cases he
  | decrement n => cases he
  | register n =>
      obtain ⟨hok, hna, hi⟩ := Barrier.increment_ok ha n
      have m := Barrier.increment_move s.barrier n
      have hsplit : s.barrier.increment n =
          (.ok (s.barrier.pending + n), (s.barrier.increment n).2) := Prod.ext hok rfl
      have hadded : s.added (.register n) = n := by simp only [added, hok, granted]
      rw [hok] at m
      rw [hadded]
      refine Or.inl ⟨(s.barrier.increment n).2, m, hna, hi, ?_, ?_⟩
      · simp only [error?, hok, errorOf?]
      · rw [BarrierSession.step, hsplit]
  | claim n =>
      cases hb : s.barrier.claim? n with
      | none => exact Or.inr (Or.inr ⟨rfl, by simp only [BarrierSession.step, hb]⟩)
      | some b =>
          obtain ⟨hidle, hn, rfl⟩ := Barrier.claim?_eq_some hb
          have hadded : s.added (.claim n) = n := by simp [added, hb]
          rw [hadded]
          refine Or.inl ⟨_, .arm n hidle hn, by simp, ?_, rfl, ?_⟩
          · simp [UInt64.pos_iff_ne_zero.mp hn]
          · simp only [BarrierSession.step, hb]
  | complete load =>
      by_cases hload : s.isHeld load = true
      · refine Or.inr (Or.inl ⟨load, hload, ?_, ?_⟩)
        · simp only [error?, if_pos hload]
        · simp only [BarrierSession.step, if_pos hload]
      · refine Or.inr (Or.inr ⟨?_, ?_⟩)
        · simp only [error?, if_neg hload]
        · simp only [BarrierSession.step, if_neg hload]
  | drop load =>
      by_cases hload : s.isHeld load = true
      · refine Or.inr (Or.inl ⟨load, hload, ?_, ?_⟩)
        · simp only [error?, if_pos hload]
        · simp only [BarrierSession.step, if_pos hload, Barrier.release]
      · refine Or.inr (Or.inr ⟨?_, ?_⟩)
        · simp only [error?, if_neg hload]
        · simp only [BarrierSession.step, if_neg hload]

namespace Covered
variable {s : BarrierSession}

theorem pending_pos (hs : s.Covered) {load : Nat} (h : s.isHeld load = true) :
    1 ≤ s.barrier.pending := by
  have := count_set_held h
  have := hs.held_le
  rw [UInt64.le_iff_toNat_le, UInt64.toNat_one]
  omega

theorem handOut (hs : s.Covered) {b : Barrier} {n : UInt64} (m : s.barrier.Move n 0 b)
    (hfit : s.barrier.pending.toNat + n.toNat < 2 ^ 64) (ha : b.phase ≠ .aborted) :
    (s.handOut b n).2.Covered := by
  have hpending := m.toNat_pending_eq hfit
  have hheld := heldCount_handOut_le s b n
  have := hs.held_le
  rw [UInt64.toNat_zero] at hpending
  refine ⟨?_, ?_⟩
  · rw [handOut_barrier]
    omega
  · rwa [handOut_barrier]

theorem ending (hs : s.Covered) {load : Nat} (h : s.isHeld load = true) :
    (s.barrier.decrement 1).1 = .ok (s.barrier.pending - 1) ∧
      Covered { barrier := (s.barrier.decrement 1).2, held := s.held.set load false } := by
  have hpos := hs.pending_pos h
  obtain ⟨hok, hpending, hphase⟩ := Barrier.decrement_ok hs.not_aborted hpos
  refine ⟨hok, ?_, ?_⟩
  · have hcount := count_set_held h
    have hle := hs.held_le
    rw [hpending, UInt64.toNat_sub_of_le _ _ hpos, UInt64.toNat_one]
    simp only [heldCount] at hcount hle ⊢
    omega
  · simp only [hphase]
    split
    · simp
    · exact hs.not_aborted

/-- No operation fails. -/
theorem step (hs : s.Covered) {e : BarrierEvent} (he : e.byLoads = true)
    (hfit : s.barrier.pending.toNat + (s.added e).toNat < 2 ^ 64) :
    s.error? e = none ∧ (s.step e).2.Covered := by
  rcases step_cases hs.not_aborted he with ⟨b, m, ha, -, hnone, hstep⟩ |
    ⟨load, hload, herror, hstep⟩ | ⟨hnone, hstep⟩
  · rw [hstep]
    exact ⟨hnone, hs.handOut m hfit ha⟩
  · obtain ⟨hok, hafter⟩ := hs.ending hload
    rw [herror, hok, hstep]
    exact ⟨rfl, hafter⟩
  · rw [hstep]
    exact ⟨hnone, hs⟩

end Covered

namespace Accounted
variable {s : BarrierSession}

theorem not_idle (hs : s.Accounted) {load : Nat} (h : s.isHeld load = true) :
    s.barrier.phase ≠ .idle := by
  intro hi
  have hpos := hs.pending_pos h
  rw [hs.consistent.idle_empty hi] at hpos
  exact absurd hpos (by decide)

theorem handOut (hs : s.Accounted) {b : Barrier} {n : UInt64} (m : s.barrier.Move n 0 b)
    (hfit : s.barrier.pending.toNat + n.toNat < 2 ^ 64) (hroom : n.toNat ≤ handOutLimit)
    (ha : b.phase ≠ .aborted) (hi : b.phase = .idle ↔ s.barrier.phase = .idle ∧ n = 0) :
    (s.handOut b n).2.Accounted := by
  have hpending := m.toNat_pending_eq hfit
  rw [UInt64.toNat_zero, Nat.add_zero, hs.pending_eq] at hpending
  refine { hs.toCovered.handOut m hfit ha with
    consistent := by simpa using m.consistent hs.consistent
    armed := by simpa using m.armed hs.armed hfit
    pending_eq := by rw [handOut_eq hroom, heldCount_append, hpending]
    idle_iff := ?_ }
  rw [handOut_eq hroom, List.append_eq_nil_iff, List.replicate_eq_nil_iff, ← hs.idle_iff]
  simpa only [← UInt64.toNat_inj, UInt64.toNat_zero] using hi

theorem ending (hs : s.Accounted) {load : Nat} (h : s.isHeld load = true) :
    Accounted { barrier := (s.barrier.decrement 1).2, held := s.held.set load false } := by
  have hpos := hs.pending_pos h
  obtain ⟨hok, hpending, hphase⟩ := Barrier.decrement_ok hs.not_aborted hpos
  have m := Barrier.decrement_move s.barrier 1
  have hidle := hs.not_idle h
  have hheld : s.held ≠ [] := fun hnil => hidle (hs.idle_iff.mpr hnil)
  refine { (hs.toCovered.ending h).2 with
    consistent := m.consistent hs.consistent
    armed := m.armed hs.armed (by simpa using s.barrier.pending.toNat_lt)
    pending_eq := ?_
    idle_iff := ?_ }
  · have := count_set_held h
    rw [hpending, UInt64.toNat_sub_of_le _ _ hpos, UInt64.toNat_one, hs.pending_eq]
    simp only [heldCount] at this ⊢
    omega
  · simp only [m.not_idle hidle, List.set_eq_nil_iff, hheld]

theorem step (hs : s.Accounted) {e : BarrierEvent} (he : e.byLoads = true)
    (hfit : s.barrier.pending.toNat + (s.added e).toNat < 2 ^ 64)
    (hroom : (s.added e).toNat ≤ handOutLimit) : (s.step e).2.Accounted := by
  rcases step_cases hs.not_aborted he with ⟨b, m, ha, hi, -, hstep⟩ |
    ⟨load, hload, -, hstep⟩ | ⟨-, hstep⟩
  · rw [hstep]
    exact hs.handOut m hfit hroom ha hi
  · rw [hstep]
    exact hs.ending hload
  · rw [hstep]
    exact hs

end Accounted

/-! ### Whole histories -/

theorem HandsOut.tail {s : BarrierSession} {e : BarrierEvent} {es : List BarrierEvent}
    (h : s.HandsOut (e :: es)) : (s.step e).2.HandsOut es :=
  fun m hm => h m (List.mem_cons_of_mem (s, e) hm)

theorem run_covered {s : BarrierSession} (hs : s.Covered) {es : List BarrierEvent}
    (h : ∀ e ∈ es, e.byLoads = true) (hfits : s.Fits es) : (s.run es).Covered := by
  induction es generalizing s with
  | nil => exact hs
  | cons e es ih =>
      have hnext := (hs.step (h e (by simp)) hfits.head).2
      exact ih hnext (fun e' he' => h e' (List.mem_cons_of_mem e he')) hfits.tail

theorem run_accounted {s : BarrierSession} (hs : s.Accounted) {es : List BarrierEvent}
    (h : ∀ e ∈ es, e.byLoads = true) (hfits : s.Fits es) (hroom : s.HandsOut es) :
    (s.run es).Accounted := by
  induction es generalizing s with
  | nil => exact hs
  | cons e es ih =>
      have hnext := hs.step (h e (by simp)) hfits.head (hroom (s, e) List.mem_cons_self)
      exact ih hnext (fun e' he' => h e' (List.mem_cons_of_mem e he')) hfits.tail hroom.tail

theorem error?_eq_none {s : BarrierSession} (hs : s.Covered) {es : List BarrierEvent}
    (h : ∀ e ∈ es, e.byLoads = true) (hfits : s.Fits es) :
    ∀ m ∈ s.moments es, m.1.error? m.2 = none := by
  induction es generalizing s with
  | nil => simp [moments]
  | cons e es ih =>
      have hstep := hs.step (h e (by simp)) hfits.head
      intro m hm
      rcases List.mem_cons.mp hm with rfl | later
      · exact hstep.1
      · exact ih hstep.2 (fun e' he' => h e' (List.mem_cons_of_mem e he')) hfits.tail m later

theorem totalClaims_le_one (s : BarrierSession) (es : List BarrierEvent) :
    s.totalClaims es ≤ 1 := by
  apply countP_moments_le_one fun s => s.barrier.phase ≠ .idle
  · exact fun s e hs => (s.step_move e).not_idle hs
  · intro s e hc
    cases e with
    | claim n =>
        obtain ⟨b, hb⟩ := Option.isSome_iff_exists.mp hc
        obtain ⟨hidle, -, rfl⟩ := Barrier.claim?_eq_some hb
        refine ⟨fun hused => hused hidle, ?_⟩
        simp only [step, hb, handOut_barrier]
        simp
    | increment n => cases hc
    | decrement n => cases hc
    | register n => cases hc
    | complete load => cases hc
    | drop load => cases hc

/-- A state in which loads were handed out and all of them have ended is complete. -/
theorem Accounted.complete {s : BarrierSession} (hs : s.Accounted) (hheld : s.held ≠ [])
    (hzero : s.heldCount = 0) : s.barrier.phase = .complete := by
  cases hp : s.barrier.phase with
  | idle => exact absurd (hs.idle_iff.mp hp) hheld
  | loading =>
      have hpos := UInt64.lt_iff_toNat_lt.mp (hs.armed hp)
      rw [hs.pending_eq, hzero] at hpos
      exact absurd hpos (Nat.lt_irrefl 0)
  | complete => rfl
  | aborted => exact absurd hp hs.not_aborted

theorem exists_all_ended {s : BarrierSession} (hs : s.Accounted) {es : List BarrierEvent}
    (h : ∀ e ∈ es, e.byLoads = true) (hfits : s.Fits es) (hroom : s.HandsOut es)
    (hbefore : s.barrier.phase ≠ .complete) (hafter : (s.run es).barrier.phase = .complete) :
    ∃ fs gs, es = fs ++ gs ∧ (s.run fs).held ≠ [] ∧ (s.run fs).heldCount = 0 := by
  induction es generalizing s with
  | nil => exact absurd hafter hbefore
  | cons e es ih =>
      have hs' := hs.step (h e (by simp)) hfits.head (hroom (s, e) List.mem_cons_self)
      by_cases hp : (s.step e).2.barrier.phase = .complete
      · obtain ⟨-, -, hzero⟩ := (s.step_move e).of_completes hbefore hp
        refine ⟨[e], es, rfl, fun hnil => ?_, ?_⟩
        · have hidle := hs'.idle_iff.mpr hnil
          rw [hp] at hidle
          cases hidle
        · exact hs'.pending_eq.symm.trans (by rw [hzero]; rfl)
      · obtain ⟨fs, gs, rfl, hheld, hzero⟩ := ih hs'
          (fun e' he' => h e' (List.mem_cons_of_mem e he')) hfits.tail hroom.tail hp hafter
        exact ⟨e :: fs, gs, rfl, hheld, hzero⟩

/-- The laws of a barrier whose count moves only with the loads it hands out. Nothing fails as
long as the count does not wrap around; and if every registration can be handed out, the count is
the number of loads held, and the barrier is complete from the moment on at which all have ended. -/
theorem held_loads_laws (es : List BarrierEvent) (h : ∀ e ∈ es, e.byLoads = true) :
    let s := BarrierSession.run {} es
    (Fits {} es → s.barrier.phase ≠ .aborted ∧
      ∀ m ∈ moments {} es, m.1.error? m.2 = none ∧ ∀ err, (m.1.step m.2).1 ≠ .failed err) ∧
    (Fits {} es → HandsOut {} es → s.barrier.pending.toNat = s.heldCount ∧
      (s.barrier.phase = .complete ↔ ∃ fs gs, es = fs ++ gs ∧
        (BarrierSession.run {} fs).held ≠ [] ∧ (BarrierSession.run {} fs).heldCount = 0)) ∧
    totalClaims {} es ≤ 1 := by
  intro s
  refine ⟨fun hfits => ?_, fun hfits hroom => ?_, totalClaims_le_one {} es⟩
  · have hnone := error?_eq_none accounted_new.toCovered h hfits
    refine ⟨(run_covered accounted_new.toCovered h hfits).not_aborted, fun m hm =>
      ⟨hnone m hm, fun err hfailed => ?_⟩⟩
    have := error?_of_failed hfailed
    rw [hnone m hm] at this
    cases this
  · have hs : s.Accounted := run_accounted accounted_new h hfits hroom
    refine ⟨hs.pending_eq, exists_all_ended accounted_new h hfits hroom (by simp), ?_⟩
    rintro ⟨fs, gs, rfl, hheld, hzero⟩
    have hearly : ∀ m ∈ moments {} fs, m ∈ moments {} (fs ++ gs) := fun m hm => by
      rw [moments_append]
      exact List.mem_append_left _ hm
    have hfs := run_accounted accounted_new (fun e he => h e (List.mem_append_left gs he))
      (fun m hm => hfits m (hearly m hm)) (fun m hm => hroom m (hearly m hm))
    have hcomplete := hfs.complete hheld hzero
    have hrank := rank_le_run (BarrierSession.run {} fs) gs
    rw [← run_append, hcomplete] at hrank
    exact LoadPhase.eq_complete hrank hs.not_aborted

/-- Two loads end in different ways, a claim comes too late, and a load registered after
completion is counted without arming the barrier again. -/
theorem held_loads_late_register :
    let es : List BarrierEvent :=
      [.register 0, .claim 2, .drop 1, .complete 0, .claim 1, .register 1, .drop 1]
    (∀ e ∈ es, e.byLoads = true) ∧ (BarrierSession.run {} es).barrier.pending.toNat = 1 ∧
      (BarrierSession.run {} es).barrier.phase = .complete ∧ totalClaims {} es ≤ 1 := by
  intro es
  have hloads : ∀ e ∈ es, e.byLoads = true := by decide
  obtain ⟨-, hexact, hclaims⟩ := held_loads_laws es hloads
  obtain ⟨hpending, hcomplete⟩ := hexact (by decide) (by decide)
  refine ⟨hloads, hpending.trans (by decide), hcomplete.mpr ?_, hclaims⟩
  exact ⟨es.take 4, es.drop 4, by decide, by decide, by decide⟩

/-- More loads than can be handed out are on the count when the call unwinds, and nobody holds
one. -/
theorem held_loads_without_room :
    let es : List BarrierEvent := [.register 0x1000000000000000]
    let s := BarrierSession.run {} es
    (∀ e ∈ es, e.byLoads = true) ∧ ¬ s.barrier.pending.toNat = s.heldCount := by
  decide +kernel

end BarrierSession
end Shortlist
