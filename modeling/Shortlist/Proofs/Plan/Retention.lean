import Mathlib.Logic.Function.Basic
import Shortlist.Proofs.Plan.Admission
/-! Filtering shared candidates in place. A list names candidates by their places and may name one
several times, and each look at a candidate exports its features. As a second export changes
nothing, what is kept does not depend on what has been looked at before. -/
namespace Shortlist

/-- A user and the candidates, each in one place however many lists name it. -/
structure Pool where
  user : User
  items : Nat → Item

namespace Plan

/-- Decides on one candidate, and leaves it with its features exported. -/
def judgeAt (p : Plan) (c : Pool) (place : Nat) : Bool × Pool :=
  let (kept, i) := p.judge c.user (c.items place)
  (kept, { c with items := Function.update c.items place i })

/-- Decides on the candidates of a list in turn, and lists those that are kept. -/
def retainAt (p : Plan) : Pool → List Nat → List Nat × Pool
  | c, [] => ([], c)
  | c, place :: places =>
    let (kept, c) := p.judgeAt c place
    let (rest, c) := p.retainAt c places
    (if kept then place :: rest else rest, c)

end Plan

/-- An export touches the properties alone. -/
theorem Item.exported_eq (i : Item) :
    i.exported = { i with store := { i.store with properties := i.features } } := by
  obtain ⟨id, type?, source?, store, barrier⟩ := i
  cases source? <;> rfl

/-- A second look finds nothing left to do. -/
theorem Plan.judge_judge (p : Plan) (u : User) (i : Item) :
    (p.judge u (p.judge u i).2).2 = (p.judge u i).2 := by
  simp only [judge_snd]
  split
  · rfl
  · exact i.exported_exported

namespace Pool

/-- What looking at some of the candidates does. Unless the plan is empty, the properties of each
become its feature export. Everything else stays. -/
structure Exports (p : Plan) (places : List Nat) (c after : Pool) : Prop where
  user : after.user = c.user
  items : ∀ place, after.items place =
    if p.isEmpty = false ∧ place ∈ places then
      { c.items place with
        store := { (c.items place).store with properties := (c.items place).features } }
    else c.items place

variable {p : Plan} {place : Nat} {places : List Nat} {c d e : Pool}

/-- Each candidate is left as the plan leaves it when it is looked at once. -/
theorem exports_iff : Exports p places c d ↔ d.user = c.user ∧ ∀ place, d.items place =
    if place ∈ places then (p.judge c.user (c.items place)).2 else c.items place := by
  have same (place : Nat) :
      (if p.isEmpty = false ∧ place ∈ places then
        { c.items place with
          store := { (c.items place).store with properties := (c.items place).features } }
      else c.items place) =
        if place ∈ places then (p.judge c.user (c.items place)).2 else c.items place := by
    rw [Plan.judge_snd, ← Item.exported_eq]
    cases p.isEmpty with
    | true => simp
    | false => simp
  constructor
  · exact fun h => ⟨h.user, fun place => (h.items place).trans (same place)⟩
  · exact fun h => ⟨h.1, fun place => (h.2 place).trans (same place).symm⟩

theorem Exports.nil (p : Plan) (c : Pool) : Exports p [] c c :=
  exports_iff.mpr ⟨rfl, fun _ => rfl⟩

theorem Exports.cons (h : Exports p [place] c d) (t : Exports p places d e) :
    Exports p (place :: places) c e := by
  obtain ⟨huser, hitems⟩ := exports_iff.mp h
  obtain ⟨tuser, titems⟩ := exports_iff.mp t
  refine exports_iff.mpr ⟨tuser.trans huser, fun q => ?_⟩
  rw [titems, hitems, huser]
  by_cases hq : q = place
  · subst hq
    simp only [List.mem_cons, true_or, if_true, Plan.judge_judge, ite_self]
  · simp [hq]

theorem Exports.features (h : Exports p places c d) (q : Nat) :
    (d.items q).features = (c.items q).features := by
  rw [(exports_iff.mp h).2 q]
  split
  · exact Plan.judge_features p c.user (c.items q)
  · rfl

/-- Decisions are the same before and after. -/
theorem Exports.judgeAt_fst (h : Exports p places c d) (q : Nat) :
    (p.judgeAt d q).1 = (p.judgeAt c q).1 := by
  rw [Bool.eq_iff_iff]
  simp only [Plan.judgeAt, Plan.judge_fst, h.user, h.features]

/-- What has been looked at is not changed by another look. -/
theorem Exports.again (h : Exports p places c d) {kept : List Nat} (hkept : kept ⊆ places)
    (t : Exports p kept d e) : e = d := by
  obtain ⟨huser, hitems⟩ := exports_iff.mp h
  obtain ⟨tuser, titems⟩ := exports_iff.mp t
  have same : e.items = d.items := by
    funext q
    rw [titems]
    split
    · next hq => rw [hitems, if_pos (hkept hq), huser, Plan.judge_judge]
    · rfl
  obtain ⟨user, items⟩ := e
  obtain rfl : user = d.user := tuser
  obtain rfl : items = d.items := same
  rfl

end Pool

/-! ### One candidate, then a list of them -/

namespace Plan
open Pool

theorem judgeAt_exports (p : Plan) (c : Pool) (place : Nat) :
    Exports p [place] c (p.judgeAt c place).2 := by
  refine exports_iff.mpr ⟨rfl, fun q => ?_⟩
  by_cases hq : q = place
  · subst hq
    simp [judgeAt]
  · simp [judgeAt, hq]

theorem judgeAt_iff (p : Plan) (c : Pool) (place : Nat) : (p.judgeAt c place).1 = true ↔
    p.evaluate ⟨c.user.properties, (c.items place).features⟩ = .ok true := by
  rw [evaluate_eq_true]
  exact judge_fst p c.user (c.items place)

theorem retainAt_exports (p : Plan) (c : Pool) (places : List Nat) :
    Exports p places c (p.retainAt c places).2 := by
  induction places generalizing c with
  | nil => exact .nil p c
  | cons place places ih => exact (p.judgeAt_exports c place).cons (ih _)

/-- The decisions on the later candidates are those that would have been made at the start. -/
theorem retainAt_fst (p : Plan) (c : Pool) (places : List Nat) :
    (p.retainAt c places).1 = places.filter fun place => (p.judgeAt c place).1 := by
  induction places generalizing c with
  | nil => rfl
  | cons place places ih =>
      -- The rest is decided on candidates one of which has been exported by then.
      have later : (p.retainAt (p.judgeAt c place).2 places).1 =
          places.filter fun q => (p.judgeAt c q).1 := by
        rw [ih]
        exact List.filter_congr fun q _ => (p.judgeAt_exports c place).judgeAt_fst q
      rw [List.filter_cons, ← later]
      rfl

/-- The run on what is kept keeps all of it and finds nothing to export. -/
theorem retainAt_again (p : Plan) (c : Pool) (places : List Nat) :
    p.retainAt (p.retainAt c places).2 (p.retainAt c places).1 = p.retainAt c places := by
  have hrun := p.retainAt_exports c places
  have hkept := p.retainAt_fst c places
  generalize p.retainAt c places = run at hrun hkept
  apply Prod.ext
  · calc (p.retainAt run.2 run.1).1
        = run.1.filter fun place => (p.judgeAt run.2 place).1 := p.retainAt_fst run.2 run.1
      _ = run.1.filter fun place => (p.judgeAt c place).1 :=
          List.filter_congr fun place _ => hrun.judgeAt_fst place
      _ = run.1 := by rw [hkept, List.filter_filter]; simp only [Bool.and_self]
  · have hsub : run.1 ⊆ places := hkept ▸ List.filter_subset_self _
    exact hrun.again hsub (p.retainAt_exports run.2 run.1)

/-- Candidates that are copied out, filtered as a batch and left as they come are the same. -/
theorem retain_eq (p : Plan) (c : Pool) (places : List Nat) :
    p.retain c.user (places.map c.items) =
      ((p.retainAt c places).1.map (p.retainAt c places).2.items,
        places.map (p.retainAt c places).2.items) := by
  have left : ∀ place ∈ places,
      (p.judge c.user (c.items place)).2 = (p.retainAt c places).2.items place := by
    intro place hplace
    rw [(exports_iff.mp (p.retainAt_exports c places)).2, if_pos hplace]
  apply Prod.ext
  · simp only [retain, retainAt_fst, List.map_map, List.filter_map]
    exact List.map_congr_left fun place hplace => left place (List.mem_of_mem_filter hplace)
  · simp only [retain, List.map_map]
    exact List.map_congr_left left

/-- Filtering keeps, in order, the candidates that are admitted one by one, which are those that
the plan passes on the user's properties and their feature exports. It leaves the user alone and
each candidate with its features exported, no matter how often it is listed. What is kept can be
filtered again without effect. -/
theorem retainAt_admitted (p : Plan) (c : Pool) (places : List Nat) :
    let run := p.retainAt c places
    run.1 = places.filter (fun place => (p.judgeAt c place).1) ∧
    (∀ place, (p.judgeAt c place).1 = true ↔
      p.evaluate ⟨c.user.properties, (c.items place).features⟩ = .ok true) ∧
    (∀ place, Exports p [place] c (p.judgeAt c place).2) ∧ Exports p places c run.2 ∧
    p.retainAt run.2 run.1 = run ∧
    p.retain c.user (places.map c.items) = (run.1.map run.2.items, places.map run.2.items) ∧
    p.retain c.user (run.1.map run.2.items) = (run.1.map run.2.items, run.1.map run.2.items) := by
  intro run
  have hrun : Exports p places c run.2 := p.retainAt_exports c places
  have hagain : p.retainAt run.2 run.1 = run := p.retainAt_again c places
  refine ⟨p.retainAt_fst c places, p.judgeAt_iff c, p.judgeAt_exports c, hrun, hagain,
    p.retain_eq c places, ?_⟩
  have hbatch := p.retain_eq run.2 run.1
  rwa [hagain, hrun.user] at hbatch

end Plan
end Shortlist
