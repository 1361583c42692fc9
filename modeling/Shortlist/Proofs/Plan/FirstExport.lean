import Shortlist.Proofs.Entity.Promotion
import Shortlist.Proofs.Plan.Retention
/-! The score that an item exports under the name of its recall source. It is written there by the
first export that finds nothing under this name. Exports by admission count too, and as long as
nobody else writes under the name, no later event and no later score changes it. -/
namespace Shortlist

/-- One access to an item, by whichever thread. To filter a batch is a `judge` for every place
that the item has in it. -/
inductive ItemEvent where
  | features
  | judge (p : Plan) (u : User)
  | addRecallName
  | setScore (score : Float)
  | setAlgoScore (algo : String) (score : Float)
  | addAlgoScore (algo : String) (delta : Float)
  | addCached (namespaceName : String) (features : Properties)
  | set (key : String) (v : Value)
  | setMany (entries : Properties)
  | delete (key : String)
  | deleteMany (keys : List String)
  | promote (namespaceName : String)
  | promoteMany (names : List String)

namespace Item

def onStore (i : Item) (f : Store → Store) : Item := { i with store := f i.store }

def step (i : Item) : ItemEvent → Item
  | .features => i.exported
  | .judge p u => (p.judge u i).2
  | .addRecallName => i.addRecallName
  | .setScore score => i.onStore (·.setScore score)
  | .setAlgoScore algo score => i.onStore (·.setAlgoScore algo score)
  | .addAlgoScore algo delta => i.onStore (·.addAlgoScore algo delta)
  | .addCached name features => i.onStore (·.addCached name features)
  | .set key v => i.onStore (·.set key v)
  | .setMany entries => i.onStore (·.setMany entries)
  | .delete key => i.onStore (·.delete key)
  | .deleteMany keys => i.onStore (·.deleteMany keys)
  | .promote name => i.onStore fun s => (s.promote name).2
  | .promoteMany names => i.onStore fun s => (s.promoteMany names).2

def run (i : Item) : List ItemEvent → Item
  | [] => i
  | e :: es => (i.step e).run es

/-- The export that an event returns or decides on. An empty plan admits without looking. -/
def export? (i : Item) : ItemEvent → Option Properties
  | .features => some i.features
  | .judge p _ => if p.isEmpty then none else some i.features
  | _ => none

/-- All exports of a history, in order. -/
def exports (i : Item) : List ItemEvent → List Properties
  | [] => []
  | e :: es => (i.export? e).toList ++ (i.step e).exports es

/-- Whether an event keeps from writing, deleting or promoting a key. Exports and the recall name
are written by the item itself and may well be about this key. -/
def Spares (i : Item) (key : String) : ItemEvent → Prop
  | .set other _ | .delete other => other ≠ key
  | .setMany entries => key ∉ entries
  | .deleteMany keys => key ∉ keys
  | .promote name => key ∉ i.store.cached name
  | .promoteMany names => ∀ name ∈ names, key ∉ i.store.cached name
  | .features | .judge .. | .addRecallName | .setScore _ | .setAlgoScore .. | .addAlgoScore ..
  | .addCached .. => True

def SparesAll (i : Item) (key : String) : List ItemEvent → Prop
  | [] => True
  | e :: es => i.Spares key e ∧ (i.step e).SparesAll key es

variable {i : Item} {source key : String} {v : Value} {e : ItemEvent} {es : List ItemEvent}

/-! ### Histories -/

theorem run_append (i : Item) (es fs : List ItemEvent) : i.run (es ++ fs) = (i.run es).run fs := by
  induction es generalizing i with
  | nil => rfl
  | cons e es ih => exact ih (i.step e)

theorem sparesAll_append {fs : List ItemEvent} :
    i.SparesAll key (es ++ fs) ↔ i.SparesAll key es ∧ (i.run es).SparesAll key fs := by
  induction es generalizing i with
  | nil => simp [SparesAll, run]
  | cons e es ih => simp only [List.cons_append, SparesAll, run, ih, and_assoc]

/-! ### One event -/

theorem getElem?_setAbsent (s : Store) (key other : String) (v : Value) :
    (s.setAbsent key v).properties[other]? =
      if key = other ∧ key ∉ s.properties then some v else s.properties[other]? := by
  simp only [Store.setAbsent, Properties.insertAbsent, Std.ExtTreeMap.getElem?_insertIfNew,
    Std.LawfulEqCmp.compare_eq_iff_eq]

theorem setAbsent_kept {s : Store} {other : String} {w : Value}
    (h : s.properties[key]? = some v) : (s.setAbsent other w).properties[key]? = some v := by
  rw [getElem?_setAbsent, if_neg, h]
  rintro ⟨rfl, habsent⟩
  rw [Std.ExtTreeMap.getElem?_eq_none habsent] at h
  cases h

theorem exported_kept (h : i.properties[key]? = some v) : i.features[key]? = some v := by
  unfold features exported
  split
  · exact h
  · exact setAbsent_kept h

theorem addRecallName_kept (h : i.properties[key]? = some v) :
    i.addRecallName.properties[key]? = some v := by
  unfold addRecallName
  split
  · exact h
  · exact setAbsent_kept h

/-- The export of a source that is absent is the score of the moment. -/
theorem features_absent (hsource : i.source? = some source) (h : source ∉ i.properties) :
    i.features[source]? = some (.float i.store.score) := by
  simp only [features, exported, hsource]
  exact (getElem?_setAbsent i.store source source _).trans (if_pos ⟨rfl, h⟩)

theorem features_other (h : i.source? ≠ some key) : i.features[key]? = i.properties[key]? := by
  unfold features exported
  split
  · rfl
  · next source hsource =>
      have hne : source ≠ key := fun heq => h (heq ▸ hsource)
      exact (getElem?_setAbsent i.store source key _).trans (if_neg fun hboth => hne hboth.1)

theorem step_source (i : Item) (e : ItemEvent) : (i.step e).source? = i.source? := by
  cases e with
  | features =>
      rw [step, exported_eq]
  | judge p u =>
      rw [step, Plan.judge_snd, exported_eq]
      split <;> rfl
  | addRecallName =>
      rw [step, addRecallName]
      split <;> rfl
  | setScore score => rfl
  | setAlgoScore algo score => rfl
  | addAlgoScore algo delta => rfl
  | addCached name features => rfl
  | set key v => rfl
  | setMany entries => rfl
  | delete key => rfl
  | deleteMany keys => rfl
  | promote name => rfl
  | promoteMany names => rfl

theorem getElem?_delete (s : Store) {other : String} (h : other ≠ key) :
    (s.delete other).properties[key]? = s.properties[key]? := by
  simp only [Store.delete, Std.ExtTreeMap.getElem?_erase, Std.LawfulEqCmp.compare_eq_iff_eq,
    if_neg h]

theorem getElem?_deleteMany (s : Store) {keys : List String} (h : key ∉ keys) :
    (s.deleteMany keys).properties[key]? = s.properties[key]? := by
  induction keys generalizing s with
  | nil => rfl
  | cons other keys ih =>
      have hne : other ≠ key := fun heq => h (heq ▸ List.mem_cons_self)
      have hrest := ih (s.delete other) fun hkey => h (List.mem_cons_of_mem other hkey)
      exact hrest.trans (getElem?_delete s hne)

/-- What is there under a key stays, whatever happens, if only the key is spared. -/
theorem step_kept (h : i.properties[key]? = some v) (hspares : i.Spares key e) :
    (i.step e).properties[key]? = some v := by
  cases e with
  | features => exact exported_kept h
  | judge p u =>
      rw [step, Plan.judge_snd]
      split
      · exact h
      · exact exported_kept h
  | addRecallName => exact addRecallName_kept h
  | setScore score => exact h
  | setAlgoScore algo score => exact h
  | addAlgoScore algo delta => exact h
  | addCached name features => exact h
  | set other w =>
      have hne : other ≠ key := hspares
      simp only [step, onStore, properties, Store.set, Std.ExtTreeMap.getElem?_insert,
        Std.LawfulEqCmp.compare_eq_iff_eq, if_neg hne]
      exact h
  | setMany entries =>
      have habsent : entries[key]? = none := Std.ExtTreeMap.getElem?_eq_none hspares
      refine (Properties.getElem?_overlay i.properties entries key).trans ?_
      rw [habsent]
      exact h
  | delete other => exact (getElem?_delete i.store hspares).trans h
  | deleteMany keys => exact (getElem?_deleteMany i.store hspares).trans h
  | promote name =>
      have habsent : (i.store.cached name)[key]? = none := Std.ExtTreeMap.getElem?_eq_none hspares
      refine (Store.getElem?_promote i.store name key).trans ?_
      rw [habsent]
      exact h
  | promoteMany names =>
      exact ((Store.promoted_promoteMany i.store names).untouched key hspares).trans h

theorem export?_eq_some {f : Properties} (h : i.export? e = some f) :
    f = i.features ∧ (i.step e).properties = i.features := by
  cases e with
  | features =>
      cases h
      exact ⟨rfl, rfl⟩
  | judge p u =>
      simp only [export?, Option.ite_none_left_eq_some, Option.some.injEq] at h
      obtain ⟨hempty, rfl⟩ := h
      rw [step, Plan.judge_snd, if_neg hempty]
      exact ⟨rfl, rfl⟩
  | _ => cases h

/-! ### Whole histories -/

theorem run_source (i : Item) (es : List ItemEvent) : (i.run es).source? = i.source? := by
  induction es generalizing i with
  | nil => rfl
  | cons e es ih => exact (ih (i.step e)).trans (i.step_source e)

theorem run_kept (h : i.properties[key]? = some v) (hspares : i.SparesAll key es) :
    (i.run es).properties[key]? = some v ∧ ∀ f ∈ i.exports es, f[key]? = some v := by
  induction es generalizing i with
  | nil => exact ⟨h, by simp [exports]⟩
  | cons e es ih =>
      obtain ⟨hstep, hrest⟩ := hspares
      obtain ⟨hlast, hexports⟩ := ih (step_kept h hstep) hrest
      refine ⟨hlast, List.forall_mem_append.mpr ⟨?_, hexports⟩⟩
      intro f hf
      obtain ⟨rfl, -⟩ := export?_eq_some (Option.mem_toList.mp hf)
      exact exported_kept h

/-- From the first export on, all exports show the score of that moment. -/
theorem run_first_export (hsource : i.source? = some source) (habsent : source ∉ i.properties)
    (hexport : (i.export? e).isSome = true) (hspares : (i.step e).SparesAll source es) :
    ((i.step e).run es).properties[source]? = some (.float i.store.score) ∧
      ∀ f ∈ i.exports (e :: es), f[source]? = some (.float i.store.score) := by
  have hscore := features_absent hsource habsent
  obtain ⟨f, hf⟩ := Option.isSome_iff_exists.mp hexport
  obtain ⟨rfl, hstored⟩ := export?_eq_some hf
  obtain ⟨hlast, hexports⟩ := run_kept (v := .float i.store.score) (by rw [hstored, hscore]) hspares
  refine ⟨hlast, ?_⟩
  rw [exports, hf]
  exact List.forall_mem_cons.mpr ⟨hscore, hexports⟩

/-- Filtering a batch admits an item once for each place that it has there. -/
theorem retainAt_items (p : Plan) (c : Pool) (places : List Nat) (place : Nat) :
    (p.retainAt c places).2.items place =
      (c.items place).run (List.replicate (places.count place) (.judge p c.user)) := by
  induction places generalizing c with
  | nil => rfl
  | cons q places ih =>
      refine (ih (p.judgeAt c q).2).trans ?_
      by_cases hq : q = place
      · subst hq
        rw [List.count_cons_self, List.replicate_succ, run]
        simp [Plan.judgeAt, step]
      · rw [List.count_cons_of_ne hq]
        simp [Plan.judgeAt, Ne.symm hq]

/-- For any events on an item with a recall source, in any order, none of which writes, deletes or
promotes the key of that name: if the first export finds the key absent, it and all later ones show
the score of that moment, whatever becomes of the score; what is present under the key by then, or
at any other time, is shown by all later exports and stays. An export touches nothing but this key,
a recall name that is present is never replaced, even if the source has just this name, and
filtering comes to admissions of the items one by one. -/
theorem first_export_stays (hsource : i.source? = some source) (hspares : i.SparesAll source es) :
    (∀ before e after, es = before ++ e :: after → source ∉ (i.run before).properties →
      ((i.run before).export? e).isSome = true →
      (∀ f ∈ (i.run before).exports (e :: after),
        f[source]? = some (.float (i.run before).store.score)) ∧
      ∀ soon late, after = soon ++ late →
        (i.run (before ++ e :: soon)).properties[source]? =
          some (.float (i.run before).store.score)) ∧
    (∀ before after v, es = before ++ after → (i.run before).properties[source]? = some v →
      (∀ f ∈ (i.run before).exports after, f[source]? = some v) ∧
      ∀ soon late, after = soon ++ late →
        (i.run (before ++ soon)).properties[source]? = some v) ∧
    (∀ j : Item, j.exported = { j with store := { j.store with properties := j.features } } ∧
      ∀ key, j.source? ≠ some key → j.features[key]? = j.properties[key]?) ∧
    (∀ (j : Item) (v : Value), j.properties[recallNameKey]? = some v →
      j.addRecallName.properties[recallNameKey]? = some v) ∧
    ∀ (p : Plan) (c : Pool) (places : List Nat) (place : Nat),
      (p.retainAt c places).2.items place =
        (c.items place).run (List.replicate (places.count place) (.judge p c.user)) := by
  refine ⟨?_, ?_, fun j => ⟨j.exported_eq, fun _ => features_other⟩, fun _ _ => addRecallName_kept,
    retainAt_items⟩
  · rintro before e after rfl habsent hexport
    have hsource' := (i.run_source before).trans hsource
    obtain ⟨-, -, hafter⟩ := sparesAll_append.mp hspares
    refine ⟨(run_first_export hsource' habsent hexport hafter).2, ?_⟩
    rintro soon late rfl
    rw [run_append]
    exact (run_first_export hsource' habsent hexport (sparesAll_append.mp hafter).1).1
  · rintro before after v rfl hv
    obtain ⟨-, hafter⟩ := sparesAll_append.mp hspares
    refine ⟨(run_kept hv hafter).2, ?_⟩
    rintro soon late rfl
    rw [run_append]
    exact (run_kept hv (sparesAll_append.mp hafter).1).1

/-- The source has the name that the recall name is stored under, and a plan is the first to look
for it. -/
theorem first_export_recall_name :
    let i := Item.fromRecall "i1" recallNameKey 0.5
    let plan : Plan := { itemRules := [.presence true "price" .item] }
    let es : List ItemEvent := [.setScore 0.25, .judge plan (.new "u1"), .addRecallName,
      .setScore 0.75, .set "price" (.int 3), .features]
    (i.source? = some recallNameKey ∧ i.SparesAll recallNameKey es) ∧
    (i.run es).properties[recallNameKey]? = some (.float 0.25) := by
  intro i plan es
  have hspares : i.SparesAll recallNameKey es := by
    simp [es, SparesAll, Spares, recallNameKey]
  have habsent : recallNameKey ∉ (i.run [.setScore 0.25]).properties := by
    simp [i, run, step, onStore, fromRecall, properties, Store.setScore]
  have hsource : i.source? = some recallNameKey := rfl
  obtain ⟨hfirst, -⟩ := first_export_stays hsource hspares
  obtain ⟨-, hstays⟩ := hfirst [.setScore 0.25] _ _ rfl habsent rfl
  exact ⟨⟨hsource, hspares⟩, hstays _ [] (List.append_nil _).symm⟩

end Item
end Shortlist
