import Mathlib.Data.Set.Basic
import Shortlist.Entity.Access
import Shortlist.Proofs.Entity.Promotion
/-! What an access to a store reads, and what it leaves where. A store is what its cells hold, and
two stores that agree on the cells that an access reads are told and get the same by it. -/
namespace Shortlist

/-- A property, a feature of a namespace, or the namespace itself, which is there as soon as
somebody has added to it. -/
inductive Cell where
  | property (key : String)
  | feature (namespaceName key : String)
  | space (namespaceName : String)

namespace Store

def cell (s : Store) : Cell → Option Value
  | .property key => s.properties[key]?
  | .feature name key => (s.cached name)[key]?
  | .space name => s.cache[name]?.map fun _ => .null

def SameScores (s t : Store) : Prop := t.score = s.score ∧ t.algoScores = s.algoScores

end Store

namespace StoreOp

def reads : StoreOp → Set Cell
  | .get key | .contains key => {.property key}
  | .snapshot => Set.range .property
  | .duplicate => Set.univ
  | .cached name | .promote name => Set.range (.feature name)
  | .namespaces => Set.range .space
  | .promoteMany names => {c | ∃ name ∈ names, ∃ key, c = .feature name key}
  | .set .. | .setMany _ | .delete _ | .deleteMany _ | .addCached .. => ∅

/-- What an access leaves in a cell, if it writes to it. To add to a namespace is to create it. -/
def effect (s : Store) : StoreOp → Cell → Option (Option Value)
  | .set key v, .property other => if key = other then some (some v) else none
  | .setMany entries, .property key => entries[key]?.map some
  | .delete key, .property other => if key = other then some none else none
  | .deleteMany keys, .property key => if key ∈ keys then some none else none
  | .addCached name features, .feature other key =>
    if name = other then features[key]?.map some else none
  | .addCached name _, .space other => if name = other then some (some .null) else none
  | .promote name, .property key => (s.cached name)[key]?.map some
  | .promoteMany names, .property key => (s.offered key names).map some
  | _, _ => none

def writes (s : Store) (op : StoreOp) : Set Cell := {c | (op.effect s c).isSome = true}

end StoreOp

/-! ### Stores and their cells -/

namespace Store
variable {s t : Store} {name key : String}

theorem cache_addCached (s : Store) (name : String) (features : Properties) (other : String) :
    (s.addCached name features).cache[other]? =
      if name = other then some ((s.cached name).overlay features) else s.cache[other]? := by
  simp only [addCached, Std.ExtTreeMap.getElem?_insert, Std.LawfulEqCmp.compare_eq_iff_eq]

theorem cached_addCached (s : Store) (name : String) (features : Properties) (other : String) :
    (s.addCached name features).cached other =
      if name = other then (s.cached name).overlay features else s.cached other := by
  rw [cached, cache_addCached]
  split <;> rfl

theorem getElem?_deleteMany (s : Store) (keys : List String) (key : String) :
    (s.deleteMany keys).properties[key]? = if key ∈ keys then none else s.properties[key]? := by
  induction keys generalizing s with
  | nil => rfl
  | cons other keys ih =>
      have hrest := ih (s.delete other)
      simp only [deleteMany, List.foldl_cons, delete, Std.ExtTreeMap.getElem?_erase,
        Std.LawfulEqCmp.compare_eq_iff_eq] at hrest ⊢
      rw [hrest]
      by_cases hkeys : key ∈ keys
      · simp [hkeys]
      · by_cases hkey : other = key
        · simp [hkey]
        · simp [hkeys, hkey, Ne.symm hkey]

theorem deleteMany_frame (s : Store) (keys : List String) :
    s.deleteMany keys = { s with properties := (s.deleteMany keys).properties } := by
  induction keys generalizing s with
  | nil => rfl
  | cons key keys ih => exact ih (s.delete key)

theorem cached_congr (h : ∀ key, t.cell (.feature name key) = s.cell (.feature name key)) :
    t.cached name = s.cached name :=
  Std.ExtTreeMap.ext_getElem? h

theorem properties_congr (h : ∀ key, t.cell (.property key) = s.cell (.property key)) :
    t.properties = s.properties :=
  Std.ExtTreeMap.ext_getElem? h

theorem cache_congr (hspace : ∀ name, t.cell (.space name) = s.cell (.space name))
    (hfeature : ∀ name key, t.cell (.feature name key) = s.cell (.feature name key)) :
    t.cache = s.cache := by
  apply Std.ExtTreeMap.ext_getElem?
  intro name
  have hthere := hspace name
  have hsame := cached_congr (hfeature name)
  simp only [cell, cached] at hthere hsame
  cases ht : t.cache[name]? with
  | none =>
      rw [ht] at hthere
      cases hs : s.cache[name]? with
      | none => rfl
      | some features => simp [hs] at hthere
  | some features =>
      rw [ht] at hthere hsame
      cases hs : s.cache[name]? with
      | none => simp [hs] at hthere
      | some more => rw [hs] at hsame; exact congrArg some hsame

theorem ext_cell (h : ∀ c, t.cell c = s.cell c) (hscores : s.SameScores t) : t = s := by
  have hproperties := properties_congr fun key => h (.property key)
  have hcache := cache_congr (fun name => h (.space name)) fun name key => h (.feature name key)
  obtain ⟨hscore, halgo⟩ := hscores
  cases s
  cases t
  cases hproperties
  cases hcache
  cases hscore
  cases halgo
  rfl

theorem keys_congr (h : ∀ name, t.cell (.space name) = s.cell (.space name)) :
    t.cache.keys = s.cache.keys := by
  have hmaps : t.cache.map (fun _ _ => ()) = s.cache.map (fun _ _ => ()) := by
    apply Std.ExtTreeMap.ext_getElem?
    intro name
    have hname := h name
    simp only [cell, Std.ExtTreeMap.getElem?_map] at hname ⊢
    cases ht : t.cache[name]? <;> cases hs : s.cache[name]? <;> simp [ht, hs] at hname ⊢
  have hkeys := congrArg Std.ExtTreeMap.keys hmaps
  simpa using hkeys

end Store

/-! ### One access -/

namespace StoreOp
variable {s t : Store}

/-- After an access a cell holds what the access left there, or else what it held before. -/
theorem cell_perform (s : Store) (op : StoreOp) (c : Cell) :
    (op.perform s).2.cell c = (op.effect s c).getD (s.cell c) := by
  cases op with
  | get key => rfl
  | contains key => rfl
  | snapshot => rfl
  | duplicate => rfl
  | cached name => rfl
  | namespaces => rfl
  | set key v =>
      cases c with
      | property other =>
          simp only [perform, Store.set, Store.cell, effect, Std.ExtTreeMap.getElem?_insert,
            Std.LawfulEqCmp.compare_eq_iff_eq]
          split <;> rfl
      | feature other key => rfl
      | space other => rfl
  | setMany entries =>
      cases c with
      | property key =>
          simp only [perform, Store.setMany, Store.cell, effect, Properties.getElem?_overlay]
          cases entries[key]? <;> rfl
      | feature other key => rfl
      | space other => rfl
  | delete key =>
      cases c with
      | property other =>
          simp only [perform, Store.delete, Store.cell, effect, Std.ExtTreeMap.getElem?_erase,
            Std.LawfulEqCmp.compare_eq_iff_eq]
          split <;> rfl
      | feature other key => rfl
      | space other => rfl
  | deleteMany keys =>
      simp only [perform]
      cases c with
      | property key =>
          simp only [Store.cell, effect, Store.getElem?_deleteMany]
          split <;> rfl
      | feature other key => rw [Store.deleteMany_frame]; rfl
      | space other => rw [Store.deleteMany_frame]; rfl
  | addCached name features =>
      cases c with
      | property key => rfl
      | feature other key =>
          simp only [perform, Store.cell, effect, Store.cached_addCached]
          by_cases hname : name = other
          · subst hname
            simp only [if_true, Properties.getElem?_overlay]
            cases features[key]? <;> rfl
          · simp only [if_neg hname]
            rfl
      | space other =>
          simp only [perform, Store.cell, effect, Store.cache_addCached]
          split <;> rfl
  | promote name =>
      simp only [perform]
      cases c with
      | property key =>
          simp only [Store.cell, effect, Store.getElem?_promote]
          cases (s.cached name)[key]? <;> rfl
      | feature other key => rw [Store.promote_eq]; rfl
      | space other => rw [Store.promote_eq]; rfl
  | promoteMany names =>
      simp only [perform]
      cases c with
      | property key =>
          simp only [Store.cell, effect, Store.getElem?_promoteMany]
          cases s.offered key names <;> rfl
      | feature other key => rw [Store.promoteMany_frame]; rfl
      | space other => rw [Store.promoteMany_frame]; rfl

theorem sameScores_perform (s : Store) (op : StoreOp) : s.SameScores (op.perform s).2 := by
  cases op with
  | deleteMany keys => simp only [perform]; rw [Store.deleteMany_frame]; exact ⟨rfl, rfl⟩
  | promote name => simp only [perform]; rw [Store.promote_eq]; exact ⟨rfl, rfl⟩
  | promoteMany names => simp only [perform]; rw [Store.promoteMany_frame]; exact ⟨rfl, rfl⟩
  | _ => exact ⟨rfl, rfl⟩

theorem cell_perform_of_mem {op : StoreOp} {c : Cell} (h : c ∈ op.writes s) :
    ∃ v, op.effect s c = some v ∧ (op.perform s).2.cell c = v := by
  obtain ⟨v, hv⟩ := Option.isSome_iff_exists.mp h
  exact ⟨v, hv, by rw [cell_perform, hv]; rfl⟩

theorem cell_perform_of_not_mem {op : StoreOp} {c : Cell} (h : c ∉ op.writes s) :
    (op.perform s).2.cell c = s.cell c := by
  have hnone : op.effect s c = none := by simpa [writes] using h
  rw [cell_perform, hnone]
  rfl

/-- Nobody takes a namespace away. -/
theorem cell_perform_space {op : StoreOp} {name : String} (h : .space name ∈ op.writes s) :
    (op.perform s).2.cell (.space name) = some .null := by
  obtain ⟨v, hv, hcell⟩ := cell_perform_of_mem h
  rw [hcell]
  cases op with
  | addCached other features =>
      simp only [effect] at hv
      split at hv
      · exact (Option.some.inj hv).symm
      · cases hv
  | _ => cases hv

theorem offered_congr {key : String} {names : List String}
    (h : ∀ name ∈ names, t.cached name = s.cached name) :
    t.offered key names = s.offered key names := by
  induction names with
  | nil => rfl
  | cons name names ih =>
      obtain ⟨hname, hnames⟩ := List.forall_mem_cons.mp h
      simp only [Store.offered, ih hnames, hname]

theorem effect_congr {op : StoreOp} (h : ∀ c ∈ op.reads, t.cell c = s.cell c) :
    op.effect t = op.effect s := by
  cases op with
  | promote name =>
      have hsame := Store.cached_congr fun key => h _ ⟨key, rfl⟩
      funext c
      cases c <;> simp only [effect, hsame]
  | promoteMany names =>
      have hsame : ∀ name ∈ names, t.cached name = s.cached name := fun name hname =>
        Store.cached_congr fun key => h _ ⟨name, hname, key, rfl⟩
      funext c
      cases c <;> simp only [effect, offered_congr hsame]
  | _ =>
      -- what the other accesses leave does not depend on the store
      funext c
      cases c <;> rfl

theorem writes_congr {op : StoreOp} (h : ∀ c ∈ op.reads, t.cell c = s.cell c) :
    op.writes t = op.writes s := by
  simp only [writes, effect_congr h]

theorem mem_writes_addCached {name : String} {features : Properties} {c : Cell}
    (h : c ∈ (StoreOp.addCached name features).writes s) :
    c = .space name ∨ ∃ key, c = .feature name key := by
  obtain ⟨v, hv⟩ := Option.isSome_iff_exists.mp h
  cases c with
  | property key => cases hv
  | feature other key =>
      simp only [effect] at hv
      split at hv
      · next hname => exact Or.inr ⟨key, by rw [hname]⟩
      · cases hv
  | space other =>
      simp only [effect] at hv
      split at hv
      · next hname => exact Or.inl (by rw [hname])
      · cases hv

theorem answer_congr {op : StoreOp} (h : ∀ c ∈ op.reads, t.cell c = s.cell c)
    (hscores : s.SameScores t) : (op.perform t).1 = (op.perform s).1 := by
  cases op with
  | get key => exact h _ rfl
  | contains key =>
      have hkey : t.properties[key]? = s.properties[key]? := h _ rfl
      have hsome := congrArg Option.isSome hkey
      rwa [Std.ExtTreeMap.isSome_getElem?_eq_contains,
        Std.ExtTreeMap.isSome_getElem?_eq_contains] at hsome
  | snapshot => exact Store.properties_congr fun key => h _ ⟨key, rfl⟩
  | duplicate => exact Store.ext_cell (fun c => h c trivial) hscores
  | cached name => exact Store.cached_congr fun key => h _ ⟨key, rfl⟩
  | namespaces => exact Store.keys_congr fun name => h _ ⟨name, rfl⟩
  | promote name =>
      have hsame := Store.cached_congr fun key => h _ ⟨key, rfl⟩
      change (t.promote name).1 = (s.promote name).1
      rw [Store.promote_eq, Store.promote_eq, hsame]
  | promoteMany names =>
      have hsame : ∀ name ∈ names, t.cached name = s.cached name := fun name hname =>
        Store.cached_congr fun key => h _ ⟨name, hname, key, rfl⟩
      change (t.promoteMany names).1 = (s.promoteMany names).1
      rw [Store.promoteMany_fst, Store.promoteMany_fst]
      exact congrArg List.sum (List.map_congr_left fun name hname => by rw [hsame name hname])
  | _ => rfl

/-- Stores that agree on what an access reads agree afterwards on what it writes. -/
theorem cell_perform_congr {op : StoreOp} (h : ∀ c ∈ op.reads, t.cell c = s.cell c) {c : Cell}
    (hc : c ∈ op.writes s) : (op.perform t).2.cell c = (op.perform s).2.cell c := by
  obtain ⟨v, hv, hcell⟩ := cell_perform_of_mem hc
  rw [hcell, cell_perform, effect_congr h, hv]
  rfl

end StoreOp
end Shortlist
