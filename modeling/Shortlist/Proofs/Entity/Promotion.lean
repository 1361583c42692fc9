import Mathlib.Algebra.GroupWithZero.Nat
import Shortlist.Entity.Store
/-! Promotion as an overlay. Of the listed namespaces the last one that has a key decides its
value, however often and in whatever company it is listed, and promoting again changes nothing. -/
namespace Shortlist

namespace Store

/-- One namespace after another, each promoted by a call of its own, with what the calls tell. -/
def promoteEach (s : Store) : List String → List Nat × Store
  | [] => ([], s)
  | name :: names =>
    let (copied, s) := s.promote name
    let (more, s) := s.promoteEach names
    (copied :: more, s)

/-- What the listed namespaces hold under a key; a later one comes before an earlier one. -/
def offered (s : Store) (key : String) : List String → Option Value
  | [] => none
  | name :: names => (s.offered key names).or (s.cached name)[key]?

/-- What promotion does to a store. A key of some listed namespace gets the value that it has in
the last of them, any other key keeps its own, and nothing but the properties changes. -/
structure Promoted (names : List String) (before after : Store) : Prop where
  last : ∀ (earlier : List String) (name : String) (later : List String) (key : String) (v : Value),
    names = earlier ++ name :: later → (before.cached name)[key]? = some v →
    (∀ other ∈ later, key ∉ before.cached other) → after.properties[key]? = some v
  untouched : ∀ key : String, (∀ name ∈ names, key ∉ before.cached name) →
    after.properties[key]? = before.properties[key]?
  cache : after.cache = before.cache
  score : after.score = before.score
  algoScores : after.algoScores = before.algoScores

variable {s t : Store} {name key : String} {names : List String}

/-! ### One namespace -/

theorem promote_eq (s : Store) (name : String) :
    s.promote name = ((s.cached name).size, s.setMany (s.cached name)) := by
  unfold promote cached
  cases s.cache[name]? with
  | some features => rfl
  | none =>
      have hsame : s.properties.overlay ∅ = s.properties := by
        apply Std.ExtTreeMap.ext_getElem?
        intro key
        rw [Properties.getElem?_overlay]
        simp
      simp [setMany, hsame]

theorem getElem?_promote (s : Store) (name key : String) :
    (s.promote name).2.properties[key]? = (s.cached name)[key]?.or s.properties[key]? := by
  rw [promote_eq]
  exact Properties.getElem?_overlay s.properties (s.cached name) key

/-! ### A list of namespaces -/

theorem copyNamespace_eq (copied : Nat) (s : Store) (name : String) :
    copyNamespace (copied, s) name = (copied + (s.promote name).1, (s.promote name).2) := by
  simp only [copyNamespace, promote]
  cases s.cache[name]? <;> rfl

theorem foldl_copyNamespace (copied : Nat) (s : Store) (names : List String) :
    names.foldl copyNamespace (copied, s) =
      (copied + (s.promoteEach names).1.sum, (s.promoteEach names).2) := by
  induction names generalizing copied s with
  | nil => rfl
  | cons name names ih =>
      rw [List.foldl_cons, copyNamespace_eq, ih, promoteEach, List.sum_cons, Nat.add_assoc]

/-- The loop within one access comes to what a call for each namespace comes to. -/
theorem promoteMany_eq_each (s : Store) (names : List String) :
    s.promoteMany names = ((s.promoteEach names).1.sum, (s.promoteEach names).2) := by
  rw [promoteMany, foldl_copyNamespace, Nat.zero_add]

theorem promoteMany_cons (s : Store) (name : String) (names : List String) :
    s.promoteMany (name :: names) =
      ((s.promote name).1 + ((s.promote name).2.promoteMany names).1,
        ((s.promote name).2.promoteMany names).2) := by
  rw [promoteMany_eq_each, promoteMany_eq_each, promoteEach, List.sum_cons]

theorem offered_congr (h : t.cache = s.cache) (key : String) (names : List String) :
    t.offered key names = s.offered key names := by
  induction names with
  | nil => rfl
  | cons name names ih => simp only [offered, ih, cached, h]

theorem offered_append (s : Store) (key : String) (names more : List String) :
    s.offered key (names ++ more) = (s.offered key more).or (s.offered key names) := by
  induction names with
  | nil => simp [offered]
  | cons name names ih => simp only [List.cons_append, offered, ih, Option.or_assoc]

theorem offered_eq_none (h : ∀ name ∈ names, key ∉ s.cached name) : s.offered key names = none := by
  induction names with
  | nil => rfl
  | cons name names ih =>
      obtain ⟨hname, hnames⟩ := List.forall_mem_cons.mp h
      rw [offered, ih hnames, Std.ExtTreeMap.getElem?_eq_none hname]
      rfl

theorem promoteMany_frame (s : Store) (names : List String) :
    (s.promoteMany names).2 = { s with properties := (s.promoteMany names).2.properties } := by
  induction names generalizing s with
  | nil => rfl
  | cons name names ih =>
      have hrest := ih (s.promote name).2
      rw [promote_eq] at hrest
      simp only [promoteMany_cons, promote_eq]
      exact hrest

theorem getElem?_promoteMany (s : Store) (names : List String) (key : String) :
    (s.promoteMany names).2.properties[key]? = (s.offered key names).or s.properties[key]? := by
  induction names generalizing s with
  | nil => rfl
  | cons name names ih =>
      have hcache : (s.promote name).2.cache = s.cache := by rw [promote_eq]; rfl
      calc (s.promoteMany (name :: names)).2.properties[key]?
          = ((s.promote name).2.offered key names).or (s.promote name).2.properties[key]? := by
            rw [promoteMany_cons, ih (s.promote name).2]
        _ = (s.offered key names).or ((s.cached name)[key]?.or s.properties[key]?) := by
            rw [offered_congr hcache, getElem?_promote]
        _ = (s.offered key (name :: names)).or s.properties[key]? := by
            rw [offered, Option.or_assoc]

theorem promoteMany_fst (s : Store) (names : List String) :
    (s.promoteMany names).1 = (names.map fun name => (s.cached name).size).sum := by
  induction names generalizing s with
  | nil => rfl
  | cons name names ih =>
      simp only [promoteMany_cons, promote_eq, ih, List.map_cons, List.sum_cons]
      rfl

theorem promoted_promoteMany (s : Store) (names : List String) :
    Promoted names s (s.promoteMany names).2 where
  last := by
    rintro earlier name later key v rfl hv hlater
    rw [getElem?_promoteMany, offered_append, offered, offered_eq_none hlater, hv]
    rfl
  untouched := by
    intro key hkey
    rw [getElem?_promoteMany, offered_eq_none hkey]
    rfl
  cache := by rw [promoteMany_frame]
  score := by rw [promoteMany_frame]
  algoScores := by rw [promoteMany_frame]

end Store

end Shortlist
