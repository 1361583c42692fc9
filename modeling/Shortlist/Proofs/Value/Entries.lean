import Mathlib.Data.List.Sort
import Shortlist.Proofs.Basic
import Shortlist.Properties
/-! Maps written as lists of entries. Any list stands for a map, in which the last entry with a key
counts. The list in key order, with each key once, is the one form that the map itself is listed
in. -/
namespace Shortlist

variable {γ δ : Type}

def KeyOrdered (es : List (String × γ)) : Prop :=
  es.Pairwise fun a b => compare a.1 b.1 = .lt

namespace KeyOrdered

variable {es fs : List (String × γ)}

theorem map (h : KeyOrdered es) (f : γ → δ) : KeyOrdered (es.map fun e => (e.1, f e.2)) :=
  List.pairwise_map.mpr h

theorem distinct (h : KeyOrdered es) : es.Pairwise fun a b => ¬compare a.1 b.1 = .eq :=
  h.imp fun hlt heq => by
    rw [hlt] at heq
    cases heq

/-- Two lists in key order with the same entries are one list. -/
theorem eq_of_mem_iff (hes : KeyOrdered es) (hfs : KeyOrdered fs) (h : ∀ e, e ∈ es ↔ e ∈ fs) :
    es = fs := by
  have irrefl : Std.Irrefl fun a b : String × γ => compare a.1 b.1 = .lt :=
    ⟨fun a ha => by simp at ha⟩
  have antisymm : Std.Antisymm fun a b : String × γ => compare a.1 b.1 = .lt := by
    refine ⟨fun a b hab hba => ?_⟩
    rw [Std.OrientedOrd.eq_swap, hba] at hab
    cases hab
  exact List.Pairwise.eq_of_mem_iff hes hfs h

end KeyOrdered

/-! ### The map of a list -/

section
open Std.ExtTreeMap

variable {es : List (String × γ)}

theorem mem_of_mem_toList_ofList {e : String × γ}
    (h : e ∈ (ofList es : Std.ExtTreeMap String γ).toList) : e ∈ es := by
  rw [mem_toList_iff_getElem?_eq_some, ofList_eq_foldl, getElem?_foldl_insert, getElem?_empty,
    Option.or_none] at h
  exact mem_of_lookup_reverse h

theorem keyOrdered_toList (m : Std.ExtTreeMap String γ) : KeyOrdered m.toList :=
  ordered_keys_toList

theorem toList_ofList (h : KeyOrdered es) : (ofList es : Std.ExtTreeMap String γ).toList = es := by
  refine (keyOrdered_toList _).eq_of_mem_iff h fun e => ⟨mem_of_mem_toList_ofList, fun he => ?_⟩
  exact mem_toList_iff_getElem?_eq_some.mpr
    (getElem?_ofList_of_mem Std.ReflCmp.compare_self h.distinct he)

theorem ofList_toList (m : Std.ExtTreeMap String γ) : ofList m.toList = m :=
  toList_inj.mp (toList_ofList (keyOrdered_toList m))

theorem map_insert (f : γ → δ) (m : Std.ExtTreeMap String γ) (k : String) (v : γ) :
    (m.insert k v).map (fun _ => f) = (m.map fun _ => f).insert k (f v) := by
  refine ext_getElem? fun key => ?_
  simp only [getElem?_map, getElem?_insert]
  split <;> rfl

/-- What the keys stand for may be translated before the map is made or in the map. -/
theorem ofList_map (f : γ → δ) (es : List (String × γ)) :
    (ofList (es.map fun e => (e.1, f e.2)) : Std.ExtTreeMap String δ) =
      (ofList es : Std.ExtTreeMap String γ).map fun _ => f := by
  have gathered : ∀ m : Std.ExtTreeMap String γ,
      (es.map fun e => (e.1, f e.2)).foldl (fun n e => n.insert e.1 e.2) (m.map fun _ => f) =
        (es.foldl (fun n e => n.insert e.1 e.2) m).map fun _ => f := by
    induction es with
    | nil => exact fun m => rfl
    | cons e es ih =>
        intro m
        rw [List.map_cons, List.foldl_cons, List.foldl_cons, ← map_insert, ih]
  rw [ofList_eq_foldl, ofList_eq_foldl, ← gathered]
  rfl

end

/-! ### Map values -/

namespace Value

/-- A value whose maps, at every depth, list their entries in key order. -/
inductive Ordered : Value → Prop
  | null : Ordered .null
  | bool (b : Bool) : Ordered (.bool b)
  | int (n : Int64) : Ordered (.int n)
  | float (x : Float) : Ordered (.float x)
  | string (s : String) : Ordered (.string s)
  | list {items : List Value} : (∀ v ∈ items, Ordered v) → Ordered (.list items)
  | map {entries : List (String × Value)} :
      KeyOrdered entries → (∀ e ∈ entries, Ordered e.2) → Ordered (.map entries)

end Value

/-- A value as it is read and made everywhere. -/
structure OrderedValue where
  value : Value
  ordered : value.Ordered

namespace Value
variable {es fs : List (String × Value)}

theorem ofEntries_eq (es : List (String × Value)) :
    ofEntries es = .map (Std.ExtTreeMap.ofList es).toList := by
  rw [Std.ExtTreeMap.ofList_eq_foldl]
  rfl

theorem ofEntries_of_keyOrdered (h : KeyOrdered es) : ofEntries es = .map es := by
  rw [ofEntries_eq, toList_ofList h]

theorem ordered_ofEntries (h : ∀ e ∈ es, e.2.Ordered) : (ofEntries es).Ordered := by
  rw [ofEntries_eq]
  exact .map (keyOrdered_toList _) fun e he => h e (mem_of_mem_toList_ofList he)

end Value
end Shortlist
