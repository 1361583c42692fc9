import Shortlist.Proofs.Basic
import Shortlist.Value.Coercion
/-! Coercion is a projection. What it gives is in the one form that belongs to the type, and a
value in that form is its own coercion. -/
namespace Shortlist

/-- The form of a coerced value: the variant of the type, and in a list that of its elements. -/
inductive Canonical : ValueType → Value → Prop
  | string (s : String) : Canonical .string (.string s)
  | int (n : Int64) : Canonical .int (.int n)
  | float (x : Float) : Canonical .float (.float x)
  | bool (b : Bool) : Canonical .bool (.bool b)
  | list {e : ScalarType} {items : List Value} :
      (∀ v ∈ items, Canonical e.toValueType v) → Canonical (.list e) (.list items)

namespace Value

theorem coerceScalar_eq (e : ScalarType) (v : Value) :
    v.coerceScalar e = v.coerce e.toValueType := by
  cases e <;> rfl

theorem coerceAll_eq_ok {e : ScalarType} {vs ws : List Value} :
    coerceAll e vs = .ok ws ↔
      List.Forall₂ (fun v w => v.coerce e.toValueType = .ok w) vs ws := by
  simp only [← coerceScalar_eq]
  exact traverse_eq_ok (g := coerceAll e) rfl fun _ _ => rfl

theorem coerce_list_eq_ok {e : ScalarType} {v w : Value} :
    v.coerce (.list e) = .ok w ↔
      ∃ items ws, v.toList = .ok items ∧ coerceAll e items = .ok ws ∧ w = .list ws := by
  simp only [coerce, bind_eq_ok]
  constructor
  · rintro ⟨items, hitems, ws, hws, h⟩
    exact ⟨items, ws, hitems, hws, (Except.ok.inj h).symm⟩
  · rintro ⟨items, ws, hitems, hws, rfl⟩
    exact ⟨items, hitems, ws, hws, rfl⟩

theorem canonical_of_coerceScalar {e : ScalarType} {v w : Value}
    (h : v.coerce e.toValueType = .ok w) : Canonical e.toValueType w := by
  cases e with
  | string =>
      obtain ⟨s, -, rfl⟩ := map_eq_ok.mp h
      exact .string s
  | int =>
      obtain ⟨n, -, rfl⟩ := map_eq_ok.mp h
      exact .int n
  | float =>
      obtain ⟨x, -, rfl⟩ := map_eq_ok.mp h
      exact .float x

theorem canonical_of_coerce {ty : ValueType} {v w : Value} (h : v.coerce ty = .ok w) :
    Canonical ty w := by
  cases ty with
  | string => exact canonical_of_coerceScalar (e := .string) h
  | int => exact canonical_of_coerceScalar (e := .int) h
  | float => exact canonical_of_coerceScalar (e := .float) h
  | bool =>
      obtain ⟨b, -, rfl⟩ := map_eq_ok.mp h
      exact .bool b
  | list e =>
      obtain ⟨items, ws, -, hws, rfl⟩ := coerce_list_eq_ok.mp h
      refine .list fun w hw => ?_
      obtain ⟨v, -, hv⟩ := exists_mem_of_forall₂ (coerceAll_eq_ok.mp hws) w hw
      exact canonical_of_coerceScalar hv

theorem coerce_of_canonical {ty : ValueType} {w : Value} (h : Canonical ty w) :
    w.coerce ty = .ok w := by
  induction h with
  | string s => rfl
  | int n => rfl
  | float x => rfl
  | bool b => rfl
  | @list e items _ ih =>
      have each : List.Forall₂ (fun v w => v.coerce e.toValueType = .ok w) items items :=
        List.forall₂_same.mpr ih
      exact coerce_list_eq_ok.mpr ⟨items, items, rfl, coerceAll_eq_ok.mpr each, rfl⟩

/-- Coercion is a projection. -/
theorem coerce_coerce {ty : ValueType} {v w : Value} (h : v.coerce ty = .ok w) :
    w.coerce ty = .ok w :=
  coerce_of_canonical (canonical_of_coerce h)

end Value
end Shortlist
