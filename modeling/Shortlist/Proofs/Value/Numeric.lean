import Shortlist.Proofs.Number.Integers
import Shortlist.Proofs.Value.Canonical
import Shortlist.Proofs.Value.CommaParts
/-! Values as numbers. Any value that can be read as one kind of number can be read as the other,
and the text of an integer keeps the integer exactly. -/
namespace Shortlist

namespace Value

variable {v : Value} {s : String}

theorem exists_readInt?_iff :
    (∃ n, readInt? s = some n) ↔ ∃ x, Number.readFloat? (Text.trimmed s.toList) = some x := by
  simp only [readInt?]
  cases hint : Number.readInt64? (Text.trimmed s.toList) with
  | some n => exact iff_of_true ⟨n, rfl⟩ (Number.readFloat?_of_readInt64? hint)
  | none =>
      simp only [Option.map_eq_some_iff]
      constructor
      · rintro ⟨n, x, hx, -⟩
        exact ⟨x, hx⟩
      · rintro ⟨x, hx⟩
        exact ⟨_, x, hx, rfl⟩

theorem exists_toInt_iff (v : Value) : (∃ n, v.toInt = .ok n) ↔ ∃ x, v.toFloat = .ok x := by
  cases v with
  | int n => exact iff_of_true ⟨n, rfl⟩ ⟨_, rfl⟩
  | float x => exact iff_of_true ⟨_, rfl⟩ ⟨x, rfl⟩
  | null | bool | list | map => simp [toInt, toFloat]
  | string s =>
      have hint : (∃ n, toInt (.string s) = .ok n) ↔ ∃ n, readInt? s = some n := by
        rw [toInt]
        cases readInt? s <;> simp
      have hfloat : (∃ x, toFloat (.string s) = .ok x) ↔
          ∃ x, Number.readFloat? (Text.trimmed s.toList) = some x := by
        rw [toFloat]
        cases Number.readFloat? (Text.trimmed s.toList) <;> simp
      rw [hint, hfloat, exists_readInt?_iff]

/-- The text of an integer is not read by way of a decimal, which could not tell all integers
apart. -/
theorem toInt_int64Text (n : Int64) {before after : String} (hbefore : Text.Blank before)
    (hafter : Text.Blank after) :
    (Value.string (before ++ int64Text n ++ after)).toInt = .ok n := by
  have trimmed : Text.trimmed (before ++ int64Text n ++ after).toList =
      Number.intDigits n.toInt := by
    rw [String.toList_append, String.toList_append, Text.trimmed_append hbefore hafter, int64Text,
      Text.trimmed_of_tight (Number.intText_tight _), Number.intText, String.toList_ofList]
  have hread : readInt? (before ++ int64Text n ++ after) = some n := by
    simp only [readInt?, trimmed, Number.readInt64?_intDigits]
  simp only [toInt, hread]

/-- No floating-point number is this integer. By way of one it would be another. -/
example : (Value.string " 9007199254740993\n").toInt = .ok 9007199254740993 ∧
    (Number.readFloat? "9007199254740993".toList).map Number.truncate =
      some 9007199254740992 := by
  decide +kernel

/-! ### On the types of rules -/

theorem coerces_float_iff : (∃ w, v.coerce .float = .ok w) ↔ ∃ w, v.coerce .int = .ok w := by
  simp only [coerce, map_eq_ok]
  constructor
  · rintro ⟨_, x, hx, -⟩
    obtain ⟨n, hn⟩ := (exists_toInt_iff v).mpr ⟨x, hx⟩
    exact ⟨_, n, hn, rfl⟩
  · rintro ⟨_, n, hn, -⟩
    obtain ⟨x, hx⟩ := (exists_toInt_iff v).mp ⟨n, hn⟩
    exact ⟨_, x, hx, rfl⟩

/-- A value that is a number on one type is a number on the other. -/
theorem coerces_congr {ty ty' : ValueType} (hty : ty.isNumeric) (hty' : ty'.isNumeric) :
    (∃ w, v.coerce ty' = .ok w) ↔ ∃ w, v.coerce ty = .ok w := by
  cases ty with
  | int => cases ty' with
      | int => exact Iff.rfl
      | float => exact coerces_float_iff
      | string | bool | list => simp [ValueType.isNumeric] at hty'
  | float => cases ty' with
      | int => exact coerces_float_iff.symm
      | float => exact Iff.rfl
      | string | bool | list => simp [ValueType.isNumeric] at hty'
  | string | bool | list => simp [ValueType.isNumeric] at hty

end Value
end Shortlist
