import Shortlist.Json.Tree
import Shortlist.Proofs.Value.Entries
/-! Generic trees and values part by part. -/
namespace Shortlist

namespace Json

/-- What holds of a tree as soon as it holds of its parts holds of all. -/
theorem induction_parts {P : Json → Prop} (null : P .null) (bool : ∀ b, P (.bool b))
    (int : ∀ n, P (.int n)) (float : ∀ x, P (.float x)) (string : ∀ s, P (.string s))
    (array : ∀ items, (∀ j ∈ items, P j) → P (.array items))
    (object : ∀ entries, (∀ e ∈ entries, P e.2) → P (.object entries)) : ∀ j, P j
  | .null => null
  | .bool b => bool b
  | .int n => int n
  | .float x => float x
  | .string s => string s
  | .array items =>
      array items fun j _ => induction_parts null bool int float string array object j
  | .object entries =>
      object entries fun (k, j) he => by
        have smaller : sizeOf j < sizeOf entries := by
          have := List.sizeOf_lt_of_mem he
          simp only [Prod.mk.sizeOf_spec] at this
          omega
        exact induction_parts null bool int float string array object j

theorem lastEntries_eq (es : List (String × Json)) :
    lastEntries es = (Std.ExtTreeMap.ofList es : Std.ExtTreeMap String Json).toList := by
  rw [Std.ExtTreeMap.ofList_eq_foldl]
  rfl

end Json

namespace Value

theorem toJsonItems_eq (vs : List Value) : toJsonItems vs = vs.map toJson :=
  eq_map_of_cons rfl (fun _ _ => rfl) vs

theorem toJsonEntries_eq (es : List (String × Value)) :
    toJsonEntries es = es.map fun e => (e.1, e.2.toJson) :=
  eq_map_of_cons rfl (fun _ _ => rfl) es

theorem ofJsonItems_eq (js : List Json) : ofJsonItems js = js.map ofJson :=
  eq_map_of_cons rfl (fun _ _ => rfl) js

theorem ofJsonEntries_eq (es : List (String × Json)) :
    ofJsonEntries es = es.map fun e => (e.1, ofJson e.2) :=
  eq_map_of_cons rfl (fun _ _ => rfl) es

/-- The values in an object may be made before duplicate keys are dropped or after. -/
theorem ofEntries_ofJsonEntries_lastEntries (es : List (String × Json)) :
    ofEntries (ofJsonEntries (Json.lastEntries es)) = ofEntries (ofJsonEntries es) := by
  simp only [ofEntries_eq, ofJsonEntries_eq, Json.lastEntries_eq, ofList_map, ofList_toList]

end Value
end Shortlist
