import Shortlist.Proofs.Json.Tree
import Shortlist.Proofs.Number.Integers
import Shortlist.Proofs.Number.Order
/-! Values through generic trees. An integer and a number with the same reading stay apart, because
a tree keeps them apart; all that a tree has no form for is a number that is not finite. -/
namespace Shortlist

namespace Value

mutual
/-- The value with null in the place of every number that is not finite, at any depth. -/
def nullNonFinite : Value → Value
  | .float x => if x.isFinite then .float x else .null
  | .list items => .list (nullNonFiniteItems items)
  | .map entries => .map (nullNonFiniteEntries entries)
  | v => v

def nullNonFiniteItems : List Value → List Value
  | [] => []
  | v :: vs => nullNonFinite v :: nullNonFiniteItems vs

def nullNonFiniteEntries : List (String × Value) → List (String × Value)
  | [] => []
  | (k, v) :: es => (k, nullNonFinite v) :: nullNonFiniteEntries es
end

/-- A value in which every number, at any depth, is finite. -/
inductive Finite : Value → Prop
  | null : Finite .null
  | bool (b : Bool) : Finite (.bool b)
  | int (n : Int64) : Finite (.int n)
  | float {x : Float} : x.isFinite = true → Finite (.float x)
  | string (s : String) : Finite (.string s)
  | list {items : List Value} : (∀ v ∈ items, Finite v) → Finite (.list items)
  | map {entries : List (String × Value)} : (∀ e ∈ entries, Finite e.2) → Finite (.map entries)

theorem nullNonFiniteItems_eq (vs : List Value) :
    nullNonFiniteItems vs = vs.map nullNonFinite :=
  eq_map_of_cons rfl (fun _ _ => rfl) vs

theorem nullNonFiniteEntries_eq (es : List (String × Value)) :
    nullNonFiniteEntries es = es.map fun e => (e.1, e.2.nullNonFinite) :=
  eq_map_of_cons rfl (fun _ _ => rfl) es

theorem Finite.nullNonFinite_eq {v : Value} (h : v.Finite) : v.nullNonFinite = v := by
  induction h with
  | null | bool | int | string => rfl
  | float hx => rw [nullNonFinite, if_pos hx]
  | list _ ih =>
      rw [nullNonFinite, nullNonFiniteItems_eq]
      exact congrArg Value.list ((List.map_congr_left ih).trans (List.map_id _))
  | @map entries _ ih =>
      rw [nullNonFinite, nullNonFiniteEntries_eq]
      have same : ∀ e ∈ entries, (e.1, e.2.nullNonFinite) = e := fun e he =>
        Prod.ext rfl (ih e he)
      exact congrArg Value.map ((List.map_congr_left same).trans (List.map_id _))

theorem Ordered.finite_nullNonFinite {v : Value} (h : v.Ordered) : v.nullNonFinite.Finite := by
  induction h with
  | null => exact .null
  | bool b => exact .bool b
  | int n => exact .int n
  | float x =>
      rw [nullNonFinite]
      split
      · next hx => exact .float hx
      · exact .null
  | string s => exact .string s
  | list _ ih =>
      rw [nullNonFinite, nullNonFiniteItems_eq]
      refine .list fun w hw => ?_
      obtain ⟨v, hv, rfl⟩ := List.mem_map.mp hw
      exact ih v hv
  | map _ _ ih =>
      rw [nullNonFinite, nullNonFiniteEntries_eq]
      refine .map fun f hf => ?_
      obtain ⟨e, he, rfl⟩ := List.mem_map.mp hf
      exact ih e he

theorem ofInteger_toInt (n : Int64) : ofInteger n.toInt = .int n := by
  rw [ofInteger, if_pos (Number.inInt64_toInt n), Int64.ofInt_toInt]

theorem Ordered.round_trip {v : Value} (h : v.Ordered) : ofJson v.toJson = v.nullNonFinite := by
  induction h with
  | null | bool | string => rfl
  | int n => exact ofInteger_toInt n
  | float x =>
      rw [toJson, nullNonFinite, Number.isFinite_eq]
      split <;> rfl
  | @list items _ ih =>
      have each : ofJsonItems (toJsonItems items) = nullNonFiniteItems items := by
        rw [toJsonItems_eq, ofJsonItems_eq, nullNonFiniteItems_eq, List.map_map]
        exact List.map_congr_left ih
      rw [toJson, ofJson, nullNonFinite, each]
  | @map entries keys _ ih =>
      have each : ofJsonEntries (toJsonEntries entries) = nullNonFiniteEntries entries := by
        rw [toJsonEntries_eq, ofJsonEntries_eq, nullNonFiniteEntries_eq, List.map_map]
        exact List.map_congr_left fun e he => Prod.ext rfl (ih e he)
      have ordered : KeyOrdered (nullNonFiniteEntries entries) := by
        rw [nullNonFiniteEntries_eq]
        exact keys.map _
      rw [toJson, ofJson, nullNonFinite, each, ofEntries_of_keyOrdered ordered]

/-- Back from a tree, a value has null for its numbers that are not finite and is the same in all
else. A value of finite numbers is the same throughout: an integer is the integer it was, however
large, and no decimal has become one. -/
theorem ofJson_toJson (v : OrderedValue) :
    ofJson v.value.toJson = v.value.nullNonFinite ∧ (ofJson v.value.toJson).Finite ∧
      (v.value.Finite → ofJson v.value.toJson = v.value) := by
  have back := v.ordered.round_trip
  exact ⟨back, back ▸ v.ordered.finite_nullNonFinite,
    fun hfinite => back.trans hfinite.nullNonFinite_eq⟩

def readings (rate : Float) : OrderedValue where
  value := .map [("counts", .list [.int 5, .float 5, .int Int64.minValue, .int Int64.maxValue]),
    ("rates", .map [("daily", .float rate)])]
  ordered := by
    have keys : compare "counts" "rates" = .lt := by decide
    refine .map (List.pairwise_pair.mpr keys) ?_
    simp only [List.forall_mem_cons]
    refine ⟨.list ?_, .map (List.pairwise_singleton _ _) ?_, List.forall_mem_nil _⟩
    · simp only [List.forall_mem_cons]
      exact ⟨.int _, .float _, .int _, .int _, List.forall_mem_nil _⟩
    · exact List.forall_mem_singleton.mpr (.float rate)

/-- An infinite rate is lost, a finite one is kept, and so are both fives. -/
theorem ofJson_toJson_readings :
    ofJson (readings Number.infinity).value.toJson =
        .map [("counts", .list [.int 5, .float 5, .int Int64.minValue, .int Int64.maxValue]),
          ("rates", .map [("daily", .null)])] ∧
      (readings 0.5).value.Finite ∧
      ofJson (readings 0.5).value.toJson = (readings 0.5).value := by
  have finite : (readings 0.5).value.Finite := by
    refine .map ?_
    simp only [List.forall_mem_cons]
    refine ⟨.list ?_, .map ?_, List.forall_mem_nil _⟩
    · simp only [List.forall_mem_cons]
      exact ⟨.int _, .float (by decide), .int _, .int _, List.forall_mem_nil _⟩
    · exact List.forall_mem_singleton.mpr (.float (by decide))
  have replaced : (readings Number.infinity).value.nullNonFinite =
        .map [("counts", .list [.int 5, .float 5, .int Int64.minValue, .int Int64.maxValue]),
          ("rates", .map [("daily", .null)])] := by
    rfl
  exact ⟨(ofJson_toJson (readings Number.infinity)).1.trans replaced, finite,
    (ofJson_toJson (readings 0.5)).2.2 finite⟩

end Value
end Shortlist
