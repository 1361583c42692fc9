import Mathlib.Tactic.SplitIfs
import Shortlist.Datum.Value
import Shortlist.Proofs.Json.Tree
/-! Values as they come from documents and trees. However their maps were written down, they are in
the one form. -/
namespace Shortlist.Value

/-! ### From trees -/

theorem ordered_ofInteger (n : Int) : (ofInteger n).Ordered := by
  unfold ofInteger
  split
  · exact .int _
  · exact .float _

/-- Every value that is made from a tree has its maps in key order. -/
theorem ordered_ofJson (j : Json) : (ofJson j).Ordered := by
  induction j using Json.induction_parts with
  | null => exact .null
  | bool b => exact .bool b
  | int n => exact ordered_ofInteger n
  | float x => exact .float x
  | string s => exact .string s
  | array items ih =>
      rw [ofJson, ofJsonItems_eq]
      refine .list fun v hv => ?_
      obtain ⟨j, hj, rfl⟩ := List.mem_map.mp hv
      exact ih j hj
  | object entries ih =>
      rw [ofJson, ofJsonEntries_eq]
      refine ordered_ofEntries fun e he => ?_
      obtain ⟨entry, hentry, rfl⟩ := List.mem_map.mp he
      exact ih entry hentry

/-! ### From documents -/

theorem ordered_of_scalarOf? {d : Datum} {v : Value} (h : scalarOf? d = some v) : v.Ordered := by
  obtain ⟨shape, hshape, hv⟩ := List.exists_of_findSome?_eq_some h
  simp only [List.mem_cons, List.not_mem_nil, or_false] at hshape
  obtain rfl | rfl | rfl | rfl | rfl := hshape
  · unfold nullOf? at hv
    split at hv <;> cases hv
    exact .null
  · unfold boolOf? at hv
    split at hv <;> cases hv
    exact .bool _
  · unfold intOf? at hv
    split at hv
    · split_ifs at hv
      cases hv
      exact .int _
    · cases hv
  · unfold floatOf? at hv
    split at hv <;> cases hv
    · exact .float _
    · exact .float _
  · unfold stringOf? at hv
    split at hv <;> cases hv
    exact .string _

mutual
/-- Every value that is read from a document has its maps in key order. -/
theorem ordered_ofDatum? {v : Value} : ∀ d : Datum, ofDatum? d = some v → v.Ordered
  | d, h => by
    unfold ofDatum? at h
    split at h
    · next hscalar =>
        cases h
        exact ordered_of_scalarOf? hscalar
    · split at h
      · obtain ⟨vs, hvs, rfl⟩ := Option.map_eq_some_iff.mp h
        exact .list (ordered_ofItems? _ hvs)
      · split_ifs at h
        obtain ⟨vs, hvs, rfl⟩ := Option.map_eq_some_iff.mp h
        exact .list (ordered_ofItems? _ hvs)
      · split_ifs at h
        obtain ⟨es, hes, rfl⟩ := Option.map_eq_some_iff.mp h
        exact ordered_ofEntries (ordered_ofPairs? _ hes)
      · cases h

theorem ordered_ofItems? : ∀ (ds : List Datum) {vs : List Value}, ofItems? ds = some vs →
    ∀ v ∈ vs, v.Ordered
  | [], _, h => by
    cases h
    exact List.forall_mem_nil _
  | d :: ds, _, h => by
    simp only [ofItems?, Option.bind_eq_bind, Option.bind_eq_some_iff] at h
    obtain ⟨v, hv, vs, hvs, h⟩ := h
    cases h
    exact List.forall_mem_cons.mpr ⟨ordered_ofDatum? d hv, ordered_ofItems? ds hvs⟩

theorem ordered_ofPairs? : ∀ (es : List (Datum × Datum)) {ps : List (String × Value)},
    ofPairs? es = some ps → ∀ p ∈ ps, p.2.Ordered
  | [], _, h => by
    cases h
    exact List.forall_mem_nil _
  | (k, d) :: es, _, h => by
    simp only [ofPairs?, Option.bind_eq_bind, Option.bind_eq_some_iff] at h
    obtain ⟨key, -, v, hv, ps, hps, h⟩ := h
    cases h
    exact List.forall_mem_cons.mpr ⟨ordered_ofDatum? d hv, ordered_ofPairs? es hps⟩
end

end Shortlist.Value
