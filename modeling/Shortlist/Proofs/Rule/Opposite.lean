import Shortlist.Proofs.Number.Order
import Shortlist.Proofs.Rule.Comparand
import Shortlist.Proofs.Rule.Misfit
/-! Comparisons that come in opposite pairs. They divide the targets that are there between them
and err alike. Thresholds do so only as far as the two sides have an order. -/
namespace Shortlist

/-! ### Null counts as missing -/

namespace Properties

variable {p : Properties} {key : String} {v : Value}

theorem present?_eq_none : p.present? key = none ↔ p[key]? = none ∨ p[key]? = some .null := by
  unfold present?
  cases p[key]? with
  | none => simp
  | some v => cases v <;> simp [Value.isNull]

theorem present?_of_ne_null (h : p[key]? = some v) (hv : v ≠ .null) : p.present? key = some v := by
  unfold present?
  rw [h]
  cases v <;> simp_all [Value.isNull]

end Properties

/-! ### Sides without an order -/

namespace Match

variable {ty : ValueType} {a b : Value}

/-- The values are ordered as decimals, and one of the two is not a number. -/
def Incomparable (ty : ValueType) (a b : Value) : Prop :=
  ty ≠ .int ∧ ∃ x y, a.toFloat = .ok x ∧ b.toFloat = .ok y ∧ (x.isNaN = true ∨ y.isNaN = true)

theorem ordering_eq_none : ordering ty a b = .ok none ↔ Incomparable ty a b := by
  have decimals : (do
      let x ← a.toFloat
      let y ← b.toFloat
      return Number.order? x y) = .ok none ↔
        ∃ x y, a.toFloat = .ok x ∧ b.toFloat = .ok y ∧ (x.isNaN = true ∨ y.isNaN = true) := by
    simp only [bind_eq_ok, ← Number.order?_eq_none]
    constructor
    · rintro ⟨x, hx, y, hy, h⟩
      exact ⟨x, y, hx, hy, Except.ok.inj h⟩
    · rintro ⟨x, y, hx, hy, h⟩
      exact ⟨x, hx, y, hy, congrArg Except.ok h⟩
  cases ty with
  | int =>
      refine iff_of_false (fun h => ?_) fun h => h.1 rfl
      simp only [ordering, bind_eq_ok] at h
      obtain ⟨x, -, y, -, h⟩ := h
      cases h
  | string | float | bool | list e => simpa [ordering, Incomparable] using decimals

end Match

/-! ### Opposite comparisons -/

namespace Comparison

variable {c : Comparison} {ty : ValueType} {actual expected : Value}

def isThreshold : Comparison → Bool
  | .atLeast | .above | .atMost | .below => true
  | .equal | .notEqual | .isIn | .notIn | .contains | .notContains => false

/-- The comparison that is to hold of a target exactly if this one does not. -/
def opposite : Comparison → Comparison
  | .equal => .notEqual
  | .notEqual => .equal
  | .isIn => .notIn
  | .notIn => .isIn
  | .contains => .notContains
  | .notContains => .contains
  | .atLeast => .below
  | .below => .atLeast
  | .above => .atMost
  | .atMost => .above

theorem operandType?_opposite (c : Comparison) (ty : ValueType) :
    c.opposite.operandType? ty = c.operandType? ty := by
  cases c <;> rfl

theorem outcome_opposite (h : c.isThreshold = true → ¬ Match.Incomparable ty actual expected) :
    c.opposite.outcome ty actual expected = (c.outcome ty actual expected).map (!·) := by
  have ordered (hc : c.isThreshold = true) : Match.ordering ty actual expected ≠ .ok none :=
    fun hnone => h hc (Match.ordering_eq_none.mp hnone)
  cases c with
  | equal => rfl
  | notEqual => exact (map_not_map_not _).symm
  | isIn => exact outcome_notIn ty actual expected
  | notIn => rw [outcome_notIn, map_not_map_not]; rfl
  | contains => exact outcome_notContains ty actual expected
  | notContains => rw [outcome_notContains, map_not_map_not]; rfl
  | atLeast | above | atMost | below =>
      simp only [opposite, outcome]
      cases hord : Match.ordering ty actual expected with
      | error e => rfl
      | ok o => cases o with
          | none => exact absurd hord (ordered rfl)
          | some o => cases o <;> rfl

theorem outcome_incomparable (hc : c.isThreshold = true)
    (h : Match.Incomparable ty actual expected) : c.outcome ty actual expected = .ok false := by
  have unordered := Match.ordering_eq_none.mpr h
  cases c with
  | atLeast | above | atMost | below => simp only [outcome, unordered]; rfl
  | equal | notEqual | isIn | notIn | contains | notContains => cases hc

end Comparison

/-- A descriptor compiles to the same leaf when its operator is changed to the opposite one. -/
theorem Descriptor.compileLeaf_opposite {d : Descriptor} {c : Comparison} {domain : EntityKind}
    {leaf : Leaf} :
    d.compileLeaf c.opposite domain = .ok leaf ↔ d.compileLeaf c domain = .ok leaf := by
  simp only [compileLeaf, bind_eq_ok, Comparison.operandType?_opposite]
  refine exists_congr fun property => and_congr_right fun _ => ?_
  refine exists_congr fun type => and_congr_right fun _ => ?_
  cases c.operandType? type with
  | none => exact iff_of_false (fun h => by cases h) (fun h => by cases h)
  | some ty => rfl

/-- Two opposite comparisons of the same leaf. Neither passes on a target that is missing or null.
On any other target both err alike or just one of them passes. Only sides that have no order are
passed over by all thresholds. -/
theorem Leaf.opposites_partition (leaf : Leaf) (c : Comparison) (target : Properties)
    (s : Scopes) :
    let outcome (c : Comparison) := (Rule.compare c leaf).evaluate target s
    let expected := leaf.operand.resolve leaf.operandType s
    (∀ (d : Descriptor) (domain : EntityKind),
      d.compileLeaf c.opposite domain = .ok leaf ↔ d.compileLeaf c domain = .ok leaf) ∧
    (target[leaf.property]? = none ∨ target[leaf.property]? = some .null →
      outcome c = .ok false ∧ outcome c.opposite = .ok false) ∧
    ∀ actual, target[leaf.property]? = some actual → actual ≠ .null →
      (Match.Incomparable leaf.type actual expected →
        ∀ c : Comparison, c.isThreshold = true → outcome c = .ok false) ∧
      ((c.isThreshold = true → ¬ Match.Incomparable leaf.type actual expected) →
        (∃ err, outcome c = .error err ∧ outcome c.opposite = .error err) ∨
        ∃ passed, outcome c = .ok passed ∧ outcome c.opposite = .ok (!passed)) := by
  intro outcome expected
  refine ⟨fun d domain => Descriptor.compileLeaf_opposite, ?_, ?_⟩
  · intro h
    have absent := Properties.present?_eq_none.mpr h
    exact ⟨evaluate_of_absent absent c s, evaluate_of_absent absent c.opposite s⟩
  · intro actual hactual hnull
    have present := Properties.present?_of_ne_null hactual hnull
    have houtcome (c : Comparison) : outcome c =
        (c.outcome leaf.type actual expected).mapError (EvalError.mk leaf.property) :=
      evaluate_of_present present c s
    constructor
    · intro h c hc
      rw [houtcome, Comparison.outcome_incomparable hc h]
      rfl
    · intro comparable
      rw [houtcome, houtcome, Comparison.outcome_opposite comparable]
      cases c.outcome leaf.type actual expected with
      | error source => exact .inl ⟨⟨leaf.property, source⟩, rfl, rfl⟩
      | ok passed => exact .inr ⟨passed, rfl, rfl⟩

end Shortlist
