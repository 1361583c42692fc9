import Shortlist.Proofs.Rule.Children
import Shortlist.Proofs.Rule.Coerced
/-! What an evaluation can fail on. A comparison errs only with the coercion error of one of its
sides, and a constant of a compiled rule is coerced already, so the cause of an error is always
a property that is there and does not have the type it is read as. -/
namespace Shortlist
open Value

namespace Comparison

variable {c : Comparison} {ty operandType : ValueType} {actual expected : Value}
  {e : CoercionError}

/-- The type that the target is read as. Membership looks at the target as one element. -/
def targetType (c : Comparison) (ty : ValueType) : ValueType :=
  match c with
  | .isIn | .notIn => ty.element
  | _ => ty

theorem equals_coerces (hty : Comparison.equal.operandType? ty = some operandType) :
    Match.equals ty actual expected = Match.coerced ty Match.same actual expected := by
  rw [Match.equals_eq_coerced, (operandType_equal hty).1]

theorem error_of_equals (hty : Comparison.equal.operandType? ty = some operandType)
    (h : Match.equals ty actual expected = .error e) :
    actual.coerce ty = .error e ∨ expected.coerce operandType = .error e := by
  rw [equals_coerces hty] at h
  obtain ⟨-, rfl⟩ := operandType_equal hty
  exact Match.error_of_coerced h

theorem error_of_ordering (hty : Comparison.atLeast.operandType? ty = some operandType)
    (h : Match.ordering ty actual expected = .error e) :
    actual.coerce ty = .error e ∨ expected.coerce operandType = .error e := by
  obtain ⟨hnum, rfl⟩ := operandType_atLeast hty
  rw [Match.ordering_eq_coerced hnum] at h
  exact Match.error_of_coerced h

theorem error_of_membership (hty : Comparison.isIn.operandType? ty = some operandType)
    (h : Comparison.isIn.outcome ty actual expected = .error e) :
    actual.coerce ty.element = .error e ∨ expected.coerce operandType = .error e := by
  obtain ⟨el, rfl, hel⟩ := operandType_isIn hty
  rw [coerce_list_eq_error, hel]
  obtain hlist | ⟨among, hamong, hmember⟩ := bind_eq_error.mp h
  · exact .inr (.inl hlist)
  · cases Match.error_of_member hel hmember with
    | inl htarget => exact .inl htarget
    | inr hall => exact .inr (.inr ⟨among, hamong, hall⟩)

theorem error_of_overlap (hty : Comparison.contains.operandType? ty = some operandType)
    (h : Comparison.contains.outcome ty actual expected = .error e) :
    actual.coerce ty = .error e ∨ expected.coerce operandType = .error e := by
  cases ty with
  | string | int | float | bool => simp [operandType?, ValueType.isList] at hty
  | list el =>
      cases hty
      simp only [coerce_list_eq_error]
      simp only [outcome, bind_eq_error] at h
      obtain hleft | ⟨left, hleft, hright | ⟨right, hright, h⟩⟩ := h
      · exact .inl (.inl hleft)
      · exact .inr (.inl hright)
      · cases Match.error_of_intersects rfl h with
        | inl hall => exact .inl (.inr ⟨left, hleft, hall⟩)
        | inr hall => exact .inr (.inr ⟨right, hright, hall⟩)

theorem outcome_notIn (ty : ValueType) (actual expected : Value) :
    outcome .notIn ty actual expected = (outcome .isIn ty actual expected).map (!·) := by
  simp only [outcome]
  cases expected.toList <;> rfl

theorem outcome_notContains (ty : ValueType) (actual expected : Value) :
    outcome .notContains ty actual expected =
      (outcome .contains ty actual expected).map (!·) := by
  simp only [outcome]
  cases actual.toList with
  | error e => rfl
  | ok left => cases expected.toList <;> rfl

/-- A comparison errs only with the error of coercing its target or its operand. -/
theorem error_of_outcome (hty : c.operandType? ty = some operandType)
    (h : c.outcome ty actual expected = .error e) :
    actual.coerce (c.targetType ty) = .error e ∨ expected.coerce operandType = .error e := by
  cases c with
  | equal => exact error_of_equals hty h
  | notEqual => exact error_of_equals hty (map_eq_error.mp h)
  | atLeast => exact error_of_ordering hty (map_eq_error.mp h)
  | above => exact error_of_ordering hty (map_eq_error.mp h)
  | atMost => exact error_of_ordering hty (map_eq_error.mp h)
  | below => exact error_of_ordering hty (map_eq_error.mp h)
  | isIn => exact error_of_membership hty h
  | notIn =>
      rw [outcome_notIn, map_eq_error] at h
      exact error_of_membership hty h
  | contains => exact error_of_overlap hty h
  | notContains =>
      rw [outcome_notContains, map_eq_error] at h
      exact error_of_overlap hty h

end Comparison

/-! ### Leaves -/

namespace Leaf

/-- What the properties have to be for a comparison: absent, null, or of the type they are read
as. -/
structure Fits (leaf : Leaf) (c : Comparison) (s : Scopes) : Prop where
  target : ∀ v, (s.of leaf.domain).present? leaf.property = some v →
    ∃ w, v.coerce (c.targetType leaf.type) = .ok w
  reference : ∀ scope key, leaf.operand = .reference scope key →
    ∀ v, (s.of scope).present? key = some v → ∃ w, v.coerce leaf.operandType = .ok w

/-- A property that is there and is not of the type it is read as, with the error of that. -/
inductive Misfit (leaf : Leaf) (c : Comparison) (s : Scopes) : EvalError → Prop
  | target {v : Value} {source : CoercionError} :
      (s.of leaf.domain).present? leaf.property = some v →
      v.coerce (c.targetType leaf.type) = .error source →
      Misfit leaf c s ⟨leaf.property, source⟩
  | reference {scope : EntityKind} {key : String} {v : Value} {source : CoercionError} :
      leaf.operand = .reference scope key →
      (s.of scope).present? key = some v →
      v.coerce leaf.operandType = .error source →
      Misfit leaf c s ⟨leaf.property, source⟩

variable {leaf : Leaf} {c : Comparison} {s : Scopes} {err : EvalError}

theorem Fits.not_misfit (fits : leaf.Fits c s) : ¬ leaf.Misfit c s err := by
  intro misfit
  cases misfit with
  | target hpresent herr =>
      obtain ⟨w, hw⟩ := fits.target _ hpresent
      rw [hw] at herr
      cases herr
  | reference hoperand hpresent herr =>
      obtain ⟨w, hw⟩ := fits.reference _ _ hoperand _ hpresent
      rw [hw] at herr
      cases herr

/-- The constant of a compiled comparison is in the form of its type. -/
theorem coerce_of_literal {d : Descriptor} {domain : EntityKind} {v : Value}
    (checked : d.LeafChecked c domain leaf) (hoperand : leaf.operand = .literal v) :
    v.coerce leaf.operandType = .ok v := by
  obtain ⟨raw, -, hcompile⟩ := checked.operand
  rw [hoperand] at hcompile
  simp only [Descriptor.compileOperand] at hcompile
  cases hparse : Operand.parse raw with
  | reference scope key => simp [hparse] at hcompile
  | literal u =>
      simp only [hparse] at hcompile
      cases hcoerce : u.coerce leaf.operandType with
      | error source => simp [hcoerce] at hcompile
      | ok w =>
          simp only [hcoerce, Except.ok.injEq, Operand.literal.injEq] at hcompile
          subst hcompile
          exact coerce_coerce hcoerce

theorem misfit_of_error {d : Descriptor} {domain : EntityKind}
    (checked : d.LeafChecked c domain leaf)
    (h : leaf.evaluate c (s.of leaf.domain) s = .error err) : leaf.Misfit c s err := by
  simp only [evaluate] at h
  split at h
  · cases h
  · next actual hactual =>
      obtain ⟨source, hsource, rfl⟩ := mapError_eq_error.mp h
      cases Comparison.error_of_outcome checked.operandType hsource with
      | inl htarget => exact .target hactual htarget
      | inr hoperand =>
          cases hop : leaf.operand with
          | literal v =>
              simp only [hop, Operand.resolve, coerce_of_literal checked hop] at hoperand
              cases hoperand
          | reference scope key =>
              rw [hop, Operand.resolve_reference] at hoperand
              cases hpresent : (s.of scope).present? key with
              | none =>
                  simp only [hpresent, Option.getD_none, coerce_zeroOf] at hoperand
                  cases hoperand
              | some v =>
                  simp only [hpresent, Option.getD_some] at hoperand
                  exact .reference hop hpresent hoperand

end Leaf

/-! ### Rules and plans -/

namespace Rule

variable {s : Scopes} {err : EvalError}

/-- An error of a rule is that of a comparison in it, met on the entity the comparison is about. -/
theorem error_of_verdict (r : Rule) :
    r.verdict s = .error err →
      ∃ q ∈ r.leaves, q.2.evaluate q.1 (s.of q.2.domain) s = .error err := by
  have descend : ∀ children : List Rule,
      (∀ r ∈ children, r.verdict s = .error err →
        ∃ q ∈ r.leaves, q.2.evaluate q.1 (s.of q.2.domain) s = .error err) →
      (∃ r ∈ children, r.verdict s = .error err) →
      ∃ q ∈ leavesAll children, q.2.evaluate q.1 (s.of q.2.domain) s = .error err := by
    rintro children ih ⟨r, hr, herr⟩
    obtain ⟨q, hq, hleaf⟩ := ih r hr herr
    exact ⟨q, mem_leavesAll.mpr ⟨r, hr, hq⟩, hleaf⟩
  induction r using induction_children with
  | compare c leaf => exact fun h => ⟨(c, leaf), List.mem_singleton_self _, h⟩
  | presence wanted property domain => exact fun h => nomatch h
  | combine c domain children ih =>
      intro h
      cases c with
      | and => exact descend children ih (error_of_evaluateAll h)
      | or => exact descend children ih (error_of_evaluateAny h)

end Rule

end Shortlist
