import Shortlist.Proofs.Rule.Coerced
/-! Coercion ahead of time. A value is coerced to its one form and no further, and that form may
take its place in every comparison on the type: no verdict and no error gives it away. -/
namespace Shortlist

/-- What may stand where a value stood: the value itself, or its coercion. -/
inductive Value.Replaced (ty : ValueType) (v : Value) : Value → Prop
  | kept : Replaced ty v v
  | coerced {w : Value} : v.coerce ty = .ok w → Replaced ty v w

namespace Value

variable {ty : ValueType} {el : ScalarType} {v w : Value} {vs ws : List Value}

theorem Replaced.agreeOn (h : Replaced ty v w) : AgreeOn ty v w := by
  cases h with
  | kept => exact .refl ty v
  | coerced hw => exact agreeOn_of_coerce hw

theorem forall₂_agreeOn (h : List.Forall₂ (Replaced ty) vs ws) :
    List.Forall₂ (AgreeOn ty) vs ws :=
  h.imp fun _ _ => Replaced.agreeOn

/-- Coercion gives the one form of the type, which is its own coercion. On a list it goes through
the elements and errs with the first one that it fails on. Equality, order, and the searches in
lists cannot tell which of the values they are given have been coerced before, on either side. -/
theorem coercion_laws :
    (∀ (ty : ValueType) (v w : Value), v.coerce ty = .ok w →
      Canonical ty w ∧ w.coerce ty = .ok w) ∧
    (∀ (ty : ValueType) (a a' b b' : Value),
      Replaced ty.element a a' → Replaced ty.element b b' →
        Match.equals ty a b = Match.equals ty a' b') ∧
    (∀ (ty : ValueType) (a a' b b' : Value), ty.isNumeric →
      Replaced ty a a' → Replaced ty b b' → Match.ordering ty a b = Match.ordering ty a' b') ∧
    (∀ (ty : ValueType) (a a' : Value) (bs bs' : List Value),
      Replaced ty.element a a' → List.Forall₂ (Replaced ty.element) bs bs' →
        Match.member ty a bs = Match.member ty a' bs') ∧
    (∀ (ty : ValueType) (as as' bs bs' : List Value),
      List.Forall₂ (Replaced ty.element) as as' → List.Forall₂ (Replaced ty.element) bs bs' →
        Match.intersects ty as bs = Match.intersects ty as' bs') ∧
    (∀ (el : ScalarType) (v w : Value), v.coerce (.list el) = .ok w →
      ∃ items ws, v.toList = .ok items ∧ w = .list ws ∧
        List.Forall₂ (fun item w => item.coerce el.toValueType = .ok w) items ws) ∧
    ∀ (el : ScalarType) (v : Value) (e : CoercionError), v.coerce (.list el) = .error e ↔
      v.toList = .error e ∨ ∃ before bad after, v.toList = .ok (before ++ bad :: after) ∧
        (∀ u ∈ before, ∃ w, u.coerce el.toValueType = .ok w) ∧
        bad.coerce el.toValueType = .error e := by
  refine ⟨?form, ?equals, ?ordering, ?member, ?intersects, ?items, ?failure⟩
  case form => exact fun ty v w h => ⟨canonical_of_coerce h, coerce_coerce h⟩
  case equals => exact fun ty a a' b b' ha hb => Match.equals_congr ha.agreeOn hb.agreeOn
  case ordering =>
    exact fun ty a a' b b' hty ha hb => Match.ordering_congr hty ha.agreeOn hb.agreeOn
  case member =>
    exact fun ty a a' bs bs' ha hb => Match.member_congr ha.agreeOn (forall₂_agreeOn hb)
  case intersects =>
    exact fun ty as as' bs bs' ha hb =>
      Match.intersects_congr (forall₂_agreeOn ha) (forall₂_agreeOn hb)
  case items => exact fun el v w => forall₂_of_coerce_list
  case failure => exact fun el v e => coerce_list_first_error

end Value
end Shortlist
