import Shortlist.Proofs.Rule.Comparand
/-! Comparing values is comparing their coercions. What fails is then the coercion of a side, and
of several values the first one that is reached. -/
namespace Shortlist

variable {e : CoercionError}

namespace Value

theorem coerceAll_cons_error {el : ScalarType} {v : Value} {vs : List Value} :
    coerceAll el (v :: vs) = .error e ↔
      v.coerce el.toValueType = .error e ∨
        ∃ w, v.coerce el.toValueType = .ok w ∧ coerceAll el vs = .error e := by
  simp only [coerceAll, coerceScalar_eq, bind_eq_error]
  constructor
  · rintro (h | ⟨w, hw, h | ⟨ws, -, h⟩⟩)
    · exact .inl h
    · exact .inr ⟨w, hw, h⟩
    · cases h
  · rintro (h | ⟨w, hw, h⟩)
    · exact .inl h
    · exact .inr ⟨w, hw, .inl h⟩

/-- The first value that cannot be coerced decides the error. -/
theorem coerceAll_eq_error {el : ScalarType} {vs : List Value} :
    coerceAll el vs = .error e ↔
      ∃ before bad after, vs = before ++ bad :: after ∧
        (∀ v ∈ before, ∃ w, v.coerce el.toValueType = .ok w) ∧
        bad.coerce el.toValueType = .error e := by
  induction vs with
  | nil => simp [coerceAll]
  | cons v vs ih =>
      rw [coerceAll_cons_error, ih]
      constructor
      · rintro (hv | ⟨w, hv, before, bad, after, rfl, hbefore, hbad⟩)
        · exact ⟨[], v, vs, rfl, by simp, hv⟩
        · exact ⟨v :: before, bad, after, rfl, List.forall_mem_cons.mpr ⟨⟨w, hv⟩, hbefore⟩, hbad⟩
      · rintro ⟨before, bad, after, hsplit, hbefore, hbad⟩
        cases before with
        | nil =>
            cases hsplit
            exact .inl hbad
        | cons u before =>
            cases hsplit
            obtain ⟨⟨w, hw⟩, hbefore⟩ := List.forall_mem_cons.mp hbefore
            exact .inr ⟨w, hw, before, bad, after, rfl, hbefore, hbad⟩

theorem exists_coerceAll_iff {el : ScalarType} {vs : List Value} :
    (∃ ws, coerceAll el vs = .ok ws) ↔ ∀ v ∈ vs, ∃ w, v.coerce el.toValueType = .ok w := by
  constructor
  · rintro ⟨ws, hws⟩ v hv
    obtain ⟨w, -, hw⟩ := exists_mem_of_forall₂ (coerceAll_eq_ok.mp hws).flip v hv
    exact ⟨w, hw⟩
  · intro hall
    cases h : coerceAll el vs with
    | ok ws => exact ⟨ws, rfl⟩
    | error e =>
        obtain ⟨before, bad, after, rfl, -, hbad⟩ := coerceAll_eq_error.mp h
        obtain ⟨w, hw⟩ := hall bad (by simp)
        rw [hw] at hbad
        cases hbad

theorem coerce_list_eq_error {el : ScalarType} {v : Value} :
    v.coerce (.list el) = .error e ↔
      v.toList = .error e ∨ ∃ items, v.toList = .ok items ∧ coerceAll el items = .error e := by
  simp only [coerce, bind_eq_error]
  constructor
  · rintro (h | ⟨items, hitems, h | ⟨ws, -, h⟩⟩)
    · exact .inl h
    · exact .inr ⟨items, hitems, h⟩
    · cases h
  · rintro (h | ⟨items, hitems, h⟩)
    · exact .inl h
    · exact .inr ⟨items, hitems, .inl h⟩

theorem forall₂_of_coerce_list {el : ScalarType} {v w : Value} (h : v.coerce (.list el) = .ok w) :
    ∃ items ws, v.toList = .ok items ∧ w = .list ws ∧
      List.Forall₂ (fun item w => item.coerce el.toValueType = .ok w) items ws := by
  obtain ⟨items, ws, hitems, hws, rfl⟩ := coerce_list_eq_ok.mp h
  exact ⟨items, ws, hitems, rfl, coerceAll_eq_ok.mp hws⟩

theorem coerce_list_first_error {el : ScalarType} {v : Value} :
    v.coerce (.list el) = .error e ↔
      v.toList = .error e ∨ ∃ before bad after, v.toList = .ok (before ++ bad :: after) ∧
        (∀ u ∈ before, ∃ w, u.coerce el.toValueType = .ok w) ∧
        bad.coerce el.toValueType = .error e := by
  rw [coerce_list_eq_error]
  refine or_congr_right ⟨?_, ?_⟩
  · rintro ⟨items, hitems, hall⟩
    obtain ⟨before, bad, after, rfl, hbefore, hbad⟩ := coerceAll_eq_error.mp hall
    exact ⟨before, bad, after, hitems, hbefore, hbad⟩
  · rintro ⟨before, bad, after, hitems, hbefore, hbad⟩
    exact ⟨_, hitems, coerceAll_eq_error.mpr ⟨before, bad, after, rfl, hbefore, hbad⟩⟩

theorem coerces_list_iff {el : ScalarType} {v : Value} : (∃ w, v.coerce (.list el) = .ok w) ↔
    ∃ items, v.toList = .ok items ∧ ∀ item ∈ items, ∃ w, item.coerce el.toValueType = .ok w := by
  constructor
  · rintro ⟨w, hw⟩
    obtain ⟨items, ws, hitems, hws, -⟩ := coerce_list_eq_ok.mp hw
    exact ⟨items, hitems, exists_coerceAll_iff.mp ⟨ws, hws⟩⟩
  · rintro ⟨items, hitems, hall⟩
    obtain ⟨ws, hws⟩ := exists_coerceAll_iff.mpr hall
    exact ⟨.list ws, coerce_list_eq_ok.mpr ⟨items, ws, hitems, hws, rfl⟩⟩

/-- The value that a missing reference stands for has the type. -/
theorem coerce_zeroOf (ty : ValueType) : (zeroOf ty).coerce ty = .ok (zeroOf ty) := by
  cases ty <;> rfl

end Value

open Value

namespace Match

variable {ty : ValueType} {el : ScalarType} {a b : Value} {as bs : List Value}

/-- Equality of two values that have been coerced to one type. -/
def same : Value → Value → Bool
  | .string x, .string y => x == y
  | .int x, .int y => x == y
  | .float x, .float y => floatEq x y
  | .bool x, .bool y => x == y
  | _, _ => false

/-- Order of two values that have been coerced to one type of numbers. -/
def order : Value → Value → Option Ordering
  | .int x, .int y => some (compare x.toInt y.toInt)
  | .float x, .float y => Number.order? x y
  | _, _ => none

/-- Coerces the left side, then the right one, and compares what comes out. -/
def coerced {β : Type} (ty : ValueType) (test : Value → Value → β) (a b : Value) :
    Except CoercionError β := do
  let v ← a.coerce ty
  let w ← b.coerce ty
  return test v w

theorem coerced_of_reader {α β : Type} (ty : ValueType) (read : Value → Except CoercionError α)
    (wrap : α → Value) (hread : ∀ v : Value, v.coerce ty = (read v).map wrap)
    (test : Value → Value → β) (a b : Value) :
    coerced ty test a b = do
      let x ← read a
      let y ← read b
      return test (wrap x) (wrap y) := by
  simp only [coerced, hread]
  cases read a with
  | error e => rfl
  | ok x => cases read b <;> rfl

theorem equals_eq_coerced (ty : ValueType) (a b : Value) :
    equals ty a b = coerced ty.element same a b := by
  have text := coerced_of_reader .string toText .string (fun _ => rfl) same a b
  have int := coerced_of_reader .int toInt .int (fun _ => rfl) same a b
  have float := coerced_of_reader .float toFloat .float (fun _ => rfl) same a b
  have bool := coerced_of_reader .bool toBool .bool (fun _ => rfl) same a b
  cases ty with
  | string => exact text.symm
  | int => exact int.symm
  | float => exact float.symm
  | bool => exact bool.symm
  | list el =>
      cases el with
      | string => exact text.symm
      | int => exact int.symm
      | float => exact float.symm

theorem ordering_eq_coerced (hty : ty.isNumeric) (a b : Value) :
    ordering ty a b = coerced ty order a b := by
  cases ty with
  | int => exact (coerced_of_reader .int toInt .int (fun _ => rfl) order a b).symm
  | float => exact (coerced_of_reader .float toFloat .float (fun _ => rfl) order a b).symm
  | string | bool | list el => simp [ValueType.isNumeric] at hty

theorem error_of_coerced {β : Type} {test : Value → Value → β} (h : coerced ty test a b = .error e) :
    a.coerce ty = .error e ∨ b.coerce ty = .error e := by
  simp only [coerced, bind_eq_error] at h
  obtain ha | ⟨v, -, hb | ⟨w, -, hpure⟩⟩ := h
  · exact .inl ha
  · exact .inr hb
  · cases hpure

theorem ok_of_coerced {β : Type} {test : Value → Value → β} {t : β}
    (h : coerced ty test a b = .ok t) :
    (∃ v, a.coerce ty = .ok v) ∧ ∃ w, b.coerce ty = .ok w := by
  simp only [coerced, bind_eq_ok] at h
  obtain ⟨v, hv, w, hw, -⟩ := h
  exact ⟨⟨v, hv⟩, ⟨w, hw⟩⟩

theorem coerced_map {β γ : Type} (ty : ValueType) (test : Value → Value → β) (f : β → γ)
    (a b : Value) :
    (coerced ty test a b).map f = coerced ty (fun v w => f (test v w)) a b := by
  simp only [coerced]
  cases a.coerce ty with
  | error err => rfl
  | ok v => cases b.coerce ty <;> rfl

theorem exists_coerced_iff {β : Type} {test : Value → Value → β} :
    (∃ t, coerced ty test a b = .ok t) ↔
      (∃ v, a.coerce ty = .ok v) ∧ ∃ w, b.coerce ty = .ok w := by
  constructor
  · rintro ⟨t, ht⟩
    exact ok_of_coerced ht
  · rintro ⟨⟨v, hv⟩, w, hw⟩
    exact ⟨test v w, by simp only [coerced, hv, hw, ok_bind]; rfl⟩

/-- A search among values reads the needle and the values in turn, up to the first match. -/
theorem error_of_member (hel : ty.element = el.toValueType) (h : member ty a bs = .error e) :
    a.coerce el.toValueType = .error e ∨ coerceAll el bs = .error e := by
  induction bs with
  | nil => cases h
  | cons b bs ih =>
      have hequals : equals ty.element a b = coerced el.toValueType same a b := by
        rw [equals_eq_coerced, ValueType.element_element, hel]
      rw [coerceAll_cons_error]
      simp only [member, hequals, bind_eq_error] at h
      obtain hside | ⟨found, hfound, hrest⟩ := h
      · cases error_of_coerced hside with
        | inl ha => exact .inl ha
        | inr hb => exact .inr (.inl hb)
      · cases found with
        | true => cases hrest
        | false =>
            obtain ⟨-, w, hw⟩ := ok_of_coerced hfound
            cases ih (by simpa using hrest) with
            | inl ha => exact .inl ha
            | inr hbs => exact .inr (.inr ⟨w, hw, hbs⟩)

/-- Nothing is read of the needle when there is nothing to compare it with. -/
theorem coerces_of_member_cons (hel : ty.element = el.toValueType) {t : Bool}
    (h : member ty a (b :: bs) = .ok t) : ∃ v, a.coerce el.toValueType = .ok v := by
  simp only [member, bind_eq_ok] at h
  obtain ⟨found, hfound, -⟩ := h
  rw [equals_eq_coerced, ValueType.element_element, hel] at hfound
  exact (ok_of_coerced hfound).1

/-- Among values that can be read the needle has to be read too, unless there are none. -/
theorem exists_member_iff (hread : (∃ v, a.coerce el.toValueType = .ok v) →
      ∀ b ∈ bs, ∃ w, b.coerce el.toValueType = .ok w) :
    (∃ t, member el.toValueType a bs = .ok t) ↔
      bs = [] ∨ ∃ v, a.coerce el.toValueType = .ok v := by
  have scalar : el.toValueType.element = el.toValueType := by cases el <;> rfl
  constructor
  · rintro ⟨t, ht⟩
    cases bs with
    | nil => exact .inl rfl
    | cons b bs => exact .inr (coerces_of_member_cons scalar ht)
  · rintro (rfl | ⟨v, hv⟩)
    · exact ⟨false, rfl⟩
    · cases hmember : member el.toValueType a bs with
      | ok t => exact ⟨t, rfl⟩
      | error err =>
          cases error_of_member scalar hmember with
          | inl ha =>
              rw [hv] at ha
              cases ha
          | inr hall =>
              obtain ⟨ws, hws⟩ := exists_coerceAll_iff.mpr (hread ⟨v, hv⟩)
              rw [hws] at hall
              cases hall

theorem intersects_nil (ty : ValueType) (as : List Value) : intersects ty as [] = .ok false := by
  induction as with
  | nil => rfl
  | cons a as ih => exact ih

theorem error_of_intersects (hel : ty.element = el.toValueType)
    (h : intersects ty as bs = .error e) :
    coerceAll el as = .error e ∨ coerceAll el bs = .error e := by
  cases bs with
  | nil => rw [intersects_nil] at h; cases h
  | cons b bs =>
      induction as with
      | nil => cases h
      | cons a as ih =>
          rw [coerceAll_cons_error]
          simp only [intersects, bind_eq_error] at h
          obtain hside | ⟨found, hfound, hrest⟩ := h
          · cases error_of_member hel hside with
            | inl ha => exact .inl (.inl ha)
            | inr hbs => exact .inr hbs
          · cases found with
            | true => cases hrest
            | false =>
                obtain ⟨v, hv⟩ := coerces_of_member_cons hel hfound
                cases ih (by simpa using hrest) with
                | inl has => exact .inl (.inr ⟨v, hv, has⟩)
                | inr hbs => exact .inr hbs

end Match

end Shortlist
