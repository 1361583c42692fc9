import Mathlib.Data.List.ProdSigma
import Shortlist.Proofs.Rule.Equality
/-! Lists that overlap. As long as every element can be read, it matters which elements the two
lists have and nothing else. Otherwise the first pair of elements that is equal or cannot be compared
decides. -/
namespace Shortlist

namespace Match

variable {e : ScalarType} {ty : ValueType} {left right left' right' : List Value}

/-! ### The first pair -/

/-- The outcome of the first pair of values that are not just unequal. -/
def firstFound (e : ScalarType) (pairs : List (Value × Value)) : Except CoercionError Bool :=
  firstOther (fun p => equals e.toValueType p.1 p.2) false pairs

theorem member_eq_firstFound (hty : ty.element = e.toValueType) (a : Value) (bs : List Value) :
    member ty a bs = firstFound e (bs.map (Prod.mk a)) := by
  induction bs with
  | nil => rfl
  | cons b bs ih =>
      rw [firstFound, List.map_cons, firstOther_cons, member, ih, hty, firstFound]
      cases equals e.toValueType a b with
      | error err => rfl
      | ok found => cases found <;> rfl

/-- The pairs are tried row by row: all right values for the first left one, and so on. -/
theorem intersects_eq_firstFound (hty : ty.element = e.toValueType) (as bs : List Value) :
    intersects ty as bs = firstFound e (as ×ˢ bs) := by
  induction as with
  | nil => rfl
  | cons a as ih =>
      rw [List.product_cons, firstFound, firstOther_append, intersects, ih,
        member_eq_firstFound hty]
      simp only [firstFound]
      cases firstOther (fun p => equals e.toValueType p.1 p.2) false (bs.map (Prod.mk a)) with
      | error err => rfl
      | ok found => cases found <;> rfl

/-! ### Values that can be read -/

/-- Every value has the type or can be converted to it. -/
def Readable (e : ScalarType) (items : List Value) : Prop :=
  ∀ a ∈ items, ∃ v, a.coerce e.toValueType = .ok v

/-- Some value in the one list equals some value in the other once both are converted. -/
def Share (e : ScalarType) (left right : List Value) : Prop :=
  ∃ a ∈ left, ∃ b ∈ right, ∃ v w, a.coerce e.toValueType = .ok v ∧
    b.coerce e.toValueType = .ok w ∧ same v w = true

theorem Share.symm (h : Share e left right) : Share e right left := by
  obtain ⟨a, ha, b, hb, v, w, hv, hw, hsame⟩ := h
  refine ⟨b, hb, a, ha, w, v, hw, hv, ?_⟩
  rw [same_comm (Value.canonical_of_coerce hw) (Value.canonical_of_coerce hv), hsame]

theorem share_comm : Share e left right ↔ Share e right left := ⟨Share.symm, Share.symm⟩

theorem share_congr (hleft : ∀ a, a ∈ left' ↔ a ∈ left) (hright : ∀ b, b ∈ right' ↔ b ∈ right) :
    Share e left' right' ↔ Share e left right := by
  simp only [Share, hleft, hright]

theorem equals_eq_true {a b : Value} : equals e.toValueType a b = .ok true ↔
    ∃ v w, a.coerce e.toValueType = .ok v ∧ b.coerce e.toValueType = .ok w ∧ same v w = true := by
  have scalar : e.toValueType.element = e.toValueType := by cases e <;> rfl
  rw [equals_eq_coerced, scalar, coerced]
  simp only [bind_eq_ok]
  constructor
  · rintro ⟨v, hv, w, hw, hsame⟩
    exact ⟨v, w, hv, hw, Except.ok.inj hsame⟩
  · rintro ⟨v, w, hv, hw, hsame⟩
    exact ⟨v, hv, w, hw, congrArg Except.ok hsame⟩

theorem exists_equals {a b : Value} (ha : ∃ v, a.coerce e.toValueType = .ok v)
    (hb : ∃ w, b.coerce e.toValueType = .ok w) : ∃ t, equals e.toValueType a b = .ok t := by
  obtain ⟨v, hv⟩ := ha
  obtain ⟨w, hw⟩ := hb
  have scalar : e.toValueType.isList = false := by cases e <;> rfl
  exact ⟨_, equals_of_coerced scalar hv hw⟩

theorem intersects_of_readable (hty : ty.element = e.toValueType) (hleft : Readable e left)
    (hright : Readable e right) :
    ∃ t, intersects ty left right = .ok t ∧ (t = true ↔ Share e left right) := by
  have comparable : ∀ p ∈ left ×ˢ right, ∃ t, equals e.toValueType p.1 p.2 = .ok t := by
    intro p hp
    obtain ⟨ha, hb⟩ := List.mem_product.mp hp
    exact exists_equals (hleft _ ha) (hright _ hb)
  refine ⟨_, (intersects_eq_firstFound hty left right).trans (firstOther_of_ok comparable), ?_⟩
  simp only [List.any_eq_true, decide_eq_true_eq, equals_eq_true, Prod.exists, List.mem_product]
  constructor
  · rintro ⟨a, b, ⟨ha, hb⟩, found⟩
    exact ⟨a, ha, b, hb, found⟩
  · rintro ⟨a, ha, b, hb, found⟩
    exact ⟨a, b, ⟨ha, hb⟩, found⟩

end Match

namespace Comparison
open Match

variable {e : ScalarType} {actual expected actual' expected' : Value}
  {left right left' right' : List Value}

theorem outcome_contains (hleft : actual.toList = .ok left) (hright : expected.toList = .ok right)
    (ty : ValueType) : contains.outcome ty actual expected = intersects ty left right := by
  simp only [outcome, hleft, hright, ok_bind]

theorem contains_of_readable (hleft : actual.toList = .ok left)
    (hright : expected.toList = .ok right) (hreadLeft : Readable e left)
    (hreadRight : Readable e right) :
    ∃ t, contains.outcome (.list e) actual expected = .ok t ∧ (t = true ↔ Share e left right) := by
  rw [outcome_contains hleft hright]
  exact intersects_of_readable rfl hreadLeft hreadRight

/-- What decides is which values are in the lists, not in which order or how often, and not on
which side. -/
theorem contains_congr (hleft : actual.toList = .ok left) (hright : expected.toList = .ok right)
    (hleft' : actual'.toList = .ok left') (hright' : expected'.toList = .ok right')
    (hreadLeft : Readable e left) (hreadRight : Readable e right) (hreadLeft' : Readable e left')
    (hreadRight' : Readable e right') (h : Share e left' right' ↔ Share e left right) :
    contains.outcome (.list e) actual' expected' = contains.outcome (.list e) actual expected := by
  obtain ⟨t, ht, hshare⟩ := contains_of_readable hleft hright hreadLeft hreadRight
  obtain ⟨t', ht', hshare'⟩ := contains_of_readable hleft' hright' hreadLeft' hreadRight'
  rw [ht, ht', Bool.eq_iff_iff.mpr (hshare'.trans (h.trans hshare.symm))]

/-- Overlap of two lists is decided by the first pair of elements that are equal or cannot be
compared. If all elements can be read, the lists overlap exactly if they share an element, be they
reordered, with repetitions or in each other's place. The opposite comparison has the opposite
verdict, and the same error. -/
theorem overlap_laws (hleft : actual.toList = .ok left) (hright : expected.toList = .ok right) :
    let overlap := contains.outcome (.list e)
    let apart := notContains.outcome (.list e)
    overlap actual expected = firstFound e (left ×ˢ right) ∧
    (∀ a b, apart a b = (overlap a b).map (!·)) ∧
    (Readable e left → Readable e right →
      (∃ t, overlap actual expected = .ok t ∧ apart actual expected = .ok (!t) ∧
        (t = true ↔ Share e left right)) ∧
      ∀ actual' expected' left' right', actual'.toList = .ok left' → expected'.toList = .ok right' →
        (∀ a, a ∈ left' ↔ a ∈ left) → (∀ b, b ∈ right' ↔ b ∈ right) →
          overlap actual' expected' = overlap actual expected ∧
          overlap expected' actual' = overlap actual expected) := by
  intro overlap apart
  refine ⟨?_, fun a b => outcome_notContains (.list e) a b, ?_⟩
  · exact (outcome_contains hleft hright _).trans (intersects_eq_firstFound rfl left right)
  · intro hreadLeft hreadRight
    constructor
    · obtain ⟨t, ht, hshare⟩ := contains_of_readable hleft hright hreadLeft hreadRight
      refine ⟨t, ht, (outcome_notContains _ _ _).trans ?_, hshare⟩
      rw [ht]
      rfl
    · intro actual' expected' left' right' hleft' hright' hsameLeft hsameRight
      have hreadLeft' : Readable e left' := fun a ha => hreadLeft a ((hsameLeft a).mp ha)
      have hreadRight' : Readable e right' := fun b hb => hreadRight b ((hsameRight b).mp hb)
      have hshare : Share e left' right' ↔ Share e left right := share_congr hsameLeft hsameRight
      constructor
      · exact contains_congr hleft hright hleft' hright' hreadLeft hreadRight hreadLeft'
          hreadRight' hshare
      · exact contains_congr hleft hright hright' hleft' hreadLeft hreadRight hreadRight'
          hreadLeft' (share_comm.trans hshare)

/-- Sizes as an item has them, one twice and as text. -/
def sizes : Value := .list [.int 38, .string " 40 ", .int 40]

theorem overlap_sizes :
    let left := [Value.int 38, .string " 40 ", .int 40]
    let right := [Value.string "44", .string "40"]
    let swapped := Value.list [.int 40, .int 38, .string " 40 "]
    sizes.toList = .ok left ∧ (Value.string "44, 40").toList = .ok right ∧
      Readable .int left ∧ Readable .int right ∧ Share .int left right ∧
      contains.outcome (.list .int) sizes (.string "44, 40") = .ok true ∧
      contains.outcome (.list .int) (.string "44, 40") swapped = .ok true := by
  have hleft : sizes.toList = .ok [.int 38, .string " 40 ", .int 40] := rfl
  have hright : (Value.string "44, 40").toList = .ok [.string "44", .string "40"] := by cbv
  have forty : (Value.string " 40 ").coerce .int = .ok (.int 40) := by rfl
  have other : (Value.string "40").coerce .int = .ok (.int 40) := by rfl
  have readLeft : Readable .int [.int 38, .string " 40 ", .int 40] := by
    refine List.forall_mem_cons.mpr ⟨⟨.int 38, rfl⟩, List.forall_mem_cons.mpr ⟨⟨_, forty⟩, ?_⟩⟩
    exact List.forall_mem_singleton.mpr ⟨.int 40, rfl⟩
  have readRight : Readable .int [.string "44", .string "40"] := by
    refine List.forall_mem_cons.mpr ⟨⟨.int 44, by rfl⟩, ?_⟩
    exact List.forall_mem_singleton.mpr ⟨_, other⟩
  have share : Share .int [.int 38, .string " 40 ", .int 40] [.string "44", .string "40"] :=
    ⟨.int 40, by simp, .string "40", by simp, .int 40, .int 40, rfl, other, by decide⟩
  obtain ⟨-, -, sets⟩ := overlap_laws (e := .int) hleft hright
  obtain ⟨⟨t, ht, -, hshare⟩, alike⟩ := sets readLeft readRight
  have found : t = true := hshare.mpr share
  obtain ⟨-, exchanged⟩ := alike (.list [.int 40, .int 38, .string " 40 "]) (.string "44, 40") _ _
    rfl hright (by simp; tauto) (fun b => Iff.rfl)
  exact ⟨hleft, hright, readLeft, readRight, share, found ▸ ht, exchanged.trans (found ▸ ht)⟩

end Comparison
end Shortlist
