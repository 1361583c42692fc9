import Shortlist.Proofs.Rule.Grammar
import Shortlist.Proofs.Rule.Misfit
import Shortlist.Proofs.Rule.Replaced
import Shortlist.Proofs.Value.Numeric
/-! Rules about numbers under one numeric type and under the other. The type may decide the verdict
but not which properties are numbers. -/
namespace Shortlist
open Value

namespace Value

variable {v : Value} {e e' : ScalarType}

theorem coerces_list_congr (he : e.toValueType.isNumeric) (he' : e'.toValueType.isNumeric) :
    (∃ w, v.coerce (.list e') = .ok w) ↔ ∃ w, v.coerce (.list e) = .ok w := by
  simp only [coerces_list_iff, coerces_congr he he']

end Value

namespace Comparison

variable {c : Comparison} {ty ty' operandType operandType' : ValueType} {v actual expected : Value}

/-- On numbers a comparison reads its operand as a number, and a search reads it as a list of
them. -/
theorem operandType_of_isNumeric (hty : ty.isNumeric)
    (h : c.operandType? ty = some operandType) :
    (c ∉ [.isIn, .notIn, .contains, .notContains] ∧ operandType = ty) ∨
      (c ∈ [.isIn, .notIn] ∧ ∃ e : ScalarType, operandType = .list e ∧ ty = e.toValueType) := by
  cases operandType?_eq_some.mp h with
  | equality hc _ =>
      refine .inl ⟨?_, rfl⟩
      simp only [List.mem_cons, List.not_mem_nil, or_false] at hc
      obtain rfl | rfl := hc <;> decide
  | threshold hc _ =>
      refine .inl ⟨?_, rfl⟩
      simp only [List.mem_cons, List.not_mem_nil, or_false] at hc
      obtain rfl | rfl | rfl | rfl := hc <;> decide
  | overlap el _ => simp [ValueType.isNumeric] at hty
  | membership el hc hmem =>
      simp only [List.mem_cons, List.not_mem_nil, or_false] at hmem
      obtain rfl | rfl := hmem
      · exact .inr ⟨hc, el, rfl, rfl⟩
      · simp [ValueType.isNumeric] at hty

theorem mem_searches (hc : c ∈ [.isIn, .notIn]) :
    c ∈ [.isIn, .notIn, .contains, .notContains] := by
  simp only [List.mem_cons, List.not_mem_nil, or_false] at hc
  obtain rfl | rfl := hc <;> decide

/-- Both numeric types suit the same comparisons. -/
theorem exists_operandType (hty : ty.isNumeric) (hty' : ty'.isNumeric)
    (h : c.operandType? ty = some operandType) :
    ∃ operandType', c.operandType? ty' = some operandType' := by
  have scalar : ty'.isList = false ∧ ∃ e, ty'.scalar? = some e := by
    cases ty' with
    | int => exact ⟨rfl, .int, rfl⟩
    | float => exact ⟨rfl, .float, rfl⟩
    | string | bool | list => simp [ValueType.isNumeric] at hty'
  obtain ⟨hlist, e, he⟩ := scalar
  cases c with
  | equal | notEqual => exact ⟨ty', by simp [operandType?, hlist]⟩
  | isIn | notIn => exact ⟨.list e, by simp [operandType?, he]⟩
  | contains | notContains =>
      obtain ⟨hc, -⟩ | ⟨hc, -⟩ := operandType_of_isNumeric hty h
      · exact absurd (by decide) hc
      · exact absurd hc (by decide)
  | atLeast | above | atMost | below => exact ⟨ty', by simp [operandType?, hty']⟩

section
variable (hty : ty.isNumeric) (hty' : ty'.isNumeric) (h : c.operandType? ty = some operandType)
  (h' : c.operandType? ty' = some operandType')
include hty hty' h h'

theorem coerces_operand_congr :
    (∃ w, v.coerce operandType' = .ok w) ↔ ∃ w, v.coerce operandType = .ok w := by
  obtain ⟨hc, rfl⟩ | ⟨hc, e, rfl, rfl⟩ := operandType_of_isNumeric hty h
  · obtain ⟨-, rfl⟩ | ⟨hsearch, -⟩ := operandType_of_isNumeric hty' h'
    · exact coerces_congr hty hty'
    · exact absurd (mem_searches hsearch) hc
  · obtain ⟨hpair, -⟩ | ⟨-, e', rfl, rfl⟩ := operandType_of_isNumeric hty' h'
    · exact absurd (mem_searches hc) hpair
    · exact coerces_list_congr hty hty'

theorem coerce_zeroOf_congr : (zeroOf operandType).coerce operandType' = .ok (zeroOf operandType') := by
  obtain ⟨hc, rfl⟩ | ⟨hc, e, rfl, rfl⟩ := operandType_of_isNumeric hty h
  · obtain ⟨-, rfl⟩ | ⟨hsearch, -⟩ := operandType_of_isNumeric hty' h'
    · cases operandType with
      | int => cases operandType' with
          | int => rfl
          | float => rfl
          | string | bool | list => simp [ValueType.isNumeric] at hty'
      | float => cases operandType' with
          | int => exact congrArg (fun n => Except.ok (Value.int n)) (by decide : Number.truncate 0 = 0)
          | float => rfl
          | string | bool | list => simp [ValueType.isNumeric] at hty'
      | string | bool | list => simp [ValueType.isNumeric] at hty
    · exact absurd (mem_searches hsearch) hc
  · obtain ⟨hpair, -⟩ | ⟨-, e', rfl, rfl⟩ := operandType_of_isNumeric hty' h'
    · exact absurd (mem_searches hc) hpair
    · rfl

end

/-! ### Outcomes -/

/-- All comparisons but the searches coerce both sides and then compare. -/
theorem outcome_eq_coerced (hc : c ∉ [.isIn, .notIn, .contains, .notContains])
    (h : c.operandType? ty = some operandType) :
    ∃ test : Value → Value → Bool, ∀ a b, c.outcome ty a b = Match.coerced ty test a b := by
  have equality (h : equal.operandType? ty = some operandType) (f : Bool → Bool) (a b : Value) :
      (Match.equals ty a b).map f = Match.coerced ty (fun v w => f (Match.same v w)) a b := by
    rw [equals_coerces h, Match.coerced_map]
  have threshold (h : atLeast.operandType? ty = some operandType) (f : Option Ordering → Bool)
      (a b : Value) :
      (Match.ordering ty a b).map f = Match.coerced ty (fun v w => f (Match.order v w)) a b := by
    rw [Match.ordering_eq_coerced (operandType_atLeast h).1, Match.coerced_map]
  cases c with
  | equal => exact ⟨Match.same, fun a b => equals_coerces h⟩
  | notEqual => exact ⟨_, equality h (!·)⟩
  | atLeast => exact ⟨_, threshold h _⟩
  | above => exact ⟨_, threshold h _⟩
  | atMost => exact ⟨_, threshold h _⟩
  | below => exact ⟨_, threshold h _⟩
  | isIn | notIn | contains | notContains => simp at hc

theorem exists_outcome_iff (hc : c ∉ [.isIn, .notIn, .contains, .notContains])
    (h : c.operandType? ty = some operandType) :
    (∃ t, c.outcome ty actual expected = .ok t) ↔
      (∃ v, actual.coerce ty = .ok v) ∧ ∃ w, expected.coerce ty = .ok w := by
  obtain ⟨test, htest⟩ := outcome_eq_coerced hc h
  rw [htest]
  exact Match.exists_coerced_iff

theorem exists_search_iff {e : ScalarType} {items : List Value} (hc : c ∈ [.isIn, .notIn])
    (hitems : expected.toList = .ok items)
    (hread : (∃ v, actual.coerce e.toValueType = .ok v) →
      ∀ item ∈ items, ∃ w, item.coerce e.toValueType = .ok w) :
    (∃ t, c.outcome e.toValueType actual expected = .ok t) ↔
      items = [] ∨ ∃ v, actual.coerce e.toValueType = .ok v := by
  have found : isIn.outcome e.toValueType actual expected =
      Match.member e.toValueType actual items := by
    simp only [outcome, hitems, ok_bind]
  simp only [List.mem_cons, List.not_mem_nil, or_false] at hc
  obtain rfl | rfl := hc
  · rw [found]
    exact Match.exists_member_iff hread
  · rw [outcome_notIn, found, exists_map_ok_iff]
    exact Match.exists_member_iff hread

theorem search_of_no_list {err : CoercionError} (hc : c ∈ [.isIn, .notIn])
    (hlist : expected.toList = .error err) : c.outcome ty actual expected = .error err := by
  simp only [List.mem_cons, List.not_mem_nil, or_false] at hc
  obtain rfl | rfl := hc <;> simp only [outcome, hlist] <;> rfl

/-- A change of the numeric type makes no error and takes none away, as long as a search for a
number can read all it might be compared with. -/
theorem exists_outcome_congr (hty : ty.isNumeric) (hty' : ty'.isNumeric)
    (h : c.operandType? ty = some operandType) (h' : c.operandType? ty' = some operandType')
    (hsearch : c ∈ [.isIn, .notIn] → (∃ v, actual.coerce ty = .ok v) →
      ∀ items, expected.toList = .ok items → ∀ item ∈ items, ∃ w, item.coerce ty = .ok w) :
    (∃ t, c.outcome ty' actual expected = .ok t) ↔ ∃ t, c.outcome ty actual expected = .ok t := by
  obtain ⟨hc, rfl⟩ | ⟨hc, e, rfl, rfl⟩ := operandType_of_isNumeric hty h
  · rw [exists_outcome_iff hc h, exists_outcome_iff hc h', coerces_congr hty hty',
      coerces_congr hty hty']
  · obtain ⟨hpair, -⟩ | ⟨-, e', rfl, rfl⟩ := operandType_of_isNumeric hty' h'
    · exact absurd (mem_searches hc) hpair
    · cases hlist : expected.toList with
      | error err => rw [search_of_no_list hc hlist, search_of_no_list hc hlist]
      | ok items =>
          have hread := fun hactual => hsearch hc hactual items hlist
          have hread' : (∃ v, actual.coerce e'.toValueType = .ok v) →
              ∀ item ∈ items, ∃ w, item.coerce e'.toValueType = .ok w := fun hactual item hitem =>
            (coerces_congr hty hty').mpr (hread ((coerces_congr hty hty').mp hactual) item hitem)
          rw [exists_search_iff hc hlist hread, exists_search_iff hc hlist hread',
            coerces_congr hty hty']

theorem outcome_replaced (h : c.operandType? ty = some operandType) {w : Value}
    (hw : Replaced operandType expected w) (actual : Value) :
    c.outcome ty actual w = c.outcome ty actual expected := by
  cases hw with
  | kept => rfl
  | coerced hw => exact (outcome_coerced h hw actual).symm

theorem searchable_of_replaced (hty : ty.isNumeric) (h : c.operandType? ty = some operandType)
    {w : Value} (hw : Replaced operandType expected w) (hc : c ∈ [.isIn, .notIn])
    (hread : ∀ items, w.toList = .ok items → ∀ item ∈ items, ∃ u, item.coerce ty = .ok u) :
    ∀ items, expected.toList = .ok items → ∀ item ∈ items, ∃ u, item.coerce ty = .ok u := by
  cases hw with
  | kept => exact hread
  | coerced hw =>
      intro items hitems
      obtain ⟨hpair, -⟩ | ⟨-, e, rfl, rfl⟩ := operandType_of_isNumeric hty h
      · exact absurd (mem_searches hc) hpair
      · obtain ⟨items', hitems', hall⟩ := coerces_list_iff.mp ⟨w, hw⟩
        rw [hitems] at hitems'
        cases hitems'
        exact hall

end Comparison

/-! ### Leaves -/

namespace Operand

/-- Two operands that one value was compiled to for one type and for another. -/
inductive Retyped (ty ty' : ValueType) : Operand → Operand → Prop
  | reference (scope : EntityKind) (key : String) :
      Retyped ty ty' (.reference scope key) (.reference scope key)
  | literal {v w w' : Value} : v.coerce ty = .ok w → v.coerce ty' = .ok w' →
      Retyped ty ty' (.literal w) (.literal w')

variable {ty ty' : ValueType} {o o' : Operand}

theorem Retyped.reference_iff (h : Retyped ty ty' o o') {scope : EntityKind} {key : String} :
    o' = .reference scope key ↔ o = .reference scope key := by
  cases h with
  | reference scope key => exact Iff.rfl
  | literal hw hw' => simp

theorem Retyped.resolve (h : Retyped ty ty' o o')
    (hzero : (zeroOf ty).coerce ty' = .ok (zeroOf ty')) (s : Scopes) :
    ∃ v, Replaced ty v (o.resolve ty s) ∧ Replaced ty' v (o'.resolve ty' s) := by
  cases h with
  | @literal v w w' hw hw' => exact ⟨v, .coerced hw, .coerced hw'⟩
  | reference scope key =>
      rw [resolve_reference, resolve_reference]
      cases (s.of scope).present? key with
      | some v => exact ⟨v, .kept, .kept⟩
      | none => exact ⟨zeroOf ty, .kept, .coerced hzero⟩

end Operand

namespace Leaf

/-- Two comparisons of one property with one operand as numbers. -/
structure Retyped (c : Comparison) (leaf leaf' : Leaf) : Prop where
  property : leaf'.property = leaf.property
  domain : leaf'.domain = leaf.domain
  numeric : leaf.type.isNumeric = true
  numeric' : leaf'.type.isNumeric = true
  operandType : c.operandType? leaf.type = some leaf.operandType
  operandType' : c.operandType? leaf'.type = some leaf'.operandType
  operand : Operand.Retyped leaf.operandType leaf'.operandType leaf.operand leaf'.operand

variable {c : Comparison} {leaf leaf' : Leaf} {s : Scopes}

theorem targetType_of_isNumeric {ty : ValueType} (hty : ty.isNumeric) : c.targetType ty = ty := by
  cases ty with
  | int | float => cases c <;> rfl
  | string | bool | list => simp [ValueType.isNumeric] at hty

/-- The same properties are unreadable to both. -/
theorem Retyped.fits_iff (h : Retyped c leaf leaf') (s : Scopes) :
    leaf'.Fits c s ↔ leaf.Fits c s := by
  have target (v : Value) : (∃ w, v.coerce (c.targetType leaf'.type) = .ok w) ↔
      ∃ w, v.coerce (c.targetType leaf.type) = .ok w := by
    rw [targetType_of_isNumeric h.numeric, targetType_of_isNumeric h.numeric']
    exact coerces_congr h.numeric h.numeric'
  have reference (v : Value) : (∃ w, v.coerce leaf'.operandType = .ok w) ↔
      ∃ w, v.coerce leaf.operandType = .ok w :=
    Comparison.coerces_operand_congr h.numeric h.numeric' h.operandType h.operandType'
  constructor
  · intro fits
    refine ⟨fun v hv => (target v).mp (fits.target v ?_), fun scope key hop v hv =>
      (reference v).mp (fits.reference scope key (h.operand.reference_iff.mpr hop) v hv)⟩
    rw [h.property, h.domain]
    exact hv
  · intro fits
    refine ⟨fun v hv => (target v).mpr (fits.target v ?_), fun scope key hop v hv =>
      (reference v).mpr (fits.reference scope key (h.operand.reference_iff.mp hop) v hv)⟩
    rw [← h.property, ← h.domain]
    exact hv

/-- A number is searched for in a list that does not hold numbers only. Such a search may find it
before it meets what is no number. -/
structure SearchesMixed (c : Comparison) (leaf : Leaf) (s : Scopes) : Prop where
  search : c ∈ [.isIn, .notIn]
  target : ∃ actual, (s.of leaf.domain).present? leaf.property = some actual ∧
    ∃ v, actual.coerce leaf.type = .ok v
  list : ∃ items, (leaf.operand.resolve leaf.operandType s).toList = .ok items ∧
    ∃ item ∈ items, ∀ w, item.coerce leaf.type ≠ .ok w

theorem SearchesMixed.of_not (h : ¬ SearchesMixed c leaf s) {actual : Value}
    (hactual : (s.of leaf.domain).present? leaf.property = some actual) :
    c ∈ [.isIn, .notIn] → (∃ v, actual.coerce leaf.type = .ok v) →
      ∀ items, (leaf.operand.resolve leaf.operandType s).toList = .ok items →
        ∀ item ∈ items, ∃ w, item.coerce leaf.type = .ok w := by
  intro hc hread items hitems item hitem
  by_contra hbad
  exact h ⟨hc, ⟨actual, hactual, hread⟩, items, hitems, item, hitem, fun w hw => hbad ⟨w, hw⟩⟩

theorem Retyped.exists_verdict_iff (h : Retyped c leaf leaf') (hs : ¬ SearchesMixed c leaf s) :
    (∃ t, (Rule.compare c leaf').verdict s = .ok t) ↔
      ∃ t, (Rule.compare c leaf).verdict s = .ok t := by
  have hzero := Comparison.coerce_zeroOf_congr h.numeric h.numeric' h.operandType h.operandType'
  obtain ⟨v, hv, hv'⟩ := h.operand.resolve hzero s
  simp only [Rule.verdict, Rule.domain, Rule.evaluate]
  cases hpresent : (s.of leaf.domain).present? leaf.property with
  | none =>
      have hpresent' : (s.of leaf'.domain).present? leaf'.property = none := by
        rw [h.property, h.domain, hpresent]
      rw [evaluate_of_absent hpresent, evaluate_of_absent hpresent']
  | some actual =>
      have hpresent' : (s.of leaf'.domain).present? leaf'.property = some actual := by
        rw [h.property, h.domain, hpresent]
      -- Both operands were made from one value, which stands for either of them from here on.
      rw [evaluate_of_present hpresent, evaluate_of_present hpresent',
        Comparison.outcome_replaced h.operandType hv,
        Comparison.outcome_replaced h.operandType' hv']
      simp only [mapError_eq_ok]
      exact Comparison.exists_outcome_congr h.numeric h.numeric' h.operandType h.operandType'
        fun hc hactual => Comparison.searchable_of_replaced h.numeric h.operandType hv hc
          (SearchesMixed.of_not hs hpresent hc hactual)

end Leaf

/-! ### Descriptors -/

namespace Descriptor

variable {d : Descriptor} {c : Comparison} {leaf : Leaf} {domain : EntityKind} {word : String}
  {ty : ValueType}

theorem compileOperand_retyped {name : String} {t t' : ValueType} {v : Value} {o : Operand}
    (h : compileOperand name t v = .ok o)
    (hcoerces : ∀ u : Value, (∃ w, u.coerce t' = .ok w) ↔ ∃ w, u.coerce t = .ok w) :
    ∃ o', compileOperand name t' v = .ok o' ∧ Operand.Retyped t t' o o' := by
  simp only [compileOperand] at h ⊢
  cases hparse : Operand.parse v with
  | reference scope key =>
      simp only [hparse, Except.ok.injEq] at h
      exact ⟨o, congrArg Except.ok h, h ▸ .reference scope key⟩
  | literal u =>
      simp only [hparse] at h ⊢
      cases hw : u.coerce t with
      | error e => simp [hw] at h
      | ok w =>
          obtain ⟨w', hw'⟩ := (hcoerces u).mpr ⟨w, hw⟩
          simp only [hw, Except.ok.injEq] at h
          exact ⟨.literal w', by simp only [hw'], h ▸ .literal hw hw'⟩

theorem LeafChecked.retyped (checked : LeafChecked d c domain leaf) (hnumeric : leaf.type.isNumeric)
    (hword : ValueType.parse word = .ok ty) (hty : ty.isNumeric) :
    ∃ leaf', LeafChecked { d with type := word } c domain leaf' ∧ leaf.Retyped c leaf' := by
  obtain ⟨t', ht'⟩ := Comparison.exists_operandType hnumeric hty checked.operandType
  obtain ⟨v, hvalue, hoperand⟩ := checked.operand
  obtain ⟨o', ho', retyped⟩ := compileOperand_retyped hoperand fun u =>
    Comparison.coerces_operand_congr hnumeric hty checked.operandType ht'
  refine ⟨{ leaf with type := ty, operandType := t', operand := o' }, ?_, ?_⟩
  · exact ⟨checked.name, hword, ht', ⟨v, hvalue, ho'⟩, checked.domain⟩
  · exact ⟨rfl, rfl, hnumeric, hty, checked.operandType, ht', retyped⟩

theorem compile_retyped {inherited : EntityKind} (hd : d.compile inherited = .ok (.compare c leaf))
    (hnumeric : leaf.type.isNumeric) (hword : ValueType.parse word = .ok ty)
    (hty : ty.isNumeric) :
    ∃ leaf', { d with type := word }.compile inherited = .ok (.compare c leaf') ∧
      leaf.Retyped c leaf' := by
  cases compiled_of_compile hd with
  | compare hop hleaf =>
      obtain ⟨leaf', checked', retyped⟩ :=
        (leafChecked_of_compileLeaf hleaf).retyped hnumeric hword hty
      refine ⟨leaf', ?_, retyped⟩
      rw [compile_compare (d := { d with type := word }) inherited hop, checked'.compileLeaf]
      rfl

end Descriptor

theorem Rule.misfit_of_verdict {d : Descriptor} {inherited : EntityKind} {c : Comparison}
    {leaf : Leaf} {s : Scopes} {err : EvalError} (hd : d.compile inherited = .ok (.compare c leaf))
    (h : (Rule.compare c leaf).verdict s = .error err) : leaf.Misfit c s err := by
  obtain ⟨d', domain, checked⟩ := d.leafChecked_of_mem_leaves hd (List.mem_singleton_self _)
  exact Leaf.misfit_of_error checked h

/-- A value is a number to both numeric types or to neither. So a rule on numbers compiles under
either type, the same properties fit it, and whatever it errs on under one type does not fit it
under the other. It errs under both types or under neither, except that a search in a list which
does not hold numbers only may be over before it meets one that is none. The decimal text of an
integer, with any blanks around it, is read as that very integer. -/
theorem Value.numeric_laws :
    (∀ v : Value, (∃ n, v.toInt = .ok n) ↔ ∃ x, v.toFloat = .ok x) ∧
    (∀ (d : Descriptor) (inherited : EntityKind) (c : Comparison) (leaf : Leaf) (word : String)
      (ty : ValueType), d.compile inherited = .ok (.compare c leaf) → leaf.type.isNumeric →
      ValueType.parse word = .ok ty → ty.isNumeric →
      ∃ leaf', { d with type := word }.compile inherited = .ok (.compare c leaf') ∧
        (∀ s, leaf'.Fits c s ↔ leaf.Fits c s) ∧
        (∀ s err, (Rule.compare c leaf').verdict s = .error err → ¬ leaf.Fits c s) ∧
        ∀ s, ¬ leaf.SearchesMixed c s →
          ((∃ err, (Rule.compare c leaf').verdict s = .error err) ↔
            ∃ err, (Rule.compare c leaf).verdict s = .error err)) ∧
    ∀ (n : Int64) (before after : String), Text.Blank before → Text.Blank after →
      (Value.string (before ++ int64Text n ++ after)).toInt = .ok n := by
  refine ⟨exists_toInt_iff, ?retyped, fun n before after => toInt_int64Text n⟩
  case retyped =>
    intro d inherited c leaf word ty hd hnumeric hword hty
    obtain ⟨leaf', hd', retyped⟩ := Descriptor.compile_retyped hd hnumeric hword hty
    refine ⟨leaf', hd', retyped.fits_iff, fun s err herr => ?_, fun s hs => ?_⟩
    · rw [← retyped.fits_iff]
      exact fun fits => fits.not_misfit (Rule.misfit_of_verdict hd' herr)
    · rw [exists_error_iff, exists_error_iff, retyped.exists_verdict_iff hs]

/-- Whether the rating of the item is one of those the user gives. -/
def ratedAlike (type operandType : ValueType) : Leaf where
  property := "rating"
  domain := .item
  type
  operandType
  operand := .reference .user "ratings"

/-- One of the ratings is not a number. -/
def mixedRatings : Value := .list [.int 4, .string "none"]

def mixedRatingsScopes : Scopes where
  user := .ofEntries [("ratings", mixedRatings)]
  item := .ofEntries [("rating", .string "4.5")]

/-- The same rule under one numeric type and under the other. The integer part of the rating is
found at once, the rating itself is searched for up to the word. -/
theorem Rule.verdict_rated_alike :
    let d (type : String) := Descriptor.leaf .item "rating" "in" type (.string "user.ratings")
    (d "int").compile .item = .ok (.compare .isIn (ratedAlike .int (.list .int))) ∧
      (d "float").compile .item = .ok (.compare .isIn (ratedAlike .float (.list .float))) ∧
      (Rule.compare .isIn (ratedAlike .int (.list .int))).verdict mixedRatingsScopes = .ok true ∧
      (Rule.compare .isIn (ratedAlike .float (.list .float))).verdict mixedRatingsScopes =
        .error ⟨"rating", .unparsable .float "none"⟩ := by
  have rating : mixedRatingsScopes.item.present? "rating" = some (.string "4.5") := by
    simp [mixedRatingsScopes, Properties.present?, Properties.ofEntries, Value.isNull]
  have ratings (ty : ValueType) :
      (Operand.reference .user "ratings").resolve ty mixedRatingsScopes = mixedRatings := by
    have given : (mixedRatingsScopes.of .user).present? "ratings" = some mixedRatings := by
      simp [mixedRatingsScopes, mixedRatings, Scopes.of, Properties.present?,
        Properties.ofEntries, Value.isNull]
    rw [Operand.resolve_reference, given, Option.getD_some]
  have found : Match.member .int (.string "4.5") [.int 4, .string "none"] = .ok true := by
    decide +kernel
  have missed : Match.member .float (.string "4.5") [.int 4, .string "none"] =
      .error (.unparsable .float "none") := by
    decide +kernel
  refine ⟨by rfl, by rfl, ?_, ?_⟩
  · rw [Rule.verdict, Rule.evaluate, Leaf.evaluate_of_present rating]
    simp only [ratedAlike, ratings, Comparison.outcome, mixedRatings, Value.toList, ok_bind, found]
    rfl
  · rw [Rule.verdict, Rule.evaluate, Leaf.evaluate_of_present rating]
    simp only [ratedAlike, ratings, Comparison.outcome, mixedRatings, Value.toList, ok_bind, missed]
    rfl

end Shortlist
