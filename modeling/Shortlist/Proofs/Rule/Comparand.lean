import Shortlist.Proofs.Rule.Compiled
import Shortlist.Proofs.Value.Canonical
import Shortlist.Rule.Evaluate
/-! A comparison reads its two sides through their coercions alone, so an operand may as well be
coerced once, before the rule is first used. -/
namespace Shortlist

/-- No comparison on the type tells the two values apart. -/
def Value.AgreeOn (ty : ValueType) (a b : Value) : Prop := a.coerce ty = b.coerce ty

namespace Value

variable {a b v w : Value}

theorem AgreeOn.refl (ty : ValueType) (a : Value) : AgreeOn ty a a := rfl

theorem agreeOn_of_coerce {ty : ValueType} (h : v.coerce ty = .ok w) : AgreeOn ty v w :=
  h.trans (coerce_coerce h).symm

theorem AgreeOn.toText (h : AgreeOn .string a b) : a.toText = b.toText :=
  map_injective (fun _ _ => Value.string.inj) h

theorem AgreeOn.toInt (h : AgreeOn .int a b) : a.toInt = b.toInt :=
  map_injective (fun _ _ => Value.int.inj) h

theorem AgreeOn.toFloat (h : AgreeOn .float a b) : a.toFloat = b.toFloat :=
  map_injective (fun _ _ => Value.float.inj) h

theorem AgreeOn.toBool (h : AgreeOn .bool a b) : a.toBool = b.toBool :=
  map_injective (fun _ _ => Value.bool.inj) h

theorem toList_of_coerce {e : ScalarType} (h : v.coerce (.list e) = .ok w) :
    ∃ items ws, v.toList = .ok items ∧ w.toList = .ok ws ∧
      List.Forall₂ (AgreeOn e.toValueType) items ws := by
  obtain ⟨items, ws, hitems, hws, rfl⟩ := coerce_list_eq_ok.mp h
  refine ⟨items, ws, hitems, rfl, ?_⟩
  exact (coerceAll_eq_ok.mp hws).imp fun _ _ => agreeOn_of_coerce

end Value

open Value

namespace ValueType

theorem element_element (ty : ValueType) : ty.element.element = ty.element := by
  cases ty with
  | list e => cases e <;> rfl
  | string | int | float | bool => rfl

theorem element_of_isList_false {ty : ValueType} (h : ty.isList = false) : ty.element = ty := by
  cases ty with
  | list e => simp [isList] at h
  | string | int | float | bool => rfl

theorem element_of_scalar? {ty : ValueType} {e : ScalarType} (h : ty.scalar? = some e) :
    ty.element = e.toValueType := by
  cases ty with
  | bool => simp [scalar?] at h
  | list e' => cases h; rfl
  | string | int | float => cases h; rfl

end ValueType

namespace Match

variable {ty : ValueType} {a a' b b' : Value} {as as' bs bs' : List Value}

theorem equals_congr (ha : AgreeOn ty.element a a') (hb : AgreeOn ty.element b b') :
    equals ty a b = equals ty a' b' := by
  cases ty with
  | string => simp only [equals, ha.toText, hb.toText]
  | int => simp only [equals, ha.toInt, hb.toInt]
  | float => simp only [equals, ha.toFloat, hb.toFloat]
  | bool => simp only [equals, ha.toBool, hb.toBool]
  | list e =>
      cases e with
      | string => simp only [equals, ha.toText, hb.toText]
      | int => simp only [equals, ha.toInt, hb.toInt]
      | float => simp only [equals, ha.toFloat, hb.toFloat]

theorem ordering_congr (hty : ty.isNumeric) (ha : AgreeOn ty a a') (hb : AgreeOn ty b b') :
    ordering ty a b = ordering ty a' b' := by
  cases ty with
  | int => simp only [ordering, ha.toInt, hb.toInt]
  | float => simp only [ordering, ha.toFloat, hb.toFloat]
  | string | bool | list e => simp [ValueType.isNumeric] at hty

theorem member_congr (ha : AgreeOn ty.element a a')
    (hb : List.Forall₂ (AgreeOn ty.element) bs bs') : member ty a bs = member ty a' bs' := by
  induction hb with
  | nil => rfl
  | @cons b b' bs bs' hb _ ih =>
      have heq : equals ty.element a b = equals ty.element a' b' := by
        rw [← ValueType.element_element] at ha hb
        exact equals_congr ha hb
      simp only [member, heq, ih]

theorem intersects_congr (ha : List.Forall₂ (AgreeOn ty.element) as as')
    (hb : List.Forall₂ (AgreeOn ty.element) bs bs') :
    intersects ty as bs = intersects ty as' bs' := by
  induction ha with
  | nil => simp only [intersects]
  | cons ha _ ih => simp only [intersects, member_congr ha hb, ih]

end Match

namespace Comparison

variable {c : Comparison} {ty operandType : ValueType} {v w : Value}

theorem operandType_equal (hty : equal.operandType? ty = some operandType) :
    ty.element = ty ∧ operandType = ty := by
  cases hlist : ty.isList with
  | true => simp [operandType?, hlist] at hty
  | false =>
      simp only [operandType?, hlist, Bool.false_eq_true, if_false, Option.some.injEq] at hty
      exact ⟨ValueType.element_of_isList_false hlist, hty.symm⟩

theorem operandType_atLeast (hty : atLeast.operandType? ty = some operandType) :
    ty.isNumeric = true ∧ operandType = ty := by
  cases hnum : ty.isNumeric with
  | false => simp [operandType?, hnum] at hty
  | true =>
      simp only [operandType?, hnum, if_true, Option.some.injEq] at hty
      exact ⟨rfl, hty.symm⟩

theorem operandType_isIn (hty : isIn.operandType? ty = some operandType) :
    ∃ e, operandType = .list e ∧ ty.element = e.toValueType := by
  obtain ⟨e, he, rfl⟩ := Option.map_eq_some_iff.mp hty
  exact ⟨e, rfl, ValueType.element_of_scalar? he⟩

theorem operandType_contains (hty : contains.operandType? ty = some operandType) :
    ∃ e, operandType = .list e ∧ ty.element = e.toValueType := by
  cases ty with
  | list e =>
      cases hty
      exact ⟨e, rfl, rfl⟩
  | string | int | float | bool => simp [operandType?, ValueType.isList] at hty

theorem equals_coerced (hty : Comparison.equal.operandType? ty = some operandType)
    (hw : v.coerce operandType = .ok w) (actual : Value) :
    Match.equals ty actual v = Match.equals ty actual w := by
  obtain ⟨helement, rfl⟩ := operandType_equal hty
  have agree : AgreeOn operandType.element v w := by
    rw [helement]
    exact agreeOn_of_coerce hw
  exact Match.equals_congr (.refl _ _) agree

theorem ordering_coerced (hty : Comparison.atLeast.operandType? ty = some operandType)
    (hw : v.coerce operandType = .ok w) (actual : Value) :
    Match.ordering ty actual v = Match.ordering ty actual w := by
  obtain ⟨hnum, rfl⟩ := operandType_atLeast hty
  exact Match.ordering_congr hnum (.refl _ _) (agreeOn_of_coerce hw)

theorem toList_coerced (hlist : ∃ e, operandType = .list e ∧ ty.element = e.toValueType)
    (hw : v.coerce operandType = .ok w) :
    ∃ items ws, v.toList = .ok items ∧ w.toList = .ok ws ∧
      List.Forall₂ (AgreeOn ty.element) items ws := by
  obtain ⟨e, rfl, helement⟩ := hlist
  rw [helement]
  exact toList_of_coerce hw

/-- The verdict on an operand is the verdict on its coercion. -/
theorem outcome_coerced (hty : c.operandType? ty = some operandType)
    (hw : v.coerce operandType = .ok w) (actual : Value) :
    c.outcome ty actual v = c.outcome ty actual w := by
  have same (left : List Value) : List.Forall₂ (AgreeOn ty.element) left left :=
    List.forall₂_same.mpr fun _ _ => .refl _ _
  cases c with
  | equal => exact equals_coerced hty hw actual
  | notEqual => exact congrArg (Except.map _) (equals_coerced hty hw actual)
  | atLeast => exact congrArg (Except.map _) (ordering_coerced hty hw actual)
  | above => exact congrArg (Except.map _) (ordering_coerced hty hw actual)
  | atMost => exact congrArg (Except.map _) (ordering_coerced hty hw actual)
  | below => exact congrArg (Except.map _) (ordering_coerced hty hw actual)
  | isIn =>
      obtain ⟨items, ws, hv, hw, agree⟩ := toList_coerced (operandType_isIn hty) hw
      simp only [outcome, hv, hw, ok_bind, Match.member_congr (.refl _ actual) agree]
  | notIn =>
      obtain ⟨items, ws, hv, hw, agree⟩ := toList_coerced (operandType_isIn hty) hw
      simp only [outcome, hv, hw, ok_bind, Match.member_congr (.refl _ actual) agree]
  | contains =>
      obtain ⟨items, ws, hv, hw, agree⟩ := toList_coerced (operandType_contains hty) hw
      simp only [outcome, hv, hw, ok_bind, Match.intersects_congr (same _) agree]
  | notContains =>
      obtain ⟨items, ws, hv, hw, agree⟩ := toList_coerced (operandType_contains hty) hw
      simp only [outcome, hv, hw, ok_bind, Match.intersects_congr (same _) agree]

end Comparison

theorem Leaf.evaluate_of_present {leaf : Leaf} {target : Properties} {actual : Value}
    (h : target.present? leaf.property = some actual) (c : Comparison) (s : Scopes) :
    leaf.evaluate c target s =
      (c.outcome leaf.type actual (leaf.operand.resolve leaf.operandType s)).mapError
        (EvalError.mk leaf.property) := by
  simp only [evaluate, h]

theorem Leaf.evaluate_of_absent {leaf : Leaf} {target : Properties}
    (h : target.present? leaf.property = none) (c : Comparison) (s : Scopes) :
    leaf.evaluate c target s = .ok false := by
  simp only [evaluate, h]

theorem Leaf.evaluate_coerced {c : Comparison} {leaf : Leaf} {s : Scopes} {w : Value}
    (hty : c.operandType? leaf.type = some leaf.operandType)
    (hw : (leaf.operand.resolve leaf.operandType s).coerce leaf.operandType = .ok w)
    (target : Properties) :
    leaf.evaluate c target s = { leaf with operand := .literal w }.evaluate c target s := by
  simp only [evaluate, Operand.resolve]
  cases target.present? leaf.property with
  | none => rfl
  | some actual => exact congrArg (Except.mapError _) (Comparison.outcome_coerced hty hw actual)

theorem Operand.resolve_reference (ty : ValueType) (s : Scopes) (scope : EntityKind)
    (key : String) :
    (reference scope key).resolve ty s = ((s.of scope).present? key).getD (.zeroOf ty) := by
  simp only [resolve]
  cases (s.of scope).present? key with
  | none => rfl
  | some v => rfl

/-- In a compiled rule, a reference may be replaced by the coerced value of what it stands for:
the verdict and the error of the comparison stay what they are, on every target. -/
theorem Rule.evaluate_coerced_reference {inherited : EntityKind} {d : Descriptor} {rule : Rule}
    {c : Comparison} {leaf : Leaf} {scope : EntityKind} {key : String} {s : Scopes} {w : Value}
    (hrule : d.compile inherited = .ok rule)
    (hleaf : (c, leaf) ∈ rule.leaves)
    (hoperand : leaf.operand = .reference scope key)
    (hw : (((s.of scope).present? key).getD (.zeroOf leaf.operandType)).coerce leaf.operandType =
      .ok w)
    (target : Properties) :
    Rule.evaluate target s (.compare c leaf) =
      Rule.evaluate target s (.compare c { leaf with operand := .literal w }) := by
  obtain ⟨d', domain, checked⟩ := d.leafChecked_of_mem_leaves hrule hleaf
  rw [← Operand.resolve_reference, ← hoperand] at hw
  simp only [evaluate]
  exact Leaf.evaluate_coerced checked.operandType hw target

/-- Whether the tag of an item is among what the user likes. -/
def likedTag : Leaf where
  property := "tag"
  domain := .item
  type := .string
  operandType := .list .string
  operand := .reference .user "likes"

def likedTagDescriptor : Descriptor :=
  .combine .item "and" [.leaf .item "tag" "in" "string" (.string "user.likes")]

def likedTagScopes : Scopes where
  user := .ofEntries [("likes", .string "jazz, folk")]
  item := .ofEntries [("tag", .string "folk")]

theorem Rule.evaluate_liked_tag :
    let s := likedTagScopes
    let rule := Rule.combine .and .item [.compare .isIn likedTag]
    let w := Value.list [.string "jazz", .string "folk"]
    likedTagDescriptor.compile .item = .ok rule ∧ (.isIn, likedTag) ∈ rule.leaves ∧
      (((s.of .user).present? "likes").getD (.zeroOf (.list .string))).coerce (.list .string) =
        .ok w ∧
      Rule.evaluate s.item s (.compare .isIn likedTag) =
        Rule.evaluate s.item s (.compare .isIn { likedTag with operand := .literal w }) := by
  have hrule : likedTagDescriptor.compile .item =
      .ok (.combine .and .item [.compare .isIn likedTag]) := by rfl
  have hleaf : (.isIn, likedTag) ∈ (Rule.combine .and .item [.compare .isIn likedTag]).leaves := by
    simp [Rule.leaves, Rule.leavesAll]
  have likes : (likedTagScopes.of .user).present? "likes" = some (.string "jazz, folk") := by
    simp [likedTagScopes, Scopes.of, Properties.present?, Properties.ofEntries, Value.isNull]
  have split : (Value.string "jazz, folk").coerce (.list .string) =
      .ok (.list [.string "jazz", .string "folk"]) := by cbv
  have hw : (((likedTagScopes.of .user).present? "likes").getD
      (.zeroOf (.list .string))).coerce (.list .string) =
        .ok (.list [.string "jazz", .string "folk"]) := by
    rw [likes]
    exact split
  exact ⟨hrule, hleaf, hw,
    Rule.evaluate_coerced_reference hrule hleaf rfl hw likedTagScopes.item⟩

end Shortlist
