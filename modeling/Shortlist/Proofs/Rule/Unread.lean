import Shortlist.Plan
import Shortlist.Proofs.Rule.Misfit
/-! Targets that are not of the type they are read as. A comparison that reads such a target errs.
A search reads it element by element and no further than it has to, so the verdict may be there
before the part that does not fit is met. -/
namespace Shortlist
open Value

variable {source : CoercionError}

namespace Match

variable {ty : ValueType} {a b : Value} {before after right : List Value}

theorem coerced_of_left_error {β : Type} {test : Value → Value → β}
    (h : a.coerce ty = .error source) : coerced ty test a b = .error source := by
  simp only [coerced, h]
  rfl

theorem member_of_unreadable (h : a.coerce ty.element = .error source) (hne : right ≠ []) :
    member ty a right = .error source := by
  cases right with
  | nil => exact absurd rfl hne
  | cons b bs =>
      have hequals : equals ty.element a b = .error source := by
        rw [equals_eq_coerced, ValueType.element_element]
        exact coerced_of_left_error h
      simp only [member, hequals]
      rfl

theorem intersects_append (ty : ValueType) (as bs right : List Value) :
    intersects ty (as ++ bs) right = (do
      if ← intersects ty as right then return true
      intersects ty bs right) := by
  induction as with
  | nil => rfl
  | cons a as ih =>
      simp only [List.cons_append, intersects, ih]
      cases member ty a right with
      | error e => rfl
      | ok found => cases found <;> rfl

/-- An element that cannot be read is passed over only if one before it is in the other list. -/
theorem intersects_of_unreadable {bad : Value} (h : bad.coerce ty.element = .error source)
    (hne : right ≠ []) {t : Bool} :
    intersects ty (before ++ bad :: after) right = .ok t ↔
      intersects ty before right = .ok true ∧ t = true := by
  -- As there is something to look for, the search does not get past the element.
  have stop : intersects ty (bad :: after) right = .error source := by
    simp only [intersects, member_of_unreadable h hne]
    rfl
  rw [intersects_append, bind_eq_ok]
  constructor
  · rintro ⟨found, hfound, hrest⟩
    cases found with
    | true => exact ⟨hfound, (Except.ok.inj hrest).symm⟩
    | false =>
        simp only [Bool.false_eq_true, if_false, stop] at hrest
        cases hrest
  · rintro ⟨hfound, rfl⟩
    exact ⟨true, hfound, rfl⟩

end Match

/-! ### Verdicts without the target -/

namespace Comparison

/-- What a search can say of a target that it has not read to the end. There is nothing to look
for, or an element before the first one that does not fit has been found. -/
inductive Prejudged (ty : ValueType) (actual expected : Value) : Comparison → Bool → Prop
  | noneListed : expected.toList = .ok [] → Prejudged ty actual expected .isIn false
  | noneShared {left : List Value} :
      actual.toList = .ok left → expected.toList = .ok [] →
      Prejudged ty actual expected .contains false
  | shared {before after right : List Value} {bad : Value} {e : CoercionError} :
      actual.toList = .ok (before ++ bad :: after) →
      (∀ v ∈ before, ∃ w, v.coerce ty.element = .ok w) → bad.coerce ty.element = .error e →
      expected.toList = .ok right → Match.intersects ty before right = .ok true →
      Prejudged ty actual expected .contains true
  | notIn {t : Bool} : Prejudged ty actual expected .isIn t →
      Prejudged ty actual expected .notIn (!t)
  | notContains {t : Bool} : Prejudged ty actual expected .contains t →
      Prejudged ty actual expected .notContains (!t)

variable {c : Comparison} {ty operandType : ValueType} {actual expected : Value} {t : Bool}

theorem isIn_of_unreadable (h : actual.coerce ty.element = .error source) :
    Comparison.isIn.outcome ty actual expected = .ok t ↔
      Prejudged ty actual expected .isIn t := by
  constructor
  · intro hok
    obtain ⟨among, hamong, hmember⟩ := bind_eq_ok.mp hok
    cases among with
    | nil =>
        cases hmember
        exact .noneListed hamong
    | cons v vs =>
        rw [Match.member_of_unreadable h (List.cons_ne_nil v vs)] at hmember
        cases hmember
  · intro early
    cases early with
    | noneListed hnone => exact bind_eq_ok.mpr ⟨[], hnone, rfl⟩

theorem contains_of_unreadable {el : ScalarType} (h : actual.coerce (.list el) = .error source) :
    Comparison.contains.outcome (.list el) actual expected = .ok t ↔
      Prejudged (.list el) actual expected .contains t := by
  simp only [outcome, bind_eq_ok]
  constructor
  · rintro ⟨left, hleft, right, hright, hfound⟩
    cases right with
    | nil =>
        rw [Match.intersects_nil] at hfound
        cases hfound
        exact .noneShared hleft hright
    | cons r right =>
        cases coerce_list_eq_error.mp h with
        | inl hlist =>
            rw [hleft] at hlist
            cases hlist
        | inr hitems =>
            obtain ⟨items, hitems, hall⟩ := hitems
            obtain rfl : left = items := Except.ok.inj (hleft.symm.trans hitems)
            obtain ⟨before, bad, after, rfl, hbefore, hbad⟩ := coerceAll_eq_error.mp hall
            rw [Match.intersects_of_unreadable hbad (List.cons_ne_nil r right)] at hfound
            obtain ⟨hshared, rfl⟩ := hfound
            exact .shared hleft hbefore hbad hright hshared
  · intro early
    cases early with
    | noneShared hleft hright =>
        exact ⟨_, hleft, [], hright, Match.intersects_nil _ _⟩
    | @shared before after right bad e hleft hbefore hbad hright hfound =>
        refine ⟨_, hleft, right, hright, ?_⟩
        rw [Match.intersects_append, hfound]
        rfl

theorem prejudged_notIn : Prejudged ty actual expected .notIn t ↔
    ∃ u, Prejudged ty actual expected .isIn u ∧ (!u) = t := by
  constructor
  · intro h
    cases h with
    | notIn early => exact ⟨_, early, rfl⟩
  · rintro ⟨u, early, rfl⟩
    exact .notIn early

theorem prejudged_notContains : Prejudged ty actual expected .notContains t ↔
    ∃ u, Prejudged ty actual expected .contains u ∧ (!u) = t := by
  constructor
  · intro h
    cases h with
    | notContains early => exact ⟨_, early, rfl⟩
  · rintro ⟨u, early, rfl⟩
    exact .notContains early

/-- Equality and thresholds read the target first of all. -/
theorem outcome_of_misfit (hc : c ∉ [.isIn, .notIn, .contains, .notContains])
    (hty : c.operandType? ty = some operandType)
    (h : actual.coerce (c.targetType ty) = .error source) :
    c.outcome ty actual expected = .error source := by
  have equality (hscalar : equal.operandType? ty = some operandType)
      (h : actual.coerce ty = .error source) :
      Match.equals ty actual expected = .error source := by
    rw [equals_coerces hscalar]
    exact Match.coerced_of_left_error h
  have threshold (hnumeric : atLeast.operandType? ty = some operandType)
      (h : actual.coerce ty = .error source) :
      Match.ordering ty actual expected = .error source := by
    rw [Match.ordering_eq_coerced (operandType_atLeast hnumeric).1]
    exact Match.coerced_of_left_error h
  cases c with
  | equal => exact equality hty h
  | notEqual => exact map_eq_error.mpr (equality hty h)
  | atLeast => exact map_eq_error.mpr (threshold hty h)
  | above => exact map_eq_error.mpr (threshold hty h)
  | atMost => exact map_eq_error.mpr (threshold hty h)
  | below => exact map_eq_error.mpr (threshold hty h)
  | isIn | notIn | contains | notContains => simp at hc

theorem outcome_of_unreadable (hty : c.operandType? ty = some operandType)
    (h : actual.coerce (c.targetType ty) = .error source) :
    c.outcome ty actual expected = .ok t ↔ c.Prejudged ty actual expected t := by
  have overlap (hlist : contains.operandType? ty = some operandType)
      (h : actual.coerce ty = .error source) (t : Bool) :
      contains.outcome ty actual expected = .ok t ↔ contains.Prejudged ty actual expected t := by
    cases ty with
    | list el => exact contains_of_unreadable h
    | string | int | float | bool => simp [operandType?, ValueType.isList] at hlist
  cases c with
  | equal | notEqual | atLeast | above | atMost | below =>
      rw [outcome_of_misfit (by decide) hty h]
      refine iff_of_false (by simp) fun early => ?_
      cases early
  | isIn => exact isIn_of_unreadable h
  | notIn =>
      simp only [outcome_notIn, map_eq_ok, prejudged_notIn, isIn_of_unreadable h]
  | contains => exact overlap hty h t
  | notContains =>
      simp only [outcome_notContains, map_eq_ok, prejudged_notContains, overlap hty h]

end Comparison

/-! ### Compiled rules -/

/-- A comparison errs on a target that is there and not of the type it is read as, unless it is
one of the searches and has its verdict before it reads so far. The error is that of a side, and
of the target if no search is made. -/
theorem Rule.evaluate_unreadable {inherited : EntityKind} {d : Descriptor} {rule : Rule}
    {c : Comparison} {leaf : Leaf} {target : Properties} {s : Scopes} {actual : Value}
    (hrule : d.compile inherited = .ok rule)
    (hleaf : (c, leaf) ∈ rule.leaves)
    (hpresent : target.present? leaf.property = some actual)
    (hactual : actual.coerce (c.targetType leaf.type) = .error source) :
    (∀ t, Rule.evaluate target s (.compare c leaf) = .ok t ↔
      c.Prejudged leaf.type actual (leaf.operand.resolve leaf.operandType s) t) ∧
    (∀ err, Rule.evaluate target s (.compare c leaf) = .error err →
      err.property = leaf.property ∧ (err.source = source ∨
        (leaf.operand.resolve leaf.operandType s).coerce leaf.operandType = .error err.source)) ∧
    (c ∉ [.isIn, .notIn, .contains, .notContains] →
      Rule.evaluate target s (.compare c leaf) = .error ⟨leaf.property, source⟩) := by
  obtain ⟨d', domain, checked⟩ := d.leafChecked_of_mem_leaves hrule hleaf
  simp only [Rule.evaluate, Leaf.evaluate_of_present hpresent]
  refine ⟨fun t => ?_, fun err herr => ?_, fun hc => ?_⟩
  · rw [mapError_eq_ok]
    exact Comparison.outcome_of_unreadable checked.operandType hactual
  · obtain ⟨cause, hcause, rfl⟩ := mapError_eq_error.mp herr
    refine ⟨rfl, ?_⟩
    cases Comparison.error_of_outcome checked.operandType hcause with
    | inl htarget => exact .inl (Except.error.inj (htarget.symm.trans hactual))
    | inr hoperand => exact .inr hoperand
  · rw [Comparison.outcome_of_misfit hc checked.operandType hactual]
    rfl

/-- Whether the item has a tag that the user likes. -/
def likedTags : Leaf where
  property := "tags"
  domain := .item
  type := .list .string
  operandType := .list .string
  operand := .reference .user "likes"

/-- The second tag is not text. -/
def mixedTags : Value := .list [.string "folk", .list []]

def mixedTagsScopes : Scopes where
  user := .ofEntries [("likes", .string "jazz, folk")]
  item := .ofEntries [("tags", mixedTags)]

theorem Rule.evaluate_mixed_tags :
    let s := mixedTagsScopes
    let rule := Rule.compare .contains likedTags
    (Descriptor.leaf .item "tags" "contains" "[]string" (.string "user.likes")).compile .item =
        .ok rule ∧
      (.contains, likedTags) ∈ rule.leaves ∧ s.item.present? "tags" = some mixedTags ∧
      mixedTags.coerce (Comparison.contains.targetType (.list .string)) =
        .error (.unsupported .string .list) ∧
      Rule.evaluate s.item s rule = .ok true := by
  have hrule : (Descriptor.leaf .item "tags" "contains" "[]string" (.string "user.likes")).compile
      .item = .ok (.compare .contains likedTags) := by rfl
  have hleaf : (.contains, likedTags) ∈ (Rule.compare .contains likedTags).leaves :=
    List.mem_singleton_self _
  have hpresent : mixedTagsScopes.item.present? "tags" = some mixedTags := by
    simp [mixedTagsScopes, mixedTags, Properties.present?, Properties.ofEntries, Value.isNull]
  have hactual : mixedTags.coerce (Comparison.contains.targetType (.list .string)) =
      .error (.unsupported .string .list) := by rfl
  have hlikes : (likedTags.operand.resolve likedTags.operandType mixedTagsScopes).toList =
      .ok [.string "jazz", .string "folk"] := by
    have likes : (mixedTagsScopes.of .user).present? "likes" = some (.string "jazz, folk") := by
      simp [mixedTagsScopes, Scopes.of, Properties.present?, Properties.ofEntries, Value.isNull]
    simp only [likedTags, Operand.resolve_reference, likes]
    cbv
  have early : Comparison.contains.Prejudged (.list .string) mixedTags
      (likedTags.operand.resolve likedTags.operandType mixedTagsScopes) true := by
    have split : mixedTags.toList = .ok ([.string "folk"] ++ .list [] :: []) := rfl
    refine .shared split ?_ rfl hlikes (by rfl)
    exact List.forall_mem_singleton.mpr ⟨.string "folk", rfl⟩
  exact ⟨hrule, hleaf, hpresent, hactual,
    ((Rule.evaluate_unreadable hrule hleaf hpresent hactual).1 true).mpr early⟩

/-- Whether the tag of the item is not blocked by the user. -/
def blockedTag : Leaf where
  property := "tag"
  domain := .item
  type := .string
  operandType := .list .string
  operand := .reference .user "blocked"

def tagLists : Item := Item.withProperties { id := "i1" } (.ofEntries [("tag", .list [])])

/-- A list is not text, but a user who blocks nothing gets the item. -/
theorem Plan.judge_blocked_tag :
    let p : Plan := { itemRules := [.compare .notIn blockedTag] }
    let s : Scopes := ⟨(User.new "u1").properties, tagLists.features⟩
    Plan.compile [.leaf .item "tag" "not_in" "string" (.string "user.blocked")] = .ok p ∧
      s.item.present? "tag" = some (.list []) ∧
      (Value.list []).coerce (Comparison.notIn.targetType .string) =
        .error (.unsupported .string .list) ∧
      Rule.evaluate s.item s (.compare .notIn blockedTag) = .ok true ∧
      (p.judge (User.new "u1") tagLists).1 = true := by
  have hfeatures : tagLists.features.present? "tag" = some (.list []) := by
    simp [tagLists, Item.features, Item.exported, Item.withProperties, Item.properties,
      Store.setMany, Properties.present?, Properties.getElem?_overlay, Properties.ofEntries,
      Value.isNull]
  have hblocked : (User.new "u1").properties.present? "blocked" = none := by
    simp [User.new, User.properties, Properties.present?]
  have hoperand : blockedTag.operand.resolve blockedTag.operandType
      ⟨(User.new "u1").properties, tagLists.features⟩ = .list [] := by
    simp only [blockedTag, Operand.resolve_reference, Scopes.of, hblocked]
    rfl
  have target : tagLists.features.present? blockedTag.property = some (.list []) := hfeatures
  have heval : Rule.evaluate tagLists.features ⟨(User.new "u1").properties, tagLists.features⟩
      (.compare .notIn blockedTag) = .ok true := by
    rw [Rule.evaluate, Leaf.evaluate_of_present target, hoperand]
    rfl
  have hverdict : (Rule.compare .notIn blockedTag).verdict
      ⟨(User.new "u1").properties, tagLists.features⟩ = .ok true := heval
  have hall := Rule.evaluateAll_eq_true.mpr (List.forall_mem_singleton.mpr hverdict)
  refine ⟨by rfl, hfeatures, rfl, heval, ?_⟩
  simp only [Plan.judge, Plan.isEmpty, Plan.accepts, Plan.evaluate, hall]
  rfl

end Shortlist
