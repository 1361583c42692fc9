import Shortlist.Proofs.Rule.Children
import Shortlist.Proofs.Rule.Misfit
import Shortlist.Proofs.Rule.WellBuilt
/-! Membership is equality tried on the values of a list in turn. A rule over the single
comparisons stops where the search stops, so the two agree on errors too. -/
namespace Shortlist

/-! ### Single comparisons -/

namespace Leaf

variable {leaf : Leaf} {s : Scopes}

/-- Opposite comparisons differ on a target that is there, and not in what they fail on. -/
theorem evaluate_opposite {c c' : Comparison} {target : Properties} {actual : Value}
    (opposite : ∀ ty actual expected, c'.outcome ty actual expected =
      (c.outcome ty actual expected).map (!·))
    (h : target.present? leaf.property = some actual) :
    leaf.evaluate c' target s = (leaf.evaluate c target s).map (!·) := by
  rw [evaluate_of_present h, evaluate_of_present h, opposite, mapError_map]

/-- The comparison of the same property with one value, on the type of elements. -/
def single (leaf : Leaf) (w : Value) : Leaf :=
  { leaf with type := leaf.type.element, operandType := leaf.type.element, operand := .literal w }

def singles (leaf : Leaf) (c : Comparison) (ws : List Value) : List Rule :=
  ws.map fun w => .compare c (leaf.single w)

theorem singles_ne_nil (leaf : Leaf) (c : Comparison) {ws : List Value} (hne : ws ≠ []) :
    leaf.singles c ws ≠ [] :=
  fun hnil => hne (List.map_eq_nil_iff.mp hnil)

end Leaf

namespace Rule

variable {leaf : Leaf} {s : Scopes} {actual : Value} {ws : List Value}

theorem evaluateAny_singles (h : (s.of leaf.domain).present? leaf.property = some actual)
    (ws : List Value) :
    evaluateAny s (leaf.singles .equal ws) =
      (Match.member leaf.type actual ws).mapError (EvalError.mk leaf.property) := by
  induction ws with
  | nil => rfl
  | cons w ws ih =>
      have target : (s.of leaf.domain).present? (leaf.single w).property = some actual := h
      have hfirst : (Rule.compare .equal (leaf.single w)).verdict s =
          (Match.equals leaf.type.element actual w).mapError (EvalError.mk leaf.property) :=
        Leaf.evaluate_of_present target .equal s
      rw [Leaf.singles, List.map_cons, evaluateAny_cons, hfirst, Match.member]
      cases Match.equals leaf.type.element actual w with
      | error e => rfl
      | ok found =>
          cases found with
          | true => rfl
          | false => exact ih

theorem singles_opposite (h : (s.of leaf.domain).present? leaf.property = some actual)
    (ws : List Value) :
    List.Forall₂ (fun r r' => r'.verdict s = (r.verdict s).map (!·))
      (leaf.singles .equal ws) (leaf.singles .notEqual ws) := by
  induction ws with
  | nil => exact .nil
  | cons w ws ih =>
      have target : (s.of leaf.domain).present? (leaf.single w).property = some actual := h
      exact .cons (Leaf.evaluate_opposite (fun _ _ _ => rfl) target) ih

theorem singles_of_absent (h : (s.of leaf.domain).present? leaf.property = none) (c : Comparison)
    (ws : List Value) : ∀ r ∈ leaf.singles c ws, r.verdict s = .ok false := by
  intro r hr
  obtain ⟨w, -, rfl⟩ := List.mem_map.mp hr
  have target : (s.of leaf.domain).present? (leaf.single w).property = none := h
  exact Leaf.evaluate_of_absent target c s

/-! ### Searches as rules over rules -/

theorem singles_wellBuilt {c single : Comparison} (hc : c ∈ [.isIn, .notIn])
    (hsingle : single ∈ [.equal, .notEqual]) (h : (Rule.compare c leaf).WellBuilt)
    (hoperand : leaf.operand = .literal (.list ws)) :
    ∀ r ∈ leaf.singles single ws, r.WellBuilt := by
  intro r hr
  obtain ⟨w, hw, rfl⟩ := List.mem_map.mp hr
  cases h with
  | compare hname htight hallowed hformed =>
      obtain ⟨el, hlist, helement⟩ : ∃ el, leaf.operandType = .list el ∧
          leaf.type.element = el.toValueType := by
        have hty := Comparison.operandType?_eq_some.mpr hallowed
        simp only [List.mem_cons, List.not_mem_nil, or_false] at hc
        rcases hc with rfl | rfl <;> exact Comparison.operandType_isIn hty
      have hcanonical : Canonical leaf.type.element w := by
        rw [hoperand, hlist] at hformed
        rw [helement]
        cases hformed with
        | literal hall _ =>
            cases hall with
            | list hall => exact hall w hw
      refine .compare hname htight (.equality hsingle ?_) ?_
      · simp only [Leaf.single, helement]
        cases el <;> decide
      · exact .literal hcanonical (Value.coerce_of_canonical hcanonical)

theorem verdict_isIn (hoperand : leaf.operand = .literal (.list ws)) (s : Scopes) :
    (Rule.compare .isIn leaf).verdict s = evaluateAny s (leaf.singles .equal ws) := by
  cases h : (s.of leaf.domain).present? leaf.property with
  | none =>
      rw [evaluateAny_of_false (singles_of_absent h .equal ws)]
      exact Leaf.evaluate_of_absent h .isIn s
  | some actual =>
      rw [evaluateAny_singles h]
      refine (Leaf.evaluate_of_present h .isIn s).trans ?_
      rw [hoperand]
      rfl

theorem verdict_notIn (hoperand : leaf.operand = .literal (.list ws)) (hne : ws ≠ [])
    (s : Scopes) :
    (Rule.compare .notIn leaf).verdict s = evaluateAll s (leaf.singles .notEqual ws) := by
  cases h : (s.of leaf.domain).present? leaf.property with
  | none =>
      -- Without a value the conjunction would pass where the search does not.
      rw [evaluateAll_of_false (leaf.singles_ne_nil .notEqual hne)
        (singles_of_absent h .notEqual ws)]
      exact Leaf.evaluate_of_absent h .notIn s
  | some actual =>
      rw [evaluateAll_of_opposite (singles_opposite h ws), ← verdict_isIn hoperand]
      exact Leaf.evaluate_opposite Comparison.outcome_notIn h

/-- Membership in a constant list is a choice among equalities, and its opposite rules all of them
out. These rules are well built, and have the verdict or the error of the search. -/
theorem verdict_membership {inherited : EntityKind} {d : Descriptor} {rule : Rule}
    (hrule : d.compile inherited = .ok rule) (hoperand : leaf.operand = .literal (.list ws))
    (hne : ws ≠ []) (s : Scopes) :
    ((.isIn, leaf) ∈ rule.leaves →
      let choice := Rule.combine .or leaf.domain (leaf.singles .equal ws)
      choice.WellBuilt ∧ (Rule.compare .isIn leaf).verdict s = choice.verdict s) ∧
    ((.notIn, leaf) ∈ rule.leaves →
      let exclusion := Rule.combine .and leaf.domain (leaf.singles .notEqual ws)
      exclusion.WellBuilt ∧ (Rule.compare .notIn leaf).verdict s = exclusion.verdict s) := by
  constructor
  · intro hleaf
    obtain ⟨d', domain, checked⟩ := d.leafChecked_of_mem_leaves hrule hleaf
    refine ⟨.combine (leaf.singles_ne_nil .equal hne) ?_, verdict_isIn hoperand s⟩
    exact singles_wellBuilt (by decide) (by decide) checked.wellBuilt hoperand
  · intro hleaf
    obtain ⟨d', domain, checked⟩ := d.leafChecked_of_mem_leaves hrule hleaf
    refine ⟨.combine (leaf.singles_ne_nil .notEqual hne) ?_, verdict_notIn hoperand hne s⟩
    exact singles_wellBuilt (by decide) (by decide) checked.wellBuilt hoperand

/-- A size that is read as a whole number, be it written as text. -/
def listedSize : Leaf where
  property := "size"
  domain := .item
  type := .list .int
  operandType := .list .int
  operand := .literal (.list [.int 38, .int 40])

def sizeDescriptor : Descriptor :=
  .combine .item "or"
    [.leaf .item "size" "in" "[]int" (.string "38, 40"),
      .leaf .item "size" "not_in" "[]int" (.list [.string "38", .int 40])]

def sizeScopes : Scopes where
  user := ∅
  item := .ofEntries [("size", .string " 40 ")]

theorem verdict_listed_size :
    let rule := Rule.combine .or .item [.compare .isIn listedSize, .compare .notIn listedSize]
    let ws := [Value.int 38, Value.int 40]
    sizeDescriptor.compile .item = .ok rule ∧ (.isIn, listedSize) ∈ rule.leaves ∧
      (.notIn, listedSize) ∈ rule.leaves ∧
      (Rule.compare .isIn listedSize).verdict sizeScopes =
        (Rule.combine .or .item (listedSize.singles .equal ws)).verdict sizeScopes ∧
      (Rule.compare .notIn listedSize).verdict sizeScopes =
        (Rule.combine .and .item (listedSize.singles .notEqual ws)).verdict sizeScopes := by
  have hrule : sizeDescriptor.compile .item =
      .ok (.combine .or .item [.compare .isIn listedSize, .compare .notIn listedSize]) := by rfl
  have hin : (.isIn, listedSize) ∈ (Rule.combine .or .item
      [.compare .isIn listedSize, .compare .notIn listedSize]).leaves := by
    simp [leaves, leavesAll]
  have hnot : (.notIn, listedSize) ∈ (Rule.combine .or .item
      [.compare .isIn listedSize, .compare .notIn listedSize]).leaves := by
    simp [leaves, leavesAll]
  have hoperand : listedSize.operand = .literal (.list [.int 38, .int 40]) := rfl
  obtain ⟨choice, exclusion⟩ :=
    verdict_membership hrule hoperand (List.cons_ne_nil _ _) sizeScopes
  exact ⟨hrule, hin, hnot, (choice hin).2, (exclusion hnot).2⟩

end Rule
end Shortlist
