import Shortlist.Proofs.Plan.Compilation
import Shortlist.Proofs.Rule.Misfit
/-! Evaluating a compiled plan. It gives a verdict on all properties that are absent, null or of
the types the plan reads them as, and otherwise errs on one that is not. -/
namespace Shortlist

namespace Plan

/-- The comparisons of a plan at every depth. -/
def leaves (p : Plan) : List (Comparison × Leaf) := Rule.leavesAll p.rules

theorem leafChecked_of_mem_leaves {ds : List Descriptor} {p : Plan} {c : Comparison} {leaf : Leaf}
    (hp : compile ds = .ok p) (hleaf : (c, leaf) ∈ p.leaves) :
    ∃ d domain, Descriptor.LeafChecked d c domain leaf := by
  obtain ⟨r, hr, hleaf⟩ := Rule.mem_leavesAll.mp hleaf
  obtain ⟨d, -, hd⟩ := (mem_rules_of_compile hp r).mp hr
  exact d.leafChecked_of_mem_leaves hd hleaf

theorem error_of_evaluate {p : Plan} {s : Scopes} {err : EvalError}
    (h : p.evaluate s = .error err) :
    ∃ q ∈ p.leaves, q.2.evaluate q.1 (s.of q.2.domain) s = .error err := by
  have hrule : ∃ r ∈ p.rules, r.verdict s = .error err := by
    simp only [Plan.rules, List.mem_append]
    obtain huser | ⟨passed, -, hitem⟩ := bind_eq_error.mp h
    · obtain ⟨r, hr, herr⟩ := Rule.error_of_evaluateAll huser
      exact ⟨r, .inl hr, herr⟩
    · cases passed with
      | false => cases hitem
      | true =>
          obtain ⟨r, hr, herr⟩ := Rule.error_of_evaluateAll hitem
          exact ⟨r, .inr hr, herr⟩
  obtain ⟨r, hr, herr⟩ := hrule
  obtain ⟨q, hq, hleaf⟩ := r.error_of_verdict herr
  exact ⟨q, Rule.mem_leavesAll.mpr ⟨r, hr, hq⟩, hleaf⟩

/-- A compiled plan fails only on a property that is there and is not of the type it is read as.
The constants of the plan never are the cause. -/
theorem evaluate_of_fits {ds : List Descriptor} {p : Plan} (hp : compile ds = .ok p) (s : Scopes) :
    ((∀ q ∈ p.leaves, q.2.Fits q.1 s) → ∃ admitted, p.evaluate s = .ok admitted) ∧
    (∀ err, p.evaluate s = .error err → ∃ q ∈ p.leaves, q.2.Misfit q.1 s err) ∧
    ∀ q ∈ p.leaves, ∀ v, q.2.operand = .literal v → ∀ err,
      q.2.evaluate q.1 (s.of q.2.domain) s = .error err →
        ∃ actual, (s.of q.2.domain).present? q.2.property = some actual ∧
          actual.coerce (q.1.targetType q.2.type) = .error err.source := by
  have cause : ∀ q ∈ p.leaves, ∀ err, q.2.evaluate q.1 (s.of q.2.domain) s = .error err →
      q.2.Misfit q.1 s err := by
    rintro ⟨c, leaf⟩ hq err herr
    obtain ⟨d, domain, checked⟩ := leafChecked_of_mem_leaves hp hq
    exact Leaf.misfit_of_error checked herr
  have failure : ∀ err, p.evaluate s = .error err → ∃ q ∈ p.leaves, q.2.Misfit q.1 s err := by
    intro err herr
    obtain ⟨q, hq, hleaf⟩ := error_of_evaluate herr
    exact ⟨q, hq, cause q hq err hleaf⟩
  refine ⟨fun fits => ?_, failure, fun q hq v hliteral err herr => ?_⟩
  · cases h : p.evaluate s with
    | ok admitted => exact ⟨admitted, rfl⟩
    | error err =>
        obtain ⟨q, hq, misfit⟩ := failure err h
        exact absurd misfit (fits q hq).not_misfit
  · cases cause q hq err herr with
    | target hpresent hcoerce => exact ⟨_, hpresent, hcoerce⟩
    | reference hreference => rw [hliteral] at hreference; cases hreference

/-- What is cheap or on the user's list, and not from some shops. -/
def offerDescriptors : List Descriptor :=
  [.combine .item "or"
    [.leaf .item "price" "less" "int" (.string "user.budget"),
      .leaf .user "tags" "contains" "[]string" (.string "sale, new")],
    .leaf .item "shop" "not_in" "[]int" (.list [.int 3, .string " 5 "])]

def offerPlan : Plan where
  itemRules :=
    [.combine .or .item
      [.compare .atMost
        { property := "price", domain := .item, type := .int, operandType := .int
          operand := .reference .user "budget" },
        .compare .contains
        { property := "tags", domain := .user, type := .list .string, operandType := .list .string
          operand := .literal (.list [.string "sale", .string "new"]) }],
      .compare .notIn
        { property := "shop", domain := .item, type := .list .int, operandType := .list .int
          operand := .literal (.list [.int 3, .int 5]) }]

def offerScopes : Scopes where
  user := .ofEntries [("budget", .null), ("tags", .string "books, sale")]
  item := .ofEntries [("price", .string "12"), ("shop", .int 4)]

theorem offerPlan_evaluates :
    compile offerDescriptors = .ok offerPlan ∧
      (∀ q ∈ offerPlan.leaves, q.2.Fits q.1 offerScopes) ∧
      ∃ admitted, offerPlan.evaluate offerScopes = .ok admitted := by
  have hp : compile offerDescriptors = .ok offerPlan := by rfl
  have budget : (offerScopes.of .user).present? "budget" = none := by
    simp [offerScopes, Scopes.of, Properties.ofEntries, Properties.present?_insert, Value.isNull]
  have price : (offerScopes.of .item).present? "price" = some (.string "12") := by
    simp [offerScopes, Scopes.of, Properties.ofEntries, Properties.present?_insert, Value.isNull]
  have tags : (offerScopes.of .user).present? "tags" = some (.string "books, sale") := by
    simp [offerScopes, Scopes.of, Properties.ofEntries, Properties.present?_insert, Value.isNull]
  have shop : (offerScopes.of .item).present? "shop" = some (.int 4) := by
    simp [offerScopes, Scopes.of, Properties.ofEntries, Properties.present?_insert, Value.isNull]
  have twelve : (Value.string "12").coerce .int = .ok (.int 12) := by rfl
  have split : (Value.string "books, sale").coerce (.list .string) =
      .ok (.list [.string "books", .string "sale"]) := by rfl
  have fits : ∀ q ∈ offerPlan.leaves, q.2.Fits q.1 offerScopes := by
    simp only [offerPlan, leaves, Plan.rules, Rule.leavesAll, Rule.leaves, List.nil_append,
      List.append_nil, List.cons_append, List.forall_mem_cons]
    refine ⟨⟨fun v hv => ?_, fun scope key hop v hv => ?_⟩,
      ⟨fun v hv => ?_, fun scope key hop => ?_⟩, ⟨fun v hv => ?_, fun scope key hop => ?_⟩, ?_⟩
    · cases price.symm.trans hv
      exact ⟨_, twelve⟩
    · cases hop
      cases budget.symm.trans hv
    · cases tags.symm.trans hv
      exact ⟨_, split⟩
    · cases hop
    · cases shop.symm.trans hv
      exact ⟨.int 4, rfl⟩
    · cases hop
    · simp
  exact ⟨hp, fits, (evaluate_of_fits hp offerScopes).1 fits⟩

end Plan
end Shortlist
