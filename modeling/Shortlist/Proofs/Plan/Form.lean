import Shortlist.Proofs.Plan.Compilation
import Shortlist.Proofs.Rule.WellBuilt
/-! The form of compiled plans. Every rule in one is well built, and each descriptor has its rule
in the half of the plan that its domain names. -/
namespace Shortlist
namespace Plan

/-- The plan holds the given rules, each once, those about one entity in their given order. -/
structure Divides (p : Plan) (rules : List Rule) : Prop where
  user_sublist : p.userRules.Sublist rules
  item_sublist : p.itemRules.Sublist rules
  user_domain : ∀ r ∈ p.userRules, r.domain = .user
  item_domain : ∀ r ∈ p.itemRules, r.domain = .item
  perm : p.rules.Perm rules

theorem ofRules_divides (rules : List Rule) : (ofRules rules).Divides rules where
  user_sublist := List.filter_sublist
  item_sublist := List.filter_sublist
  user_domain r hr := beq_iff_eq.mp (List.mem_filter.mp hr).2
  item_domain r hr := beq_iff_eq.mp (List.mem_filter.mp hr).2
  perm := by
    have hrest : rules.filter (·.domain == .item) = rules.filter fun r => !(r.domain == .user) := by
      refine List.filter_congr fun r _ => ?_
      cases r.domain <;> rfl
    rw [Plan.rules, ofRules, hrest]
    exact List.filter_append_perm _ rules

theorem compile_explicitAll (ds : List Descriptor) :
    compile (Descriptor.explicitAll .item ds) = compile ds := by
  rw [compile, Descriptor.compileAll_explicit fun d _ => d.compile_explicit .item .item, compile]

/-- Whatever compiles is well formed at every depth, has each part about the entity that its
descriptor or else the one above names, and holds each top-level rule once and in order. It is
the plan of the same descriptors with every domain written out. -/
theorem compile_wellBuilt {ds : List Descriptor} {p : Plan} (hp : compile ds = .ok p) :
    (∀ r ∈ p.rules, r.WellBuilt) ∧
    (∃ rules, Descriptor.ResolvesAll .item ds rules ∧ p.Divides rules) ∧
    (∀ b ∈ Descriptor.preorderAll (Descriptor.explicitAll .item ds), b.domain.isSome = true) ∧
    compile (Descriptor.explicitAll .item ds) = .ok p := by
  refine ⟨?_, ?_, ?_, ?_⟩
  · intro r hr
    obtain ⟨d, -, hd⟩ := (mem_rules_of_compile hp r).mp hr
    exact d.wellBuilt_of_compile hd
  · obtain ⟨rules, hrules, rfl⟩ := map_eq_ok.mp hp
    refine ⟨rules, ?_, ofRules_divides rules⟩
    exact Descriptor.resolvesAll_of_forall₂ (fun d _ _ => d.resolves_of_compile)
      (Descriptor.compileAll_eq_ok.mp hrules)
  · intro b hb
    obtain ⟨d', hd', hb⟩ := Descriptor.mem_preorderAll.mp hb
    obtain ⟨d, -, rfl⟩ := Descriptor.mem_explicitAll.mp hd'
    exact d.domain_explicit .item b hb
  · rw [compile_explicitAll, hp]

/-- Grown-up guests who can pay, or are known; the inner rules say nothing of their entity. -/
def guestDescriptors : List Descriptor :=
  [{ name := " tags ", operator := "in", type := "string", value := some (.string "sale, new") },
    .combine .user " And "
      [{ name := "age", operator := "greater", type := "int", value := some (.string " 18 ") },
        { operator := "bool", type := "or", children :=
            [.leaf .item "price" "less" "float" (.string "user.budget"),
              { name := "vip", operator := "is_not_null" }] }]]

def guestPlan : Plan where
  userRules :=
    [.combine .and .user
      [.compare .atLeast
        { property := "age", domain := .user, type := .int, operandType := .int
          operand := .literal (.int 18) },
        .combine .or .user
          [.compare .atMost
            { property := "price", domain := .item, type := .float, operandType := .float
              operand := .reference .user "budget" },
            .presence true "vip" .user]]]
  itemRules :=
    [.compare .isIn
      { property := "tags", domain := .item, type := .string, operandType := .list .string
        operand := .literal (.list [.string "sale", .string "new"]) }]

theorem guestPlan_wellBuilt :
    compile guestDescriptors = .ok guestPlan ∧ (∀ r ∈ guestPlan.rules, r.WellBuilt) ∧
      compile (Descriptor.explicitAll .item guestDescriptors) = .ok guestPlan := by
  have hp : compile guestDescriptors = .ok guestPlan := by rfl
  obtain ⟨hwell, -, -, hexplicit⟩ := compile_wellBuilt hp
  exact ⟨hp, hwell, hexplicit⟩

end Plan
end Shortlist
