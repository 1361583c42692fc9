import Shortlist.Plan
import Shortlist.Proofs.Rule.FirstFault
/-! Compiling plans. What is accepted is what the grammar of rules describes, and a plan compiled
from two lists has the rules of both. -/
namespace Shortlist
namespace Plan
open Descriptor

theorem mem_rules_ofRules {rules : List Rule} {r : Rule} :
    r ∈ (ofRules rules).rules ↔ r ∈ rules := by
  simp only [Plan.rules, ofRules, List.mem_append, List.mem_filter]
  cases r.domain <;> simp

theorem rule_of_mem {ds : List Descriptor} {p : Plan} (hp : compile ds = .ok p) {d : Descriptor}
    (hd : d ∈ ds) : ∃ r ∈ p.rules, d.compile .item = .ok r := by
  obtain ⟨rules, hrules, rfl⟩ := map_eq_ok.mp hp
  obtain ⟨r, hr, hcompile⟩ := exists_mem_of_forall₂ (compileAll_eq_ok.mp hrules).flip d hd
  exact ⟨r, mem_rules_ofRules.mpr hr, hcompile⟩

theorem mem_rules_of_compile {ds : List Descriptor} {p : Plan} (hp : compile ds = .ok p)
    (r : Rule) : r ∈ p.rules ↔ ∃ d ∈ ds, d.compile .item = .ok r := by
  constructor
  · intro hr
    obtain ⟨rules, hrules, rfl⟩ := map_eq_ok.mp hp
    exact exists_mem_of_forall₂ (compileAll_eq_ok.mp hrules) r (mem_rules_ofRules.mp hr)
  · rintro ⟨d, hd, hr⟩
    obtain ⟨r', hr', hd'⟩ := rule_of_mem hp hd
    cases hr.symm.trans hd'
    exact hr'

/-- The rules of two plans, for each entity those of the first plan before those of the second. -/
def append (p q : Plan) : Plan where
  userRules := p.userRules ++ q.userRules
  itemRules := p.itemRules ++ q.itemRules

theorem ofRules_append (rs ss : List Rule) :
    ofRules (rs ++ ss) = (ofRules rs).append (ofRules ss) := by
  simp only [ofRules, append, List.filter_append]

theorem compile_append {ds es : List Descriptor} {p q : Plan} (hp : compile ds = .ok p)
    (hq : compile es = .ok q) : compile (ds ++ es) = .ok (p.append q) := by
  obtain ⟨rs, hrs, rfl⟩ := map_eq_ok.mp hp
  obtain ⟨ss, hss, rfl⟩ := map_eq_ok.mp hq
  have hall : compileAll .item (ds ++ es) = .ok (rs ++ ss) :=
    compileAll_eq_ok.mpr (List.rel_append (compileAll_eq_ok.mp hrs) (compileAll_eq_ok.mp hss))
  rw [compile, hall, ← ofRules_append]
  rfl

theorem compile_ends (ds : List Descriptor) : Ends (preorderAll ds) (compile ds) :=
  (compileAll_ends (fun d _ => d.compile_ends) .item).map ofRules

theorem compile_ok_iff {ds : List Descriptor} :
    (∃ p, compile ds = .ok p) ↔ ∀ d ∈ ds, d.WellFormed := by
  rw [forall_wellFormed_iff]
  exact (compile_ends ds).ok_iff

/-- A plan compiles exactly if each of its descriptors is well formed, and fails with the fault of
the first descriptor in preorder that does not meet its own requirements. It does not depend on
fields that are not used, and it has the rules of a first part before those of the rest. -/
theorem compile_grammar (ds : List Descriptor) :
    ((∃ p, compile ds = .ok p) ↔ ∀ d ∈ ds, d.WellFormed) ∧
    (∀ e, compile ds = .error e ↔
      ∃ d, FirstFault (preorderAll ds) d e ∧ ¬ d.Sound ∧
        ∀ inherited, d.compile inherited = .error e) ∧
    (∀ es, List.Forall₂ Alike ds es → compile es = compile ds) ∧
    ∀ es p q, compile ds = .ok p → compile es = .ok q →
      compile (ds ++ es) = .ok (p.append q) := by
  refine ⟨compile_ok_iff, fun e => ?_, fun es alike => ?_, fun es p q => compile_append⟩
  · rw [(compile_ends ds).error_iff]
    constructor
    · rintro ⟨d, h⟩
      exact ⟨d, h, h.fault.not_sound, compile_of_fault h.fault⟩
    · rintro ⟨d, h, -, -⟩
      exact ⟨d, h⟩
  · rw [compile, compile, compileAll_congr alike fun d _ _ hd => d.compile_alike hd]

/-- The rule on tags is the first in preorder that breaks a requirement of its own. The one on the
shop, which names no type, is not reached. -/
example : compile
    [.presence .user "age" "is_null",
      .combine .item " OR " [.leaf .item "price" "equal" "int" (.string "user.budget"),
        .leaf .item "tags" "less" "[]int" (.int 1)],
      .leaf .item "shop" "equal" "" (.int 1)] =
    .error (.unsupportedType "tags" .atMost (.list .int)) := by rfl

end Plan
end Shortlist
