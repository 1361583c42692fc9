import Shortlist.Proofs.Plan.Admission
import Shortlist.Proofs.Rule.Children
import Shortlist.Proofs.Rule.Comparand
import Shortlist.Proofs.Rule.WellBuilt
/-! Entities that lack what a rule asks for. Such a rule fails, also if it rules something out, and
it fails before any operand is looked at. Only a check for absence passes on nothing. -/
namespace Shortlist

theorem Properties.present?_of_getElem? {p : Properties} {key : String} (h : p[key]? = none) :
    p.present? key = none := by
  rw [present?, h]

namespace Rule

mutual
/-- A rule and all rules in it, as they are written. -/
def nodes : Rule → List Rule
  | .compare c leaf => [.compare c leaf]
  | .presence wanted property domain => [.presence wanted property domain]
  | .combine c domain children => .combine c domain children :: nodesAll children

def nodesAll : List Rule → List Rule
  | [] => []
  | r :: rs => nodes r ++ nodesAll rs
end

theorem mem_nodesAll {rs : List Rule} {n : Rule} : n ∈ nodesAll rs ↔ ∃ r ∈ rs, n ∈ r.nodes := by
  induction rs with
  | nil => simp [nodesAll]
  | cons r rs ih => simp [nodesAll, ih]

theorem mem_nodes_self (r : Rule) : r ∈ r.nodes := by
  cases r <;> simp [nodes]

theorem mem_nodes_of_child {c : Combinator} {domain : EntityKind} {children : List Rule}
    {r n : Rule} (hr : r ∈ children) (hn : n ∈ r.nodes) :
    n ∈ (Rule.combine c domain children).nodes := by
  rw [nodes]
  exact List.mem_cons_of_mem _ (mem_nodesAll.mpr ⟨r, hr, hn⟩)

/-- None of the properties that the rule is about is there, on the entity that it is about. -/
def Lacking (r : Rule) (s : Scopes) : Prop :=
  ∀ n ∈ r.nodes, ∀ key, n.property? = some key → (s.of n.domain)[key]? = none

def ChecksAbsence (r : Rule) : Prop := ∃ n ∈ r.nodes, n.operator = .presence false

variable {s : Scopes}

theorem verdict_of_wellBuilt (r : Rule) :
    r.WellBuilt → r.Lacking s → ¬ r.ChecksAbsence → r.verdict s = .ok false := by
  induction r using induction_children with
  | compare c leaf =>
      intro _ lacking _
      have target := lacking _ (mem_nodes_self _) leaf.property rfl
      exact Leaf.evaluate_of_absent (Properties.present?_of_getElem? target) c s
  | presence wanted property domain =>
      intro _ lacking hchecks
      have target : (s.of domain)[property]? = none := lacking _ (mem_nodes_self _) property rfl
      cases wanted with
      | false => exact absurd ⟨_, mem_nodes_self _, rfl⟩ hchecks
      | true =>
          simp only [verdict, evaluate, Rule.domain, Std.ExtTreeMap.contains_eq_isSome_getElem?,
            target]
          rfl
  | combine c domain children ih =>
      intro hwell lacking hchecks
      cases hwell with
      | combine hne hwell =>
          have fails : ∀ r ∈ children, r.verdict s = .ok false := by
            intro r hr
            refine ih r hr (hwell r hr) (fun n hn => lacking n (mem_nodes_of_child hr hn)) ?_
            rintro ⟨n, hn, hop⟩
            exact hchecks ⟨n, mem_nodes_of_child hr hn, hop⟩
          -- No children would pass as a conjunction; the compiler lets no such rule through.
          cases c with
          | and => exact evaluateAll_of_false hne fails
          | or => exact evaluateAny_of_false fails

end Rule

namespace Plan

theorem not_passes_of_verdict {p : Plan} {r : Rule} {s : Scopes} (hr : r ∈ p.rules)
    (h : r.verdict s = .ok false) : ¬ p.Passes s := by
  intro passes
  cases h.symm.trans (passes r hr)

end Plan

/-- A rule that checks for no absence says no to entities that have none of the properties it is
about, whatever it compares them with, and so does every plan with this rule. -/
theorem Rule.verdict_of_lacking {inherited : EntityKind} {d : Descriptor} {rule : Rule}
    {s : Scopes} (hrule : d.compile inherited = .ok rule) (lacking : rule.Lacking s)
    (hchecks : ¬ rule.ChecksAbsence) :
    rule.verdict s = .ok false ∧
      ∀ p : Plan, rule ∈ p.rules → p.accepts s = false ∧
        ∀ (u : User) (i : Item), u.properties = s.user → i.features = s.item →
          (p.judge u i).1 = false := by
  have fails := rule.verdict_of_wellBuilt (d.wellBuilt_of_compile hrule) lacking hchecks
  refine ⟨fails, fun p hp => ?_⟩
  have hpasses : ¬ p.Passes s := Plan.not_passes_of_verdict hp fails
  refine ⟨Bool.eq_false_iff.mpr fun h => hpasses (Plan.accepts_iff.mp h), ?_⟩
  intro u i huser hitem
  refine Bool.eq_false_iff.mpr fun h => hpasses ?_
  have passes := (Plan.judge_fst p u i).mp h
  rwa [huser, hitem] at passes

/-- New to the user in one way or another, and not too dear. The colors that the user has seen are
no list. -/
def noveltyDescriptor : Descriptor :=
  .combine .item "and"
    [.combine .item "or"
        [.leaf .item "color" "not_in" "string" (.string "user.seen"),
          .leaf .item "brand" "not_equal" "string" (.string "acme"),
          .presence .user "explores" "is_not_null"],
      .leaf .item "price" "less" "int" (.string "user.budget")]

def noveltyRule : Rule :=
  .combine .and .item
    [.combine .or .item
        [.compare .notIn
            { property := "color", domain := .item, type := .string, operandType := .list .string
              operand := .reference .user "seen" },
          .compare .notEqual
            { property := "brand", domain := .item, type := .string, operandType := .string
              operand := .literal (.string "acme") },
          .presence true "explores" .user],
      .compare .atMost
        { property := "price", domain := .item, type := .int, operandType := .int
          operand := .reference .user "budget" }]

/-- Each of the two has properties, but the rule asks the other one for them. -/
def noveltyScopes : Scopes where
  user := .ofEntries [("seen", .map []), ("brand", .string "acme")]
  item := .ofEntries [("explores", .bool true)]

theorem Rule.verdict_novelty :
    noveltyDescriptor.compile .item = .ok noveltyRule ∧ noveltyRule.Lacking noveltyScopes ∧
      ¬ noveltyRule.ChecksAbsence ∧ noveltyRule.verdict noveltyScopes = .ok false ∧
      Plan.accepts { itemRules := [noveltyRule] } noveltyScopes = false := by
  have hrule : noveltyDescriptor.compile .item = .ok noveltyRule := by rfl
  have lacking : noveltyRule.Lacking noveltyScopes := by
    simp [Rule.Lacking, noveltyRule, Rule.nodes, Rule.nodesAll, Rule.property?, Rule.domain,
      noveltyScopes, Scopes.of, Properties.ofEntries]
  have hchecks : ¬ noveltyRule.ChecksAbsence := by
    simp [Rule.ChecksAbsence, noveltyRule, Rule.nodes, Rule.nodesAll, Rule.operator]
  obtain ⟨fails, rejects⟩ := Rule.verdict_of_lacking hrule lacking hchecks
  exact ⟨hrule, lacking, hchecks, fails, (rejects _ (List.mem_singleton_self _)).1⟩

end Shortlist
