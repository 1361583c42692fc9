import Shortlist.Plan
import Shortlist.Proofs.Rule.Children
import Shortlist.Proofs.Rule.Compiled
/-! What a plan looks at. The outcome depends on the properties that the plan names, each on the
entity it is named for. All other properties of the two entities may be anything. -/
namespace Shortlist

namespace Scopes

/-- What a property of an entity holds, if it is there. -/
def read? (s : Scopes) (name : EntityKind × String) : Option Value := (s.of name.1)[name.2]?

/-- The two pairs of entities hold the same under each of the names. -/
def AgreeOn (names : List (EntityKind × String)) (s t : Scopes) : Prop :=
  ∀ name ∈ names, s.read? name = t.read? name

variable {names more : List (EntityKind × String)} {s t : Scopes}

theorem agreeOn_append : AgreeOn (names ++ more) s t ↔ AgreeOn names s t ∧ AgreeOn more s t :=
  List.forall_mem_append

theorem AgreeOn.present? (agree : AgreeOn names s t) {kind : EntityKind} {key : String}
    (h : (kind, key) ∈ names) : (s.of kind).present? key = (t.of kind).present? key := by
  have same : (s.of kind)[key]? = (t.of kind)[key]? := agree (kind, key) h
  rw [Properties.present?, Properties.present?, same]

theorem AgreeOn.contains (agree : AgreeOn names s t) {kind : EntityKind} {key : String}
    (h : (kind, key) ∈ names) : (s.of kind).contains key = (t.of kind).contains key := by
  have same : (s.of kind)[key]? = (t.of kind)[key]? := agree (kind, key) h
  rw [Std.ExtTreeMap.contains_eq_isSome_getElem?, Std.ExtTreeMap.contains_eq_isSome_getElem?, same]

end Scopes

open Scopes

/-! ### Comparisons -/

namespace Operand

/-- A constant reads nothing. -/
def reads : Operand → List (EntityKind × String)
  | .literal _ => []
  | .reference scope key => [(scope, key)]

theorem resolve_of_agreeOn (ty : ValueType) {s t : Scopes} {operand : Operand}
    (agree : AgreeOn operand.reads s t) : operand.resolve ty s = operand.resolve ty t := by
  cases operand with
  | literal v => rfl
  | reference scope key => simp only [resolve, agree.present? (List.mem_singleton_self _)]

end Operand

namespace Leaf

/-- The target and what it is compared with. -/
def reads (leaf : Leaf) : List (EntityKind × String) :=
  (leaf.domain, leaf.property) :: leaf.operand.reads

theorem evaluate_congr (c : Comparison) {s t : Scopes} {leaf : Leaf}
    (agree : AgreeOn leaf.reads s t) :
    leaf.evaluate c (s.of leaf.domain) s = leaf.evaluate c (t.of leaf.domain) t := by
  have target : (s.of leaf.domain).present? leaf.property =
      (t.of leaf.domain).present? leaf.property := agree.present? List.mem_cons_self
  have expected : leaf.operand.resolve leaf.operandType s =
      leaf.operand.resolve leaf.operandType t :=
    Operand.resolve_of_agreeOn _ fun name hname => agree name (List.mem_cons_of_mem _ hname)
  simp only [evaluate, target, expected]

end Leaf

/-! ### Rules and plans -/

namespace Rule

mutual
/-- The properties that a rule names at every depth: targets, presence checks and references. -/
def reads : Rule → List (EntityKind × String)
  | .compare _ leaf => leaf.reads
  | .presence _ property domain => [(domain, property)]
  | .combine _ _ children => readsAll children

def readsAll : List Rule → List (EntityKind × String)
  | [] => []
  | r :: rs => reads r ++ readsAll rs
end

variable {s t : Scopes}

theorem agreeOn_readsAll {rs : List Rule} :
    AgreeOn (readsAll rs) s t ↔ ∀ r ∈ rs, AgreeOn r.reads s t := by
  induction rs with
  | nil => simp [readsAll, AgreeOn]
  | cons r rs ih => simp only [readsAll, agreeOn_append, ih, List.forall_mem_cons]

/-- A child is read on the entity that it is about, not on that of its parent. -/
theorem verdict_of_agreeOn (r : Rule) : AgreeOn r.reads s t → r.verdict s = r.verdict t := by
  induction r using induction_children with
  | compare c leaf => exact Leaf.evaluate_congr c
  | presence wanted property domain =>
      intro agree
      have there : (s.of domain).contains property = (t.of domain).contains property :=
        agree.contains (List.mem_singleton_self _)
      simp only [verdict, evaluate, Rule.domain, there]
  | combine c domain children ih =>
      intro agree
      have same : ∀ r ∈ children, r.verdict s = r.verdict t :=
        fun r hr => ih r hr (agreeOn_readsAll.mp agree r hr)
      cases c with
      | and => exact evaluateAll_congr same
      | or => exact evaluateAny_congr same

end Rule

namespace Plan

/-- The properties that a plan names, each with the entity it is read on. -/
def reads (p : Plan) : List (EntityKind × String) := Rule.readsAll p.rules

/-- Two pairs of a user and an item that hold the same under every name of the plan have the same
outcome, be it a verdict or an error. -/
theorem evaluate_of_agreeOn (p : Plan) {s t : Scopes} (agree : AgreeOn p.reads s t) :
    p.evaluate s = p.evaluate t := by
  have same : ∀ r ∈ p.userRules ++ p.itemRules, r.verdict s = r.verdict t :=
    fun r hr => r.verdict_of_agreeOn (Rule.agreeOn_readsAll.mp agree r hr)
  obtain ⟨user, item⟩ := List.forall_mem_append.mp same
  simp only [evaluate, Rule.evaluateAll_congr user, Rule.evaluateAll_congr item]

/-- What is within the user's own price, or shown to members. -/
def fareDescriptors : List Descriptor :=
  [.combine .item "or"
    [{ name := "price", operator := "less", type := "int", value := some (.string "user.price") },
      .presence .user "member" "is_not_null"]]

def farePlan : Plan where
  itemRules :=
    [.combine .or .item
      [.compare .atMost
        { property := "price", domain := .item, type := .int, operandType := .int
          operand := .reference .user "price" },
        .presence true "member" .user]]

/-- The item's price cannot be read. That the item is a member is nothing the plan asks for. -/
def fareScopes : Scopes where
  user := .ofEntries [("price", .int 20), ("age", .int 30)]
  item := .ofEntries [("price", .string "cheap"), ("member", .bool true)]

def otherFareScopes : Scopes where
  user := .ofEntries [("price", .int 20), ("city", .string "Bonn")]
  item := .ofEntries [("price", .string "cheap")]

theorem farePlan_reads_prices :
    compile fareDescriptors = .ok farePlan ∧ AgreeOn farePlan.reads fareScopes otherFareScopes ∧
      fareScopes.read? (.item, "member") ≠ otherFareScopes.read? (.item, "member") ∧
      farePlan.evaluate fareScopes = farePlan.evaluate otherFareScopes := by
  have hp : compile fareDescriptors = .ok farePlan := by rfl
  have names : farePlan.reads = [(.item, "price"), (.user, "price"), (.user, "member")] := by rfl
  have agree : AgreeOn farePlan.reads fareScopes otherFareScopes := by
    rw [names]
    simp only [AgreeOn, List.forall_mem_cons, read?, fareScopes, otherFareScopes, Scopes.of,
      Properties.ofEntries, List.foldl, Std.ExtTreeMap.getElem?_insert,
      Std.LawfulEqCmp.compare_eq_iff_eq]
    simp
  have differ : fareScopes.read? (.item, "member") ≠ otherFareScopes.read? (.item, "member") := by
    simp [read?, fareScopes, otherFareScopes, Scopes.of, Properties.ofEntries]
  exact ⟨hp, agree, differ, farePlan.evaluate_of_agreeOn agree⟩

end Plan
end Shortlist
