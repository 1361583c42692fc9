import Shortlist.Proofs.Basic
import Shortlist.Rule.Compile
/-! What the compiler can give. A rule has the shape of its descriptor, and each comparison in it,
however deep, went through the checks for single comparisons. -/
namespace Shortlist
namespace Descriptor

/-- What the checks of a comparison establish. -/
structure LeafChecked (d : Descriptor) (c : Comparison) (domain : EntityKind) (leaf : Leaf) :
    Prop where
  name : d.requiredName = .ok leaf.property
  type : ValueType.parse d.type = .ok leaf.type
  operandType : c.operandType? leaf.type = some leaf.operandType
  operand : ∃ v, d.requiredValue leaf.property = .ok v ∧
    compileOperand leaf.property leaf.operandType v = .ok leaf.operand
  domain : leaf.domain = domain

theorem leafChecked_of_compileLeaf {d : Descriptor} {c : Comparison} {domain : EntityKind}
    {leaf : Leaf} (h : d.compileLeaf c domain = .ok leaf) : LeafChecked d c domain leaf := by
  simp only [compileLeaf, bind_eq_ok, mapError_eq_ok] at h
  obtain ⟨property, hname, type, htype, h⟩ := h
  cases hty : c.operandType? type with
  | none => simp only [hty, bind_eq_ok, reduceCtorEq, false_and, exists_false] at h
  | some operandType =>
      simp only [hty, bind_eq_ok] at h
      obtain ⟨_, hty', v, hvalue, operand, hoperand, hleaf⟩ := h
      cases hty'
      cases hleaf
      exact ⟨hname, htype, hty, ⟨v, hvalue, hoperand⟩, rfl⟩

theorem LeafChecked.compileLeaf {d : Descriptor} {c : Comparison} {domain : EntityKind}
    {leaf : Leaf} (checked : LeafChecked d c domain leaf) : d.compileLeaf c domain = .ok leaf := by
  obtain ⟨v, hvalue, hoperand⟩ := checked.operand
  simp only [Descriptor.compileLeaf, checked.name, checked.type, checked.operandType, hvalue,
    hoperand, Except.mapError, ok_bind, ← checked.domain]
  rfl

/-- The rules a descriptor can compile to, given the domain it inherits. -/
inductive Compiled (inherited : EntityKind) (d : Descriptor) : Rule → Prop
  | compare {c : Comparison} {leaf : Leaf} :
      Operator.parse d.operator = .ok (.compare c) →
      d.compileLeaf c (d.domain.getD inherited) = .ok leaf →
      Compiled inherited d (.compare c leaf)
  | presence {wanted : Bool} {property : String} :
      Operator.parse d.operator = .ok (.presence wanted) →
      d.requiredName = .ok property →
      Compiled inherited d (.presence wanted property (d.domain.getD inherited))
  | combine {c : Combinator} {rules : List Rule} :
      Operator.parse d.operator = .ok .combine →
      Combinator.parse d.type = .ok c →
      d.children ≠ [] →
      List.Forall₂ (fun child rule => child.compile (d.domain.getD inherited) = .ok rule)
        d.children rules →
      Compiled inherited d (.combine c (d.domain.getD inherited) rules)

theorem compileAll_eq_ok {inherited : EntityKind} {ds : List Descriptor} {rules : List Rule} :
    compileAll inherited ds = .ok rules ↔
      List.Forall₂ (fun d rule => d.compile inherited = .ok rule) ds rules :=
  traverse_eq_ok (g := compileAll inherited) rfl fun _ _ => rfl

theorem compiled_of_compile {inherited : EntityKind} {d : Descriptor} {rule : Rule}
    (h : d.compile inherited = .ok rule) : Compiled inherited d rule := by
  obtain ⟨name, domain?, operator, type, value, children⟩ := d
  simp only [compile] at h
  cases hop : Operator.parse operator with
  | error e => simp [hop] at h
  | ok op =>
      cases op with
      | compare c =>
          simp only [hop, map_eq_ok] at h
          obtain ⟨leaf, hleaf, rfl⟩ := h
          exact .compare hop hleaf
      | presence wanted =>
          simp only [hop, map_eq_ok] at h
          obtain ⟨property, hname, rfl⟩ := h
          exact .presence hop hname
      | combine =>
          cases hc : Combinator.parse type with
          | error word => simp [hop, hc] at h
          | ok c =>
              simp only [hop, hc] at h
              split at h
              case isTrue => cases h
              case isFalse hne =>
                  obtain ⟨rules, hrules, rfl⟩ := map_eq_ok.mp h
                  exact .combine hop hc (by simpa using hne) (compileAll_eq_ok.mp hrules)

/-- What holds of a descriptor as soon as it holds of its children holds of all. -/
theorem induction_children {P : Descriptor → Prop}
    (step : ∀ d : Descriptor, (∀ child ∈ d.children, P child) → P d) : ∀ d, P d
  | ⟨name, domain, operator, type, value, children⟩ =>
    step _ fun child _ => induction_children step child

end Descriptor

namespace Rule

/-- What holds of a rule as soon as it holds of its children holds of all. -/
theorem induction_children {P : Rule → Prop}
    (compare : ∀ c leaf, P (.compare c leaf))
    (presence : ∀ wanted property domain, P (.presence wanted property domain))
    (combine : ∀ c domain children, (∀ r ∈ children, P r) → P (.combine c domain children)) :
    ∀ r, P r
  | .compare c leaf => compare c leaf
  | .presence wanted property domain => presence wanted property domain
  | .combine c domain children =>
    combine c domain children fun r _ => induction_children compare presence combine r

mutual
/-- The comparisons of a rule at every depth, as they are written from left to right. -/
def leaves : Rule → List (Comparison × Leaf)
  | .compare c leaf => [(c, leaf)]
  | .presence _ _ _ => []
  | .combine _ _ children => leavesAll children

def leavesAll : List Rule → List (Comparison × Leaf)
  | [] => []
  | r :: rs => leaves r ++ leavesAll rs
end

theorem mem_leavesAll {rs : List Rule} {p : Comparison × Leaf} :
    p ∈ leavesAll rs ↔ ∃ r ∈ rs, p ∈ r.leaves := by
  induction rs with
  | nil => simp [leavesAll]
  | cons r rs ih => simp [leavesAll, ih]

end Rule

theorem Descriptor.leafChecked_of_mem_leaves {c : Comparison} {leaf : Leaf} (d : Descriptor) :
    ∀ {inherited : EntityKind} {rule : Rule}, d.compile inherited = .ok rule →
      (c, leaf) ∈ rule.leaves → ∃ d' domain, LeafChecked d' c domain leaf := by
  induction d using induction_children with
  | step d ih =>
      intro inherited rule h hmem
      cases compiled_of_compile h with
      | compare _ hleaf =>
          simp only [Rule.leaves, List.mem_singleton, Prod.mk.injEq] at hmem
          obtain ⟨rfl, rfl⟩ := hmem
          exact ⟨d, _, leafChecked_of_compileLeaf hleaf⟩
      | presence _ _ => simp [Rule.leaves] at hmem
      | @combine _ rules _ _ _ hrules =>
          obtain ⟨r, hr, hmem⟩ := Rule.mem_leavesAll.mp hmem
          obtain ⟨child, hchild, hc⟩ := exists_mem_of_forall₂ hrules r hr
          exact ih child hchild hc hmem

end Shortlist
