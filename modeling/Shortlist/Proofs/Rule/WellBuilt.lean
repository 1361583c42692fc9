import Shortlist.Proofs.Rule.FirstFault
import Shortlist.Proofs.Text.Trim
import Shortlist.Proofs.Value.Canonical
/-! The form of compiled rules. Evaluation checks nothing again, so what it relies on holds at
every depth of a rule: names, types, operands, children, and the entity that each part is about. -/
namespace Shortlist

/-- A constant has the form of its type and is its own coercion; a reference names a property. -/
inductive Operand.Formed (ty : ValueType) : Operand → Prop
  | literal {v : Value} : Canonical ty v → v.coerce ty = .ok v → Formed ty (.literal v)
  | reference {scope : EntityKind} {key : String} : key ≠ "" → Formed ty (.reference scope key)

inductive Rule.WellBuilt : Rule → Prop
  | compare {c : Comparison} {leaf : Leaf} :
      leaf.property ≠ "" → Text.Tight leaf.property → c.Allowed leaf.type leaf.operandType →
      leaf.operand.Formed leaf.operandType → WellBuilt (.compare c leaf)
  | presence {wanted : Bool} {property : String} {domain : EntityKind} :
      property ≠ "" → Text.Tight property → WellBuilt (.presence wanted property domain)
  | combine {c : Combinator} {domain : EntityKind} {children : List Rule} :
      children ≠ [] → (∀ r ∈ children, WellBuilt r) → WellBuilt (.combine c domain children)

namespace Descriptor

mutual
/-- A rule and the descriptor it is made from, part by part. Each part is about the entity that
its own descriptor names, or else about the one that it inherits. -/
inductive Resolves : EntityKind → Descriptor → Rule → Prop
  | single {inherited : EntityKind} {d : Descriptor} {r : Rule} :
      d.operator? = some r.operator → r.property? = some d.property →
      r.domain = d.domain.getD inherited → Resolves inherited d r
  | combine {inherited : EntityKind} {d : Descriptor} {c : Combinator} {rules : List Rule} :
      d.operator? = some .combine → Combinator.parse d.type = .ok c →
      ResolvesAll (d.domain.getD inherited) d.children rules →
      Resolves inherited d (.combine c (d.domain.getD inherited) rules)

/-- Rules and descriptors one to one, in order. -/
inductive ResolvesAll : EntityKind → List Descriptor → List Rule → Prop
  | nil {inherited : EntityKind} : ResolvesAll inherited [] []
  | cons {inherited : EntityKind} {d : Descriptor} {ds : List Descriptor} {r : Rule}
      {rules : List Rule} :
      Resolves inherited d r → ResolvesAll inherited ds rules →
      ResolvesAll inherited (d :: ds) (r :: rules)
end

/-! ### What the checks leave behind -/

theorem operator?_of_parse {d : Descriptor} {op : Operator}
    (h : Operator.parse d.operator = .ok op) : d.operator? = some op := by
  cases hop : d.operator? with
  | none =>
      rw [parse_operator_unknown hop] at h
      cases h
  | some op' =>
      rw [parse_operator hop] at h
      exact congrArg some (Except.ok.inj h)

theorem requiredName_eq_ok {d : Descriptor} {name : String} (h : d.requiredName = .ok name) :
    name = d.property ∧ name ≠ "" := by
  by_cases hname : d.property = ""
  · rw [requiredName_of_eq hname] at h
    cases h
  · rw [requiredName_of_ne hname] at h
    cases h
    exact ⟨rfl, hname⟩

theorem property_tight (d : Descriptor) : Text.Tight d.property := Text.trim_tight d.name

theorem compileOperand_formed {name : String} {ty : ValueType} {v : Value} {operand : Operand}
    (h : compileOperand name ty v = .ok operand) : operand.Formed ty := by
  cases hv : Operand.parse v with
  | literal raw =>
      simp only [compileOperand, hv] at h
      split at h
      · next w hw =>
          cases h
          exact .literal (Value.canonical_of_coerce hw) (Value.coerce_coerce hw)
      · cases h
  | reference scope key =>
      simp only [compileOperand, hv] at h
      cases h
      exact .reference (Operand.parse_eq_reference.mp hv).1

theorem LeafChecked.wellBuilt {d : Descriptor} {c : Comparison} {domain : EntityKind} {leaf : Leaf}
    (checked : LeafChecked d c domain leaf) : (Rule.compare c leaf).WellBuilt := by
  obtain ⟨hproperty, hne⟩ := requiredName_eq_ok checked.name
  obtain ⟨v, -, hoperand⟩ := checked.operand
  refine .compare hne ?_ (Comparison.operandType?_eq_some.mp checked.operandType)
    (compileOperand_formed hoperand)
  rw [hproperty]
  exact d.property_tight

/-! ### Whole rules -/

theorem wellBuilt_of_compile (d : Descriptor) :
    ∀ {inherited : EntityKind} {rule : Rule}, d.compile inherited = .ok rule →
      rule.WellBuilt := by
  induction d using induction_children with
  | step d ih =>
      intro inherited rule h
      cases compiled_of_compile h with
      | compare _ hleaf => exact (leafChecked_of_compileLeaf hleaf).wellBuilt
      | presence _ hname =>
          obtain ⟨rfl, hne⟩ := requiredName_eq_ok hname
          exact .presence hne d.property_tight
      | @combine _ rules _ _ hne hrules =>
          refine .combine ?_ ?_
          · rintro rfl
            exact hne (List.forall₂_nil_right_iff.mp hrules)
          · intro r hr
            obtain ⟨child, hchild, hcompile⟩ := exists_mem_of_forall₂ hrules r hr
            exact ih child hchild hcompile

theorem resolvesAll_of_forall₂ {inherited : EntityKind} {ds : List Descriptor} {rules : List Rule}
    (ih : ∀ d ∈ ds, ∀ r, d.compile inherited = .ok r → Resolves inherited d r)
    (h : List.Forall₂ (fun d r => d.compile inherited = .ok r) ds rules) :
    ResolvesAll inherited ds rules := by
  induction h with
  | nil => exact .nil
  | cons hd _ ihtail =>
      refine .cons (ih _ List.mem_cons_self _ hd) (ihtail ?_)
      exact fun d hmem => ih d (List.mem_cons_of_mem _ hmem)

theorem resolves_of_compile (d : Descriptor) :
    ∀ {inherited : EntityKind} {rule : Rule}, d.compile inherited = .ok rule →
      Resolves inherited d rule := by
  induction d using induction_children with
  | step d ih =>
      intro inherited rule h
      cases compiled_of_compile h with
      | compare hop hleaf =>
          have checked := leafChecked_of_compileLeaf hleaf
          obtain ⟨hproperty, -⟩ := requiredName_eq_ok checked.name
          exact .single (operator?_of_parse hop) (congrArg some hproperty) checked.domain
      | presence hop hname =>
          obtain ⟨rfl, -⟩ := requiredName_eq_ok hname
          exact .single (operator?_of_parse hop) rfl rfl
      | combine hop hc _ hrules =>
          have hall := resolvesAll_of_forall₂ (fun child hchild _ => ih child hchild) hrules
          exact .combine (operator?_of_parse hop) hc hall

/-! ### Domains written out -/

mutual
/-- The descriptor with every domain that it or a child of it inherits written out. -/
def explicit (inherited : EntityKind) : Descriptor → Descriptor
  | ⟨name, domain, operator, type, value, children⟩ =>
    ⟨name, some (domain.getD inherited), operator, type, value,
      explicitAll (domain.getD inherited) children⟩

def explicitAll (inherited : EntityKind) : List Descriptor → List Descriptor
  | [] => []
  | d :: ds => explicit inherited d :: explicitAll inherited ds
end

theorem mem_explicitAll {inherited : EntityKind} {ds : List Descriptor} {b : Descriptor} :
    b ∈ explicitAll inherited ds ↔ ∃ d ∈ ds, d.explicit inherited = b := by
  induction ds with
  | nil => simp [explicitAll]
  | cons d ds ih => simp [explicitAll, ih, eq_comm]

theorem parts_explicit (inherited : EntityKind) (d : Descriptor) :
    (d.explicit inherited).parts = explicitAll (d.domain.getD inherited) d.parts := by
  obtain ⟨name, domain, operator, type, value, children⟩ := d
  simp only [explicit, parts, operator?]
  split <;> rfl

theorem domain_explicit (d : Descriptor) :
    ∀ inherited, ∀ b ∈ (d.explicit inherited).preorder, b.domain.isSome = true := by
  induction d using induction_children with
  | step d ih =>
      intro inherited b hb
      rw [preorder_eq, parts_explicit] at hb
      rcases List.mem_cons.mp hb with rfl | hpart
      · cases d
        rfl
      · obtain ⟨part, hmem, hb⟩ := mem_preorderAll.mp hpart
        obtain ⟨child, hchild, rfl⟩ := mem_explicitAll.mp hmem
        exact ih child (mem_children_of_mem_parts hchild) _ b hb

theorem compileAll_explicit {inherited other : EntityKind} {ds : List Descriptor}
    (ih : ∀ d ∈ ds, (d.explicit inherited).compile other = d.compile inherited) :
    compileAll other (explicitAll inherited ds) = compileAll inherited ds := by
  induction ds with
  | nil => rfl
  | cons d ds ihtail =>
      have htail := ihtail fun d' hd' => ih d' (List.mem_cons_of_mem d hd')
      rw [explicitAll, compileAll, compileAll, ih d List.mem_cons_self, htail]

theorem explicitAll_isEmpty (inherited : EntityKind) (ds : List Descriptor) :
    (explicitAll inherited ds).isEmpty = ds.isEmpty := by
  cases ds <;> rfl

/-- Inheritance is a shorthand: once every domain is written out, what is inherited from above no
longer matters. -/
theorem compile_explicit (d : Descriptor) :
    ∀ inherited other, (d.explicit inherited).compile other = d.compile inherited := by
  induction d using induction_children with
  | step d ih =>
      intro inherited other
      obtain ⟨name, domain, operator, type, value, children⟩ := d
      have hchildren : compileAll (domain.getD inherited)
          (explicitAll (domain.getD inherited) children) =
            compileAll (domain.getD inherited) children :=
        compileAll_explicit fun child hchild => ih child hchild _ _
      simp only [explicit, compile, Option.getD_some, hchildren, explicitAll_isEmpty]
      rfl

end Descriptor
end Shortlist
