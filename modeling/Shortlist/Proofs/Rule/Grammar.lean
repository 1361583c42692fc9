import Shortlist.Proofs.Rule.Compiled
/-! The grammar of rules. Each descriptor has requirements of its own, checked in one order; it is
well formed if it meets them and so do the descriptors it is made of. -/
namespace Shortlist

/-! ### Words -/

/-- Text that names a property of the user or of the item. -/
def Value.IsReference (v : Value) : Prop :=
  ∃ (scope : EntityKind) (key : String), key ≠ "" ∧ v = .string (scope.name ++ "." ++ key)

namespace Operand

theorem keyAfter?_eq_some {lead s key : String} :
    keyAfter? lead s = some key ↔ key ≠ "" ∧ s = lead ++ key := by
  simp only [keyAfter?, Bool.and_eq_true, List.isPrefixOf_iff_prefix, decide_eq_true_eq]
  constructor
  · intro h
    split at h
    · next hlead =>
        obtain ⟨⟨rest, hrest⟩, hlength⟩ := hlead
        have hkey : key = String.ofList rest := by
          rw [← Option.some.inj h, ← hrest, ← String.length_toList, List.drop_left]
        have hs : s = lead ++ key := by
          apply String.toList_inj.mp
          rw [hkey, String.toList_append, String.toList_ofList, hrest]
        refine ⟨?_, hs⟩
        rintro rfl
        rw [hs, String.toList_append, List.length_append, String.length_toList] at hlength
        exact Nat.lt_irrefl _ hlength
    · cases h
  · rintro ⟨hne, rfl⟩
    have hkey : 0 < key.toList.length :=
      List.length_pos_iff.mpr fun h => hne (String.toList_eq_nil_iff.mp h)
    have hlength : lead.length < (lead ++ key).toList.length := by
      rw [String.toList_append, List.length_append, String.length_toList]
      omega
    rw [if_pos ⟨⟨key.toList, String.toList_append.symm⟩, hlength⟩, String.toList_append,
      ← String.length_toList, List.drop_left, String.ofList_toList]

theorem parse_eq_reference {v : Value} {scope : EntityKind} {key : String} :
    parse v = .reference scope key ↔
      key ≠ "" ∧ v = .string (scope.name ++ "." ++ key) := by
  cases v with
  | string s =>
      simp only [Value.string.injEq]
      constructor
      · intro h
        simp only [parse] at h
        split at h
        · next k hk => cases h; exact keyAfter?_eq_some.mp hk
        · split at h
          · next k hk => cases h; exact keyAfter?_eq_some.mp hk
          · cases h
      · rintro ⟨hne, rfl⟩
        cases scope with
        | user =>
            have hk : keyAfter? "user." (EntityKind.user.name ++ "." ++ key) = some key :=
              keyAfter?_eq_some.mpr ⟨hne, rfl⟩
            simp only [parse, hk]
        | item =>
            have hk : keyAfter? "item." (EntityKind.item.name ++ "." ++ key) = some key :=
              keyAfter?_eq_some.mpr ⟨hne, rfl⟩
            have hu : keyAfter? "user." (EntityKind.item.name ++ "." ++ key) = none := by
              simp [keyAfter?, EntityKind.name]
            simp only [parse, hu, hk]
  | null | bool b | int n | float x | list items | map entries => simp [parse]

theorem parse_of_not_isReference {v : Value} (h : ¬ v.IsReference) : parse v = .literal v := by
  cases hv : parse v with
  | reference scope key => exact absurd ⟨scope, key, parse_eq_reference.mp hv⟩ h
  | literal w =>
      simp only [parse] at hv
      split at hv
      · split at hv
        · cases hv
        · split at hv
          · cases hv
          · exact hv.symm
      · exact hv.symm

end Operand

/-- The types that a comparison makes sense on, each with the type of the operand. -/
inductive Comparison.Allowed : Comparison → ValueType → ValueType → Prop
  | equality {c : Comparison} {ty : ValueType} :
      c ∈ [.equal, .notEqual] → ty ∈ [.string, .int, .float, .bool] → Allowed c ty ty
  | threshold {c : Comparison} {ty : ValueType} :
      c ∈ [.atLeast, .above, .atMost, .below] → ty ∈ [.int, .float] → Allowed c ty ty
  | overlap {c : Comparison} (el : ScalarType) :
      c ∈ [.contains, .notContains] → Allowed c (.list el) (.list el)
  | membership {c : Comparison} {ty : ValueType} (el : ScalarType) :
      c ∈ [.isIn, .notIn] → ty ∈ [el.toValueType, .list el] → Allowed c ty (.list el)

theorem Comparison.operandType?_eq_some {c : Comparison} {ty operandType : ValueType} :
    c.operandType? ty = some operandType ↔ c.Allowed ty operandType := by
  constructor
  · intro h
    cases c with
    | equal | notEqual => cases ty <;> cases h <;> exact .equality (by decide) (by decide)
    | atLeast | above | atMost | below =>
        cases ty <;> cases h <;> exact .threshold (by decide) (by decide)
    | contains | notContains =>
        cases ty <;> cases h
        exact .overlap _ (by decide)
    | isIn | notIn =>
        cases ty <;> cases h <;> exact .membership _ (by decide) (by simp [ScalarType.toValueType])
  · intro h
    cases h with
    | equality hc hty =>
        simp only [List.mem_cons, List.not_mem_nil, or_false] at hc hty
        rcases hc with rfl | rfl <;> rcases hty with rfl | rfl | rfl | rfl <;> rfl
    | threshold hc hty =>
        simp only [List.mem_cons, List.not_mem_nil, or_false] at hc hty
        rcases hc with rfl | rfl | rfl | rfl <;> rcases hty with rfl | rfl <;> rfl
    | overlap el hc =>
        simp only [List.mem_cons, List.not_mem_nil, or_false] at hc
        rcases hc with rfl | rfl <;> rfl
    | membership el hc hty =>
        simp only [List.mem_cons, List.not_mem_nil, or_false] at hc hty
        rcases hc with rfl | rfl <;> rcases hty with rfl | rfl <;> cases el <;> rfl

namespace Descriptor

def operator? (d : Descriptor) : Option Operator := Operator.ofName? (Text.trim d.operator)

def property (d : Descriptor) : String := Text.trim d.name

def type? (d : Descriptor) : Option ValueType := ValueType.ofSpelling? (Text.trim d.type)

def combinatorWord (d : Descriptor) : String := Text.lowerAscii (Text.trim d.type)

/-- The descriptors that a descriptor is made of: the children of a rule over rules. Others may
have children too, which are never looked at. -/
def parts (d : Descriptor) : List Descriptor :=
  match d.operator? with
  | some .combine => d.children
  | _ => []

/-- The requirements that a descriptor has to meet itself. -/
inductive Sound (d : Descriptor) : Prop
  | combine :
      d.operator? = some .combine → d.combinatorWord ∈ ["and", "or"] → d.children ≠ [] → Sound d
  | presence {wanted : Bool} :
      d.operator? = some (.presence wanted) → d.property ≠ "" → Sound d
  | compare {c : Comparison} {ty operandType : ValueType} {v : Value} :
      d.operator? = some (.compare c) → d.property ≠ "" → d.type? = some ty →
      c.Allowed ty operandType → d.value = some v → v ≠ .null →
      (v.IsReference ∨ ∃ w, v.coerce operandType = .ok w) → Sound d

inductive WellFormed : Descriptor → Prop
  | intro {d : Descriptor} : d.Sound → (∀ part ∈ d.parts, WellFormed part) → WellFormed d

/-- The first of its own requirements that a descriptor does not meet, as it is reported. -/
inductive Fault (d : Descriptor) : CompileError → Prop
  | unknownOperator : d.operator? = none → Fault d (.unknownOperator d.name d.operator)
  | unknownCombinator :
      d.operator? = some .combine → d.combinatorWord ∉ ["and", "or"] →
      Fault d (.unknownCombinator d.combinatorWord)
  | noChildren :
      d.operator? = some .combine → d.combinatorWord ∈ ["and", "or"] → d.children = [] →
      Fault d (.noChildren d.name)
  | noName {op : Operator} :
      d.operator? = some op → op ≠ .combine → d.property = "" →
      Fault d (.missingField d.operator .name)
  | unknownType {c : Comparison} :
      d.operator? = some (.compare c) → d.property ≠ "" → d.type? = none →
      Fault d (.unknownType d.property (ValueType.unknownReason (Text.trim d.type)))
  | unsupportedType {c : Comparison} {ty : ValueType} :
      d.operator? = some (.compare c) → d.property ≠ "" → d.type? = some ty →
      (∀ operandType, ¬ c.Allowed ty operandType) → Fault d (.unsupportedType d.property c ty)
  | noValue {c : Comparison} {ty operandType : ValueType} :
      d.operator? = some (.compare c) → d.property ≠ "" → d.type? = some ty →
      c.Allowed ty operandType → (∀ v, d.value = some v → v = .null) →
      Fault d (.missingField d.property .value)
  | invalidLiteral {c : Comparison} {ty operandType : ValueType} {v : Value}
      {source : CoercionError} :
      d.operator? = some (.compare c) → d.property ≠ "" → d.type? = some ty →
      c.Allowed ty operandType → d.value = some v → v ≠ .null → ¬ v.IsReference →
      v.coerce operandType = .error source → Fault d (.invalidLiteral d.property source)

mutual
/-- A descriptor and all it is made of, each before its parts, from left to right. -/
def preorder : Descriptor → List Descriptor
  | d@⟨_, _, operator, _, _, children⟩ =>
    d :: match Operator.ofName? (Text.trim operator) with
      | some .combine => preorderAll children
      | _ => []

def preorderAll : List Descriptor → List Descriptor
  | [] => []
  | d :: ds => preorder d ++ preorderAll ds
end

theorem preorder_eq (d : Descriptor) : d.preorder = d :: preorderAll d.parts := by
  obtain ⟨name, domain, operator, type, value, children⟩ := d
  simp only [preorder, parts, operator?]
  split <;> rfl

/-! ### What the checks read -/

section checks
variable {d : Descriptor}

theorem parse_operator {op : Operator} (h : d.operator? = some op) :
    Operator.parse d.operator = .ok op := by
  simp only [operator?] at h
  simp only [Operator.parse, h]

theorem parse_operator_unknown (h : d.operator? = none) :
    Operator.parse d.operator = .error (Operator.unknownReason (Text.trim d.operator)) := by
  simp only [operator?] at h
  simp only [Operator.parse, h]

theorem parse_type {ty : ValueType} (h : d.type? = some ty) : ValueType.parse d.type = .ok ty := by
  simp only [type?] at h
  simp only [ValueType.parse, h]

theorem parse_type_unknown (h : d.type? = none) :
    ValueType.parse d.type = .error (ValueType.unknownReason (Text.trim d.type)) := by
  simp only [type?] at h
  simp only [ValueType.parse, h]

theorem parse_combinator (h : d.combinatorWord ∈ ["and", "or"]) :
    ∃ c, Combinator.parse d.type = .ok c := by
  simp only [List.mem_cons, List.not_mem_nil, or_false, combinatorWord] at h
  cases h with
  | inl h => exact ⟨.and, by simp only [Combinator.parse, h]⟩
  | inr h => exact ⟨.or, by simp only [Combinator.parse, h]⟩

theorem parse_combinator_unknown (h : d.combinatorWord ∉ ["and", "or"]) :
    Combinator.parse d.type = .error d.combinatorWord := by
  simp only [List.mem_cons, List.not_mem_nil, or_false, not_or] at h
  simp only [Combinator.parse, combinatorWord] at h ⊢
  split
  · exact absurd ‹_› h.1
  · exact absurd ‹_› h.2
  · rfl

theorem requiredName_of_ne (h : d.property ≠ "") : d.requiredName = .ok d.property := by
  have hempty : ¬ (Text.trim d.name).isEmpty = true := fun he => h (String.isEmpty_iff.mp he)
  simp only [requiredName, if_neg hempty, property]

theorem requiredName_of_eq (h : d.property = "") :
    d.requiredName = .error (.missingField d.operator .name) := by
  have hempty : (Text.trim d.name).isEmpty = true := String.isEmpty_iff.mpr h
  simp only [requiredName, if_pos hempty]

theorem isNull_iff {v : Value} : v.isNull = true ↔ v = .null := by
  cases v <;> simp [Value.isNull]

theorem requiredValue_of_some {v : Value} (h : d.value = some v) (hv : v ≠ .null) (name : String) :
    d.requiredValue name = .ok v := by
  simp only [requiredValue, h, if_neg fun hnull => hv (isNull_iff.mp hnull)]

theorem requiredValue_of_none (h : ∀ v, d.value = some v → v = .null) (name : String) :
    d.requiredValue name = .error (.missingField name .value) := by
  simp only [requiredValue]
  split
  · next v hv => rw [if_pos (isNull_iff.mpr (h v hv))]
  · rfl

end checks

/-! ### What the compiler does -/

section compile
variable {d : Descriptor} (inherited : EntityKind)

theorem compile_unknown {reason : String} (hop : Operator.parse d.operator = .error reason) :
    d.compile inherited = .error (.unknownOperator d.name d.operator) := by
  obtain ⟨name, domain, operator, type, value, children⟩ := d
  simp only at hop
  simp only [compile, hop]

theorem compile_combine_unknown {word : String} (hop : Operator.parse d.operator = .ok .combine)
    (hword : Combinator.parse d.type = .error word) :
    d.compile inherited = .error (.unknownCombinator word) := by
  obtain ⟨name, domain, operator, type, value, children⟩ := d
  simp only at hop hword
  simp only [compile, hop, hword]

theorem compile_combine {c : Combinator} (hop : Operator.parse d.operator = .ok .combine)
    (hc : Combinator.parse d.type = .ok c) :
    d.compile inherited =
      if d.children.isEmpty then .error (.noChildren d.name)
      else (compileAll (d.domain.getD inherited) d.children).map
        (.combine c (d.domain.getD inherited)) := by
  obtain ⟨name, domain, operator, type, value, children⟩ := d
  simp only at hop hc
  simp only [compile, hop, hc]

theorem compile_presence {wanted : Bool}
    (hop : Operator.parse d.operator = .ok (.presence wanted)) :
    d.compile inherited =
      d.requiredName.map fun property => .presence wanted property (d.domain.getD inherited) := by
  obtain ⟨name, domain, operator, type, value, children⟩ := d
  simp only at hop
  simp only [compile, hop]

theorem compile_compare {c : Comparison} (hop : Operator.parse d.operator = .ok (.compare c)) :
    d.compile inherited = (d.compileLeaf c (d.domain.getD inherited)).map (.compare c) := by
  obtain ⟨name, domain, operator, type, value, children⟩ := d
  simp only at hop
  simp only [compile, hop]

/-- What is left to check of a comparison that makes sense on its type. -/
theorem compileLeaf_of_allowed {c : Comparison} {ty operandType : ValueType} (domain : EntityKind)
    (hname : d.property ≠ "") (hty : d.type? = some ty) (hallowed : c.Allowed ty operandType) :
    d.compileLeaf c domain = do
      let value ← d.requiredValue d.property
      let operand ← compileOperand d.property operandType value
      return { property := d.property, domain, type := ty, operandType, operand } := by
  simp only [compileLeaf, requiredName_of_ne hname, parse_type hty, Except.mapError, ok_bind,
    Comparison.operandType?_eq_some.mpr hallowed]

end compile

theorem compile_of_fault {d : Descriptor} {e : CompileError} (fault : d.Fault e)
    (inherited : EntityKind) : d.compile inherited = .error e := by
  cases fault with
  | unknownOperator hop => exact compile_unknown inherited (parse_operator_unknown hop)
  | unknownCombinator hop hword =>
      exact compile_combine_unknown inherited (parse_operator hop) (parse_combinator_unknown hword)
  | noChildren hop hword hnil =>
      obtain ⟨c, hc⟩ := parse_combinator hword
      rw [compile_combine inherited (parse_operator hop) hc, hnil]
      rfl
  | @noName op hop hne hname =>
      cases op with
      | combine => exact absurd rfl hne
      | presence wanted =>
          rw [compile_presence inherited (parse_operator hop), requiredName_of_eq hname]
          rfl
      | compare c =>
          rw [compile_compare inherited (parse_operator hop), compileLeaf, requiredName_of_eq hname]
          rfl
  | unknownType hop hname hty =>
      rw [compile_compare inherited (parse_operator hop), compileLeaf, requiredName_of_ne hname,
        ok_bind, parse_type_unknown hty]
      rfl
  | @unsupportedType c ty hop hname hty hnot =>
      have hnone : c.operandType? ty = none := by
        cases hoperand : c.operandType? ty with
        | none => rfl
        | some operandType =>
            exact absurd (Comparison.operandType?_eq_some.mp hoperand) (hnot operandType)
      rw [compile_compare inherited (parse_operator hop)]
      simp only [compileLeaf, requiredName_of_ne hname, parse_type hty, Except.mapError, ok_bind,
        hnone]
      rfl
  | noValue hop hname hty hallowed hvalue =>
      rw [compile_compare inherited (parse_operator hop),
        compileLeaf_of_allowed _ hname hty hallowed, requiredValue_of_none hvalue]
      rfl
  | invalidLiteral hop hname hty hallowed hvalue hne hliteral hcoerce =>
      rw [compile_compare inherited (parse_operator hop),
        compileLeaf_of_allowed _ hname hty hallowed, requiredValue_of_some hvalue hne, ok_bind,
        compileOperand, Operand.parse_of_not_isReference hliteral]
      simp only [hcoerce]
      rfl

theorem compileOperand_ok {v : Value} {ty : ValueType}
    (h : v.IsReference ∨ ∃ w, v.coerce ty = .ok w) (name : String) :
    ∃ operand, compileOperand name ty v = .ok operand := by
  by_cases href : v.IsReference
  · obtain ⟨scope, key, hkey⟩ := href
    exact ⟨.reference scope key, by simp only [compileOperand, Operand.parse_eq_reference.mpr hkey]⟩
  · obtain ⟨w, hw⟩ := h.resolve_left href
    exact ⟨.literal w, by simp only [compileOperand, Operand.parse_of_not_isReference href, hw]⟩

/-- A descriptor that meets its own requirements compiles if its parts do. -/
theorem compile_of_sound {d : Descriptor} (sound : d.Sound) (inherited : EntityKind) :
    ∃ build : List Rule → Rule,
      d.compile inherited = (compileAll (d.domain.getD inherited) d.parts).map build := by
  cases sound with
  | combine hop hword hne =>
      obtain ⟨c, hc⟩ := parse_combinator hword
      refine ⟨.combine c (d.domain.getD inherited), ?_⟩
      rw [compile_combine inherited (parse_operator hop) hc, if_neg (by simpa using hne)]
      simp only [parts, hop]
  | @presence wanted hop hname =>
      refine ⟨fun _ => .presence wanted d.property (d.domain.getD inherited), ?_⟩
      rw [compile_presence inherited (parse_operator hop), requiredName_of_ne hname]
      simp only [parts, hop, compileAll, Except.map]
  | @compare c ty operandType v hop hname hty hallowed hvalue hne hoperand =>
      obtain ⟨operand, hoperand⟩ := compileOperand_ok hoperand d.property
      let leaf : Leaf := ⟨d.property, d.domain.getD inherited, ty, operandType, operand⟩
      have hleaf : d.compileLeaf c (d.domain.getD inherited) = .ok leaf := by
        rw [compileLeaf_of_allowed _ hname hty hallowed, requiredValue_of_some hvalue hne, ok_bind,
          hoperand]
        rfl
      refine ⟨fun _ => .compare c leaf, ?_⟩
      rw [compile_compare inherited (parse_operator hop), hleaf]
      simp only [parts, hop, compileAll, Except.map]

theorem Fault.not_sound {d : Descriptor} {e : CompileError} (fault : d.Fault e) : ¬ d.Sound := by
  intro sound
  by_cases hparts : d.parts = []
  · obtain ⟨build, hcompile⟩ := compile_of_sound sound .item
    rw [compile_of_fault fault, hparts] at hcompile
    cases hcompile
  · -- only a rule over rules has parts, and it has no faults but those of such rules
    cases sound with
    | combine hop hword hne =>
        cases fault with
        | unknownCombinator _ hunknown => exact hunknown hword
        | noChildren _ _ hnil => exact hne hnil
        | noName hop' hother => exact hother (Option.some.inj (hop'.symm.trans hop))
        | unknownOperator hop' => simp [hop] at hop'
        | unknownType hop' => simp [hop] at hop'
        | unsupportedType hop' => simp [hop] at hop'
        | noValue hop' => simp [hop] at hop'
        | invalidLiteral hop' => simp [hop] at hop'
    | presence hop | compare hop => simp [parts, hop] at hparts

theorem sound_or_fault_of_compare {d : Descriptor} {c : Comparison}
    (hop : d.operator? = some (.compare c)) (hname : d.property ≠ "") :
    d.Sound ∨ ∃ e, d.Fault e := by
  cases hty : d.type? with
  | none => exact .inr ⟨_, .unknownType hop hname hty⟩
  | some ty =>
      by_cases hpair : ∃ operandType, c.Allowed ty operandType
      · obtain ⟨operandType, hallowed⟩ := hpair
        by_cases hvalue : ∃ v, d.value = some v ∧ v ≠ .null
        · obtain ⟨v, hv, hne⟩ := hvalue
          by_cases href : v.IsReference
          · exact .inl (.compare hop hname hty hallowed hv hne (.inl href))
          · cases hcoerce : v.coerce operandType with
            | ok w => exact .inl (.compare hop hname hty hallowed hv hne (.inr ⟨w, hcoerce⟩))
            | error source =>
                exact .inr ⟨_, .invalidLiteral hop hname hty hallowed hv hne href hcoerce⟩
        · have hnone : ∀ v, d.value = some v → v = .null :=
            fun v hv => Classical.byContradiction fun hne => hvalue ⟨v, hv, hne⟩
          exact .inr ⟨_, .noValue hop hname hty hallowed hnone⟩
      · exact .inr ⟨_, .unsupportedType hop hname hty fun operandType h => hpair ⟨operandType, h⟩⟩

theorem sound_or_fault (d : Descriptor) : d.Sound ∨ ∃ e, d.Fault e := by
  cases hop : d.operator? with
  | none => exact .inr ⟨_, .unknownOperator hop⟩
  | some op =>
      cases op with
      | combine =>
          by_cases hword : d.combinatorWord ∈ ["and", "or"]
          · by_cases hnil : d.children = []
            · exact .inr ⟨_, .noChildren hop hword hnil⟩
            · exact .inl (.combine hop hword hnil)
          · exact .inr ⟨_, .unknownCombinator hop hword⟩
      | presence wanted =>
          by_cases hname : d.property = ""
          · exact .inr ⟨_, .noName hop (by simp) hname⟩
          · exact .inl (.presence hop hname)
      | compare c =>
          by_cases hname : d.property = ""
          · exact .inr ⟨_, .noName hop (by simp) hname⟩
          · exact sound_or_fault_of_compare hop hname

end Descriptor
end Shortlist
