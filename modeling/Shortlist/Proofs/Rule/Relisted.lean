import Shortlist.Plan
import Shortlist.Proofs.Rule.Children
import Shortlist.Proofs.Rule.Coerced
import Shortlist.Proofs.Rule.FirstFault
import Shortlist.Proofs.Value.CommaParts
/-! Lists that are written as text. Where a comparison reads a list, it makes no difference how the
list is written, neither to the compiler nor to a verdict or an error. -/
namespace Shortlist

/-- Both values are read as the same list. -/
def Value.SameList (v w : Value) : Prop :=
  ∃ items, v.toList = .ok items ∧ w.toList = .ok items

namespace Value.SameList
variable {v w : Value}

theorem symm (h : SameList v w) : SameList w v := by
  obtain ⟨items, hv, hw⟩ := h
  exact ⟨items, hw, hv⟩

theorem toList_eq (h : SameList v w) : v.toList = w.toList := by
  obtain ⟨items, hv, hw⟩ := h
  rw [hv, hw]

theorem isNull_eq (h : SameList v w) : v.isNull = false := by
  obtain ⟨items, hv, -⟩ := h
  cases v with
  | null => cases hv
  | bool | int | float | string | list | map => rfl

end Value.SameList

open Value

namespace Comparison

/-- Whether the target is read as a list. -/
def listsTarget : Comparison → Bool
  | .contains | .notContains => true
  | _ => false

/-- Whether the operand is read as a list. -/
def listsOperand : Comparison → Bool
  | .isIn | .notIn | .contains | .notContains => true
  | _ => false

variable {c : Comparison} {operandType : ValueType} {v w : Value}

theorem outcome_target (hc : c.listsTarget) (h : SameList v w) (ty : ValueType)
    (expected : Value) : c.outcome ty v expected = c.outcome ty w expected := by
  cases c with
  | contains | notContains => simp only [outcome, h.toList_eq]
  | equal | notEqual | isIn | notIn | atLeast | above | atMost | below => cases hc

theorem outcome_operand (hc : c.listsOperand) (h : SameList v w) (ty : ValueType)
    (actual : Value) : c.outcome ty actual v = c.outcome ty actual w := by
  cases c with
  | isIn | notIn | contains | notContains => simp only [outcome, h.toList_eq]
  | equal | notEqual | atLeast | above | atMost | below => cases hc

theorem operandType_of_listsOperand {ty : ValueType} (hc : c.listsOperand)
    (hty : c.operandType? ty = some operandType) : ∃ e, operandType = .list e := by
  cases c with
  | isIn | notIn =>
      obtain ⟨e, rfl, -⟩ := operandType_isIn hty
      exact ⟨e, rfl⟩
  | contains | notContains =>
      obtain ⟨e, rfl, -⟩ := operandType_contains hty
      exact ⟨e, rfl⟩
  | equal | notEqual | atLeast | above | atMost | below => cases hc

end Comparison

/-! ### Constants -/

namespace Descriptor
variable {v w : Value} {d : Descriptor}

theorem compileOperand_relisted (hv : Operand.parse v = .literal v)
    (hw : Operand.parse w = .literal w) (h : SameList v w) (name : String) (e : ScalarType) :
    compileOperand name (.list e) v = compileOperand name (.list e) w := by
  simp only [compileOperand, hv, hw, coerce, h.toList_eq]

theorem compileLeaf_relisted {c : Comparison} (hc : c.listsOperand)
    (hv : Operand.parse v = .literal v) (hw : Operand.parse w = .literal w) (h : SameList v w)
    (hd : d.value = some v) (domain : EntityKind) :
    { d with value := some w }.compileLeaf c domain = d.compileLeaf c domain := by
  have before (name : String) : d.requiredValue name = .ok v := by
    simp [requiredValue, hd, h.isNull_eq]
  have after (name : String) : { d with value := some w }.requiredValue name = .ok w := by
    simp [requiredValue, h.symm.isNull_eq]
  have named : { d with value := some w }.requiredName = d.requiredName := rfl
  simp only [compileLeaf, before, after, named]
  refine bind_congr fun property => bind_congr fun type => ?_
  cases hty : c.operandType? type with
  | none => rfl
  | some operandType =>
      obtain ⟨e, rfl⟩ := Comparison.operandType_of_listsOperand hc hty
      simp only [ok_bind, compileOperand_relisted hv hw h property e]

/-- The descriptors are the same, but for constants of comparisons that read them as a list. Some
of these may be the second value in place of the first, at any depth. -/
inductive Relisted (v w : Value) : Descriptor → Descriptor → Prop
  | same (d : Descriptor) : Relisted v w d d
  | constant {d : Descriptor} {c : Comparison} :
      Operator.parse d.operator = .ok (.compare c) → c.listsOperand → d.value = some v →
      Relisted v w d { d with value := some w }
  | inside {d : Descriptor} {ds : List Descriptor} :
      List.Forall₂ (Relisted v w) d.children ds → Relisted v w d { d with children := ds }

theorem compile_relisted (hv : Operand.parse v = .literal v) (hw : Operand.parse w = .literal w)
    (h : SameList v w) (d : Descriptor) :
    ∀ d', Relisted v w d d' → ∀ inherited, d'.compile inherited = d.compile inherited := by
  induction d using induction_children with
  | step d ih =>
      intro d' relisted inherited
      cases relisted with
      | same => rfl
      | constant hop hc hd =>
          rw [compile_compare inherited hop, compile_compare (d := { d with value := some w })
            inherited hop, compileLeaf_relisted hc hv hw h hd]
      | inside hchildren =>
          have hall := compileAll_congr hchildren fun child hchild => ih child hchild
          have hempty := isEmpty_of_forall₂ hchildren
          obtain ⟨name, domain, operator, type, value, children⟩ := d
          simp only [compile, hall, hempty]
          rfl

end Descriptor

/-! ### Properties -/

namespace Scopes

/-- One property of one of the two entities is set. -/
def put (s : Scopes) (kind : EntityKind) (key : String) (v : Value) : Scopes :=
  match kind with
  | .user => { s with user := s.user.insert key v }
  | .item => { s with item := s.item.insert key v }

variable {s : Scopes} {kind other : EntityKind} {key name : String} {v w : Value}

theorem of_put_self (s : Scopes) (kind : EntityKind) (key : String) (v : Value) :
    (s.put kind key v).of kind = (s.of kind).insert key v := by
  cases kind <;> rfl

theorem of_put_other (h : kind ≠ other) : (s.put kind key v).of other = s.of other := by
  cases kind with
  | user => cases other with
      | user => exact absurd rfl h
      | item => rfl
  | item => cases other with
      | user => rfl
      | item => exact absurd rfl h

theorem present?_put_self (hv : v.isNull = false) :
    ((s.put kind key v).of kind).present? key = some v := by
  rw [of_put_self, Properties.present?_insert, if_pos rfl, hv]
  rfl

theorem present?_put_other (h : ¬ (other = kind ∧ name = key)) :
    ((s.put kind key v).of other).present? name = (s.of other).present? name := by
  by_cases hkind : kind = other
  · subst hkind
    have hkey : key ≠ name := fun hkey => h ⟨rfl, hkey.symm⟩
    rw [of_put_self, Properties.present?_insert, if_neg hkey]
  · rw [of_put_other hkind]

theorem contains_put (s : Scopes) (kind other : EntityKind) (key name : String) (v w : Value) :
    ((s.put kind key v).of other).contains name = ((s.put kind key w).of other).contains name := by
  by_cases hkind : kind = other
  · subst hkind
    rw [of_put_self, of_put_self, Std.ExtTreeMap.contains_insert, Std.ExtTreeMap.contains_insert]
  · rw [of_put_other hkind, of_put_other hkind]

end Scopes

open Scopes

section
variable {c : Comparison} {leaf : Leaf} {s t : Scopes} {v w : Value} {kind : EntityKind}
  {key : String}

/-- A comparison does not tell two targets or two operands apart that it reads as the same list. -/
theorem Leaf.evaluate_relisted {target target' : Properties}
    (htarget : target.present? leaf.property = target'.present? leaf.property ∨
      c.listsTarget ∧ ∃ v w, target.present? leaf.property = some v ∧
        target'.present? leaf.property = some w ∧ SameList v w)
    (hoperand : leaf.operand.resolve leaf.operandType s = leaf.operand.resolve leaf.operandType t ∨
      c.listsOperand ∧ SameList (leaf.operand.resolve leaf.operandType s)
        (leaf.operand.resolve leaf.operandType t)) :
    leaf.evaluate c target s = leaf.evaluate c target' t := by
  have operand (actual : Value) :
      c.outcome leaf.type actual (leaf.operand.resolve leaf.operandType s) =
        c.outcome leaf.type actual (leaf.operand.resolve leaf.operandType t) := by
    obtain heq | ⟨hc, hsame⟩ := hoperand
    · rw [heq]
    · exact Comparison.outcome_operand hc hsame _ _
  obtain heq | ⟨hc, v, w, hv, hw, hsame⟩ := htarget
  · simp only [evaluate, heq, operand]
  · rw [evaluate_of_present hv, evaluate_of_present hw, Comparison.outcome_target hc hsame, operand]

theorem Leaf.evaluate_target (hc : c.listsTarget) (h : SameList v w) (target : Properties)
    (s : Scopes) :
    leaf.evaluate c (target.insert leaf.property v) s =
      leaf.evaluate c (target.insert leaf.property w) s := by
  refine evaluate_relisted (.inr ⟨hc, v, w, ?_, ?_, h⟩) (.inl rfl)
  · simp [Properties.present?_insert, h.isNull_eq]
  · simp [Properties.present?_insert, h.symm.isNull_eq]

theorem Operand.resolve_put (ty : ValueType) (hv : v.isNull = false) :
    (reference kind key).resolve ty (s.put kind key v) = v := by
  rw [resolve_reference, present?_put_self hv]
  rfl

theorem Leaf.evaluate_operand (hc : c.listsOperand) (h : SameList v w)
    (hoperand : leaf.operand = .reference kind key) (target : Properties) (s : Scopes) :
    leaf.evaluate c target (s.put kind key v) = leaf.evaluate c target (s.put kind key w) := by
  refine evaluate_relisted (.inl rfl) (.inr ⟨hc, ?_⟩)
  rw [hoperand, Operand.resolve_put _ h.isNull_eq, Operand.resolve_put _ h.symm.isNull_eq]
  exact h

theorem Operand.resolve_put_other {operand : Operand} (ty : ValueType)
    (h : operand ≠ .reference kind key) :
    operand.resolve ty (s.put kind key v) = operand.resolve ty s := by
  cases operand with
  | literal => rfl
  | reference scope name =>
      have hother : ¬ (scope = kind ∧ name = key) := by
        rintro ⟨rfl, rfl⟩
        exact h rfl
      rw [resolve_reference, resolve_reference, present?_put_other hother]

/-- Wherever the rule compares the property or compares with it, it reads a list. -/
structure Rule.ReadsAsList (r : Rule) (kind : EntityKind) (key : String) : Prop where
  target : ∀ c leaf, (c, leaf) ∈ r.leaves → leaf.domain = kind ∧ leaf.property = key →
    c.listsTarget
  operand : ∀ c leaf, (c, leaf) ∈ r.leaves → leaf.operand = .reference kind key → c.listsOperand

theorem Rule.ReadsAsList.child {combinator : Combinator} {domain : EntityKind}
    {children : List Rule} (h : (Rule.combine combinator domain children).ReadsAsList kind key)
    {r : Rule} (hr : r ∈ children) : r.ReadsAsList kind key where
  target c leaf hleaf := h.target c leaf (mem_leavesAll.mpr ⟨r, hr, hleaf⟩)
  operand c leaf hleaf := h.operand c leaf (mem_leavesAll.mpr ⟨r, hr, hleaf⟩)

theorem Rule.verdict_relisted (h : SameList v w) (s : Scopes) (r : Rule) :
    r.ReadsAsList kind key → r.verdict (s.put kind key v) = r.verdict (s.put kind key w) := by
  induction r using induction_children with
  | compare c leaf =>
      intro reads
      refine Leaf.evaluate_relisted ?_ ?_
      · by_cases htarget : leaf.domain = kind ∧ leaf.property = key
        · have hc := reads.target c leaf (List.mem_singleton_self _) htarget
          obtain ⟨rfl, rfl⟩ := htarget
          exact .inr ⟨hc, v, w, present?_put_self h.isNull_eq, present?_put_self h.symm.isNull_eq, h⟩
        · left
          exact (present?_put_other htarget).trans (present?_put_other htarget).symm
      · by_cases hoperand : leaf.operand = .reference kind key
        · refine .inr ⟨reads.operand c leaf (List.mem_singleton_self _) hoperand, ?_⟩
          rw [hoperand, Operand.resolve_put _ h.isNull_eq, Operand.resolve_put _ h.symm.isNull_eq]
          exact h
        · left
          rw [Operand.resolve_put_other _ hoperand, Operand.resolve_put_other _ hoperand]
  | presence wanted property domain =>
      intro _
      simp only [verdict, evaluate, Rule.domain, contains_put s kind domain key property v w]
  | combine combinator domain children ih =>
      intro reads
      have same := fun r hr => ih r hr (reads.child hr)
      cases combinator with
      | and => exact evaluateAll_congr same
      | or => exact evaluateAny_congr same

end

namespace Plan

/-- The plan reads a property as a list wherever it reads its value. -/
def ReadsAsList (p : Plan) (kind : EntityKind) (key : String) : Prop :=
  ∀ r ∈ p.rules, r.ReadsAsList kind key

theorem evaluate_relisted {p : Plan} {v w : Value} {kind : EntityKind} {key : String}
    (h : SameList v w) (reads : p.ReadsAsList kind key) (s : Scopes) :
    p.evaluate (s.put kind key v) = p.evaluate (s.put kind key w) := by
  have same : ∀ r ∈ p.userRules ++ p.itemRules,
      r.verdict (s.put kind key v) = r.verdict (s.put kind key w) :=
    fun r hr => r.verdict_relisted h s (reads r hr)
  obtain ⟨user, item⟩ := List.forall_mem_append.mp same
  simp only [evaluate, Rule.evaluateAll_congr user, Rule.evaluateAll_congr item]

theorem compile_relisted {v w : Value} (h : SameList v w) (hv : Operand.parse v = .literal v)
    (hw : Operand.parse w = .literal w) {ds ds' : List Descriptor}
    (relisted : List.Forall₂ (Descriptor.Relisted v w) ds ds') : compile ds' = compile ds := by
  have all := Descriptor.compileAll_congr relisted
    (fun d _ => d.compile_relisted hv hw h) .item
  rw [compile, compile, all]

/-- Text that lists some parts between commas is the list of these parts. It may stand for the list
as a constant, unless it names a property, as a target that is read as a list, as what a reference
resolves to, and as a property of a plan in several such places at once. -/
theorem comma_text_for_list {text : String} {parts : List String} (h : Text.Lists text parts) :
    let listed := Value.list (parts.map .string)
    let written := Value.string text
    written.toList = .ok (parts.map .string) ∧
    (Operand.parse written = .literal written →
      ∀ ds ds', List.Forall₂ (Descriptor.Relisted listed written) ds ds' →
        compile ds' = compile ds) ∧
    (∀ c : Comparison, c.listsTarget → ∀ (leaf : Leaf) (target : Properties) (s : Scopes),
      (Rule.compare c leaf).evaluate (target.insert leaf.property written) s =
        (Rule.compare c leaf).evaluate (target.insert leaf.property listed) s) ∧
    (∀ c : Comparison, c.listsOperand → ∀ (leaf : Leaf) (kind : EntityKind) (key : String),
      leaf.operand = .reference kind key → ∀ (target : Properties) (s : Scopes),
        (Rule.compare c leaf).evaluate target (s.put kind key written) =
          (Rule.compare c leaf).evaluate target (s.put kind key listed)) ∧
    ∀ (p : Plan) (kind : EntityKind) (key : String), p.ReadsAsList kind key → ∀ s : Scopes,
      p.evaluate (s.put kind key written) = p.evaluate (s.put kind key listed) := by
  intro listed written
  have read : written.toList = .ok (parts.map .string) := by
    simp only [written, toList, h.commaParts_eq]
  have same : SameList written listed := ⟨_, read, rfl⟩
  refine ⟨read, ?_, ?_, ?_, ?_⟩
  · intro hwritten ds ds' relisted
    exact compile_relisted same.symm rfl hwritten relisted
  · intro c hc leaf target s
    exact Leaf.evaluate_target hc same target s
  · intro c hc leaf kind key hoperand target s
    exact Leaf.evaluate_operand hc same hoperand target s
  · intro p kind key reads s
    exact evaluate_relisted same reads s

/-- Tags as a feed writes them, with blanks around a tag and a piece that is empty. -/
def feedTags : String := " tech,, live music ,"

def tagDescriptor (tags : Value) : Descriptor :=
  .combine .item "or" [.leaf .item "genre" "not_in" "string" tags,
    .leaf .item "tags" "contains" "[]string" (.string "user.likes")]

/-- Whether the item shares a tag with what the user likes. -/
def sharedTag : Leaf where
  property := "tags"
  domain := .item
  type := .list .string
  operandType := .list .string
  operand := .reference .user "likes"

theorem comma_text_of_feed :
    let parts := ["tech", "live music"]
    let listed := Value.list [.string "tech", .string "live music"]
    let written := Value.string feedTags
    let p : Plan := { itemRules := [.compare .contains sharedTag] }
    let s : Scopes := ⟨.ofEntries [("likes", .string "live music")], ∅⟩
    Text.Lists feedTags parts ∧ Operand.parse written = .literal written ∧
      compile [tagDescriptor written] = compile [tagDescriptor listed] ∧
      p.ReadsAsList .item "tags" ∧
      p.evaluate (s.put .item "tags" written) = p.evaluate (s.put .item "tags" listed) := by
  have lists : Text.Lists feedTags ["tech", "live music"] := Text.lists_iff.mpr (by cbv)
  have hwritten : Operand.parse (.string feedTags) = .literal (.string feedTags) := by rfl
  have reads : Plan.ReadsAsList { itemRules := [.compare .contains sharedTag] } .item "tags" := by
    intro r hr
    obtain rfl := List.mem_singleton.mp hr
    refine ⟨fun c leaf hleaf _ => ?_, fun c leaf hleaf _ => ?_⟩
    all_goals
      cases List.mem_singleton.mp hleaf
      rfl
  obtain ⟨-, compiled, -, -, evaluated⟩ := comma_text_for_list lists
  refine ⟨lists, hwritten, ?_, reads, evaluated _ _ _ reads _⟩
  refine compiled hwritten _ _ (.cons (.inside (.cons ?_ (.cons (.same _) .nil))) .nil)
  exact .constant (c := .notIn) rfl rfl rfl

end Plan
end Shortlist
