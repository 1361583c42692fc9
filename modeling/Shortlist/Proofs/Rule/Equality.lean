import Shortlist.Proofs.Number.Distance
import Shortlist.Proofs.Rule.Opposite
/-! Equality of values that coerce to a scalar type. It does not depend on which side a value is
on. A value equals itself unless it is coerced to a decimal that is infinite or not a number. -/
namespace Shortlist

namespace Value

/-- Scalars of one variant that hold the same. Nothing is identical to what is not a number. -/
inductive Identical : Value → Value → Prop
  | string (s : String) : Identical (.string s) (.string s)
  | int (n : Int64) : Identical (.int n) (.int n)
  | float {x y : Float} : (x == y) = true → Identical (.float x) (.float y)
  | bool (b : Bool) : Identical (.bool b) (.bool b)

/-- Whether the value is no decimal that is infinite or not a number. -/
def isFinite : Value → Bool
  | .float x => x.isFinite
  | _ => true

theorem ne_null_of_coerce {ty : ValueType} {a v : Value} (h : a.coerce ty = .ok v) : a ≠ .null := by
  rintro rfl
  cases ty <;> cases h

end Value

namespace Match

variable {ty : ValueType} {a b v w : Value}

theorem same_comm (hv : Canonical ty v) (hw : Canonical ty w) : same v w = same w v := by
  cases hv with
  | string x => cases hw with
      | string y => exact Bool.beq_comm
  | int x => cases hw with
      | int y => exact Bool.beq_comm
  | float x => cases hw with
      | float y => exact floatEq_comm x y
  | bool x => cases hw with
      | bool y => exact Bool.beq_comm
  | list => cases hw with
      | list => rfl

theorem same_self (hty : ty.isList = false) (hv : Canonical ty v) : same v v = v.isFinite := by
  cases hv with
  | string s => exact beq_self_eq_true s
  | int n => exact beq_self_eq_true n
  | float x => exact floatEq_self x
  | bool b => exact beq_self_eq_true b
  | list => cases hty

theorem same_of_identical (h : v.Identical w) : same v w = v.isFinite := by
  cases h with
  | string s => exact beq_self_eq_true s
  | int n => exact beq_self_eq_true n
  | float hxy => exact floatEq_of_beq hxy
  | bool b => exact beq_self_eq_true b

theorem equals_of_coerced (hty : ty.isList = false) (hv : a.coerce ty = .ok v)
    (hw : b.coerce ty = .ok w) : equals ty a b = .ok (same v w) := by
  rw [equals_eq_coerced, ValueType.element_of_isList_false hty, coerced, hv, hw]
  rfl

theorem equals_comm (hty : ty.isList = false) (hv : a.coerce ty = .ok v)
    (hw : b.coerce ty = .ok w) : equals ty a b = equals ty b a := by
  rw [equals_of_coerced hty hv hw, equals_of_coerced hty hw hv,
    same_comm (Value.canonical_of_coerce hv) (Value.canonical_of_coerce hw)]

theorem equals_self (hty : ty.isList = false) (hv : a.coerce ty = .ok v) :
    equals ty a a = .ok v.isFinite := by
  rw [equals_of_coerced hty hv hv, same_self hty (Value.canonical_of_coerce hv)]

end Match

/-! ### Comparisons with a constant -/

namespace Leaf

variable {leaf : Leaf} {target : Properties} {actual v w : Value}

theorem evaluate_of_literal {d : Descriptor} {c : Comparison} {domain : EntityKind}
    (checked : d.LeafChecked c domain leaf) (hc : c = .equal ∨ c = .notEqual)
    (hoperand : leaf.operand = .literal w) (htarget : target[leaf.property]? = some actual)
    (hactual : actual.coerce leaf.type = .ok v) (s : Scopes) :
    leaf.evaluate c target s = .ok (if c = .equal then Match.same v w else !Match.same v w) := by
  have hw : w.coerce leaf.operandType = .ok w := coerce_of_literal checked hoperand
  have present := Properties.present?_of_ne_null htarget (Value.ne_null_of_coerce hactual)
  have hequals (hty : Comparison.equal.operandType? leaf.type = some leaf.operandType) :
      Match.equals leaf.type actual w = .ok (Match.same v w) := by
    obtain ⟨-, htype⟩ := Comparison.operandType_equal hty
    rw [htype] at hw
    rw [Comparison.equals_coerces hty, Match.coerced, hactual, hw]
    rfl
  rw [evaluate_of_present present, hoperand]
  obtain rfl | rfl := hc
  · simp only [Comparison.outcome, Operand.resolve, hequals checked.operandType]
    rfl
  · simp only [Comparison.outcome, Operand.resolve, hequals checked.operandType]
    rfl

end Leaf

/-- Equality on a scalar type does not depend on which side a value is on. A value equals itself
exactly if it is not coerced to a decimal that is infinite or not a number, and so it is with a
compiled comparison on a target that is identical to its constant. -/
theorem Rule.equality_laws {ty : ValueType} {a b v w : Value} (hty : ty.isList = false)
    (hv : a.coerce ty = .ok v) (hw : b.coerce ty = .ok w) :
    Match.equals ty a b = Match.equals ty b a ∧
    Match.equals ty a a = .ok v.isFinite ∧
    ∀ (inherited : EntityKind) (d : Descriptor) (rule : Rule) (leaf : Leaf) (constant : Value)
      (target : Properties) (s : Scopes),
      d.compile inherited = .ok rule → leaf.type = ty → leaf.operand = .literal constant →
      target[leaf.property]? = some a → v.Identical constant →
        ((.equal, leaf) ∈ rule.leaves →
          (Rule.compare .equal leaf).evaluate target s = .ok v.isFinite) ∧
        ((.notEqual, leaf) ∈ rule.leaves →
          (Rule.compare .notEqual leaf).evaluate target s = .ok (!v.isFinite)) := by
  refine ⟨Match.equals_comm hty hv hw, Match.equals_self hty hv, ?_⟩
  rintro inherited d rule leaf constant target s hrule rfl hoperand htarget hidentical
  rw [← Match.same_of_identical hidentical]
  constructor
  · intro hleaf
    obtain ⟨d', domain, checked⟩ := d.leafChecked_of_mem_leaves hrule hleaf
    exact Leaf.evaluate_of_literal checked (.inl rfl) hoperand htarget hv s
  · intro hleaf
    obtain ⟨d', domain, checked⟩ := d.leafChecked_of_mem_leaves hrule hleaf
    exact Leaf.evaluate_of_literal checked (.inr rfl) hoperand htarget hv s

/-- A comparison of the property `limit` of items with a decimal. -/
def limitOf (constant : Float) : Leaf where
  property := "limit"
  domain := .item
  type := .float
  operandType := .float
  operand := .literal (.float constant)

theorem Rule.equality_of_text :
    let target := Properties.ofEntries [("limit", .string "2.5")]
    let s : Scopes := ⟨.ofEntries [], target⟩
    (Value.string "2.5").coerce .float = .ok (.float 2.5) ∧
      (Value.int 2).coerce .float = .ok (.float 2) ∧
      Match.equals .float (.string "2.5") (.int 2) = Match.equals .float (.int 2) (.string "2.5") ∧
      Match.equals .float (.string "2.5") (.string "2.5") = .ok true ∧
      (Descriptor.leaf .item "limit" "equal" "float" (.float 2.5)).compile .item =
        .ok (.compare .equal (limitOf 2.5)) ∧
      (Rule.compare .equal (limitOf 2.5)).evaluate target s = .ok true := by
  have hread : Number.readFloat? (Text.trimmed "2.5".toList) = some 2.5 := by decide +kernel
  have htext : (Value.string "2.5").coerce .float = .ok (.float 2.5) := by
    simp only [Value.coerce, Value.toFloat, hread]
    rfl
  have hint : (Value.int 2).coerce .float = .ok (.float 2) := by rfl
  have hfinite : (Value.float 2.5).isFinite = true := by decide
  have hcompile : (Descriptor.leaf .item "limit" "equal" "float" (.float 2.5)).compile .item =
      .ok (.compare .equal (limitOf 2.5)) := by rfl
  have htarget : (Properties.ofEntries [("limit", .string "2.5")])[(limitOf 2.5).property]? =
      some (.string "2.5") := by
    simp [limitOf, Properties.ofEntries]
  obtain ⟨hcomm, hself, hleaf⟩ := Rule.equality_laws rfl htext hint
  obtain ⟨hequal, -⟩ := hleaf .item _ _ _ _ _ ⟨.ofEntries [], .ofEntries [("limit", .string "2.5")]⟩
    hcompile rfl rfl htarget (.float (by decide))
  refine ⟨htext, hint, hcomm, hfinite ▸ hself, hcompile, ?_⟩
  rw [← hfinite]
  exact hequal (List.mem_singleton_self _)

/-- The item has the very limit that is asked for. It is ordered as equal to it and does not equal
it. -/
theorem Rule.evaluate_unlimited :
    let target := Properties.ofEntries [("limit", .string "inf")]
    let s : Scopes := ⟨.ofEntries [], target⟩
    (Descriptor.leaf .item "limit" "equal" "float" (.string "inf")).compile .item =
        .ok (.compare .equal (limitOf Number.infinity)) ∧
      (Value.string "inf").coerce .float = .ok (.float Number.infinity) ∧
      (Value.float Number.infinity).Identical (.float Number.infinity) ∧
      Match.ordering .float (.string "inf") (.string "inf") = .ok (some .eq) ∧
      Match.equals .float (.string "inf") (.string "inf") = .ok false ∧
      (Rule.compare .equal (limitOf Number.infinity)).evaluate target s = .ok false := by
  have hcoerce : (Value.string "inf").coerce .float = .ok (.float Number.infinity) := by rfl
  have hself : Match.same (.float Number.infinity) (.float Number.infinity) = false := by decide
  have present : (Properties.ofEntries [("limit", .string "inf")]).present?
      (limitOf Number.infinity).property = some (.string "inf") := by
    simp [limitOf, Properties.present?, Properties.ofEntries, Value.isNull]
  have hequals : Match.equals .float (.string "inf") (.float Number.infinity) = .ok false := by
    rw [Match.equals_of_coerced rfl hcoerce rfl, hself]
  refine ⟨by rfl, hcoerce, .float (by decide), ?_, ?_, ?_⟩
  · rw [Match.ordering_eq_coerced (by decide), Match.coerced, hcoerce]
    decide
  · rw [Match.equals_of_coerced rfl hcoerce hcoerce, hself]
  · rw [Rule.evaluate, Leaf.evaluate_of_present present]
    simp only [limitOf, Operand.resolve, Comparison.outcome, hequals]
    rfl

end Shortlist
