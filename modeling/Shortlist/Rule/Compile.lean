import Shortlist.Rule.Basic
import Shortlist.Rule.Descriptor
/-! Compiling descriptors to rules. Every check happens here, in one fixed order, so that a
compiled rule can only fail on the properties it meets. -/
namespace Shortlist

inductive RuleField where
  | name | value
deriving DecidableEq, Repr

def RuleField.label : RuleField → String
  | .name => "Name"
  | .value => "Value"

/-- Why a descriptor is not a rule. `name` is the rule's own name, or its operator when it has
no name. -/
inductive CompileError where
  | unknownOperator (name operator : String)
  | unknownType (name reason : String)
  | unknownCombinator (word : String)
  | missingField (name : String) (field : RuleField)
  | unsupportedType (name : String) (operator : Comparison) (type : ValueType)
  | invalidLiteral (name : String) (source : CoercionError)
  | noChildren (name : String)
deriving DecidableEq, Repr

def CompileError.message : CompileError → String
  | .unknownOperator name operator =>
    "filter '" ++ name ++ "': unknown operator kind '" ++ operator ++ "'"
  | .unknownType name reason => "filter '" ++ name ++ "': " ++ reason
  | .unknownCombinator word =>
    "bool filter: unknown combinator '" ++ word ++ "' (expected 'and' or 'or')"
  | .missingField name field =>
    "filter '" ++ name ++ "': missing required field '" ++ field.label ++ "'"
  | .unsupportedType name operator type =>
    "filter '" ++ name ++ "': operator '" ++ operator.name ++ "' does not support type '" ++
      type.name ++ "'"
  | .invalidLiteral name source =>
    "filter '" ++ name ++ "': invalid literal: " ++ source.message
  | .noChildren name => "bool filter '" ++ name ++ "' has no child filters"

/-- The type of the operand, when the comparison makes sense on the declared type: equality on
scalars, thresholds on numbers, overlap on lists, membership on any type with list elements. -/
def Comparison.operandType? (c : Comparison) (ty : ValueType) : Option ValueType :=
  match c with
  | .equal | .notEqual => if ty.isList then none else some ty
  | .atLeast | .above | .atMost | .below => if ty.isNumeric then some ty else none
  | .contains | .notContains => if ty.isList then some ty else none
  | .isIn | .notIn => ty.scalar?.map .list

namespace Descriptor

def requiredName (d : Descriptor) : Except CompileError String :=
  let name := Text.trim d.name
  if name.isEmpty then .error (.missingField d.operator .name) else .ok name

/-- A null constant counts as none. -/
def requiredValue (d : Descriptor) (name : String) : Except CompileError Value :=
  match d.value with
  | some v => if v.isNull then .error (.missingField name .value) else .ok v
  | none => .error (.missingField name .value)

def compileOperand (name : String) (ty : ValueType) (v : Value) : Except CompileError Operand :=
  match Operand.parse v with
  | .literal v =>
    match v.coerce ty with
    | .ok w => .ok (.literal w)
    | .error source => .error (.invalidLiteral name source)
  | reference => .ok reference

def compileLeaf (d : Descriptor) (c : Comparison) (domain : EntityKind) :
    Except CompileError Leaf := do
  let property ← d.requiredName
  let type ← (ValueType.parse d.type).mapError (.unknownType property)
  let operandType ← match c.operandType? type with
    | some ty => .ok ty
    | none => .error (.unsupportedType property c type)
  let value ← d.requiredValue property
  let operand ← compileOperand property operandType value
  return { property, domain, type, operandType, operand }

mutual
/-- `inherited` is the domain of a descriptor that declares none. -/
def compile (inherited : EntityKind) : Descriptor → Except CompileError Rule
  | d@⟨name, domain?, operator, type, _, children⟩ =>
    let domain := domain?.getD inherited
    match Operator.parse operator with
    | .error _ => .error (.unknownOperator name operator)
    | .ok .combine =>
      match Combinator.parse type with
      | .error word => .error (.unknownCombinator word)
      | .ok c =>
        if children.isEmpty then .error (.noChildren name)
        else (compileAll domain children).map (.combine c domain)
    | .ok (.presence wanted) =>
      d.requiredName.map fun property => .presence wanted property domain
    | .ok (.compare c) => (d.compileLeaf c domain).map (.compare c)

def compileAll (inherited : EntityKind) : List Descriptor → Except CompileError (List Rule)
  | [] => .ok []
  | d :: ds => do
    let rule ← compile inherited d
    let rules ← compileAll inherited ds
    return rule :: rules
end

end Descriptor
end Shortlist
