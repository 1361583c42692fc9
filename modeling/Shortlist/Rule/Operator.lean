import Shortlist.Text.Blank
/-! The operators that a rule may name. -/
namespace Shortlist

/-- Comparisons of a property with an operand. The spellings `greater` and `less` admit equality,
`greaterThan` and `lessThan` are strict. -/
inductive Comparison where
  | equal | notEqual
  | isIn | notIn
  | contains | notContains
  | atLeast | above | atMost | below
deriving DecidableEq, Repr

inductive Combinator where
  | and | or
deriving DecidableEq, Repr

inductive Operator where
  | compare (c : Comparison)
  | presence (wanted : Bool)
  | combine
deriving DecidableEq, Repr

def Comparison.name : Comparison → String
  | .equal => "equal"
  | .notEqual => "not_equal"
  | .isIn => "in"
  | .notIn => "not_in"
  | .contains => "contains"
  | .notContains => "not_contains"
  | .atLeast => "greater"
  | .above => "greaterThan"
  | .atMost => "less"
  | .below => "lessThan"

def Combinator.name : Combinator → String
  | .and => "and"
  | .or => "or"

namespace Operator

def name : Operator → String
  | .compare c => c.name
  | .presence true => "is_not_null"
  | .presence false => "is_null"
  | .combine => "bool"

def ofName? : String → Option Operator
  | "equal" => some (.compare .equal)
  | "not_equal" => some (.compare .notEqual)
  | "in" => some (.compare .isIn)
  | "not_in" => some (.compare .notIn)
  | "contains" => some (.compare .contains)
  | "not_contains" => some (.compare .notContains)
  | "greater" => some (.compare .atLeast)
  | "greaterThan" => some (.compare .above)
  | "less" => some (.compare .atMost)
  | "lessThan" => some (.compare .below)
  | "is_null" => some (.presence false)
  | "is_not_null" => some (.presence true)
  | "bool" => some .combine
  | _ => none

def unknownReason (word : String) : String := "unknown operator kind: '" ++ word ++ "'"

/-- Blanks around the name do not matter, case does. -/
def parse (text : String) : Except String Operator :=
  let word := Text.trim text
  match ofName? word with
  | some op => .ok op
  | none => .error (unknownReason word)

theorem ofName?_name (op : Operator) : ofName? op.name = some op := by
  cases op with
  | compare c => cases c <;> rfl
  | presence wanted => cases wanted <;> rfl
  | combine => rfl

end Operator

/-- Neither blanks nor case matter; what is left of an unknown word is the error. -/
def Combinator.parse (text : String) : Except String Combinator :=
  match Text.lowerAscii (Text.trim text) with
  | "and" => .ok .and
  | "or" => .ok .or
  | word => .error word

end Shortlist
