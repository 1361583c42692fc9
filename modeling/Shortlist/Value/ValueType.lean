import Shortlist.Text.Blank
/-! The types a rule may declare. -/
namespace Shortlist

inductive ScalarType where
  | string | int | float
deriving DecidableEq, Repr

inductive ValueType where
  | string | int | float | bool
  | list (element : ScalarType)
deriving DecidableEq, Repr

def ScalarType.toValueType : ScalarType → ValueType
  | .string => .string
  | .int => .int
  | .float => .float

namespace ValueType

def element : ValueType → ValueType
  | .list e => e.toValueType
  | ty => ty

def isNumeric : ValueType → Bool
  | .int | .float => true
  | _ => false

def isList : ValueType → Bool
  | .list _ => true
  | _ => false

/-- Element type of the list that a single value of this type is looked up in. -/
def scalar? : ValueType → Option ScalarType
  | .string => some .string
  | .int => some .int
  | .float => some .float
  | .list e => some e
  | .bool => none

def name : ValueType → String
  | .string => "string"
  | .int => "int"
  | .float => "float"
  | .bool => "bool"
  | .list .string => "[]string"
  | .list .int => "[]int"
  | .list .float => "[]float"

/-- Every accepted spelling; blanks around it do not matter and case does. -/
def ofSpelling? (word : String) : Option ValueType :=
  match word with
  | "string" => some .string
  | "int" | "int64" | "integer" => some .int
  | "float" | "float64" | "double" => some .float
  | "bool" | "boolean" => some .bool
  | "[]string" | "list<string>" => some (.list .string)
  | "[]int" | "[]int64" | "list<int>" => some (.list .int)
  | "[]float" | "[]float64" | "list<float>" => some (.list .float)
  | _ => none

def unknownReason (word : String) : String := "unknown value type: '" ++ word ++ "'"

def parse (text : String) : Except String ValueType :=
  let word := Text.trim text
  match ofSpelling? word with
  | some ty => .ok ty
  | none => .error (unknownReason word)

end ValueType

def ScalarType.name (s : ScalarType) : String := s.toValueType.name

def ScalarType.parse? : String → Option ScalarType
  | "string" => some .string
  | "int" => some .int
  | "float" => some .float
  | _ => none

end Shortlist
