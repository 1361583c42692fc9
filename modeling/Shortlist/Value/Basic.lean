import Shortlist.Number.Digits
import Shortlist.Number.Shortest
import Shortlist.Text.Quoted
/-! Property values. Producers write whatever shape their source returns; consumers ask for the
type they need and never look at the shape themselves. -/
namespace Shortlist

/-- A dynamically typed value. A map lists its entries in key order, each key once. -/
inductive Value where
  | null
  | bool (b : Bool)
  | int (n : Int64)
  | float (x : Float)
  | string (s : String)
  | list (items : List Value)
  | map (entries : List (String × Value))
deriving BEq, Inhabited

inductive Shape where
  | null | bool | int | float | string | list | map
deriving DecidableEq, Repr

def Shape.name : Shape → String
  | .null => "null"
  | .bool => "bool"
  | .int => "int"
  | .float => "float"
  | .string => "string"
  | .list => "list"
  | .map => "map"

namespace Value

def shape : Value → Shape
  | .null => .null
  | .bool _ => .bool
  | .int _ => .int
  | .float _ => .float
  | .string _ => .string
  | .list _ => .list
  | .map _ => .map

def isNull : Value → Bool
  | .null => true
  | _ => false

def isList : Value → Bool
  | .list _ => true
  | _ => false

def boolText (b : Bool) : String := if b then "true" else "false"

def int64Text (n : Int64) : String := Number.intText n.toInt

mutual
/-- One-line rendering for logs. Only the size of a map is shown. -/
def display : Value → String
  | .null => "null"
  | .bool b => boolText b
  | .int n => int64Text n
  | .float x => Number.floatText x
  | .string s => Text.quoted s
  | .list items => "[" ++ displayItems items ++ "]"
  | .map entries => "map[" ++ Number.intText entries.length ++ "]"

def displayItems : List Value → String
  | [] => ""
  | [v] => display v
  | v :: vs => display v ++ ", " ++ displayItems vs
end

end Value
end Shortlist
